import Irrd.Utils.LinePieces
import Mathlib.Data.List.DropRight

/-!
# Indentation

What `textwrap.indent` makes of the lines of a text. It puts the indentation before the pieces that
`str.splitlines` finds, unless they are whitespace, so a line has it at its beginning if its first
piece is more than that.
-/

namespace Irrd.Utils

section Pieces

variable {text indentation : List Char} {first others : List Char → List Char}

/-- A piece with its indentation. -/
def indentPiece (indentation line : List Char) : List Char :=
  if strip line = [] then line else indentation ++ line

/-- The text of pieces, of which the first one and the others are changed. -/
def joinPieces (first others : List Char → List Char) :
    List (List Char × List Char) → List Char
  | [] => first []
  | (line, ending) :: pieces =>
    first line ++ ending ++ pieces.flatMap (fun piece ↦ others piece.1 ++ piece.2)

theorem joinPieces_self (hothers : others [] = []) (pieces : List (List Char × List Char)) :
    joinPieces others others pieces = pieces.flatMap (fun piece ↦ others piece.1 ++ piece.2) := by
  cases pieces with
  | nil => exact hothers
  | cons piece pieces => rfl

/-- A character that is no line break belongs to the first piece. -/
theorem joinPieces_cons {ch : Char} (hch : ch ∉ lineBreaks) (text : List Char) :
    joinPieces first others (splitlinesKeepends (ch :: text)) =
      joinPieces (fun line ↦ first (ch :: line)) others (splitlinesKeepends text) := by
  rw [splitlinesKeepends_of_not_break hch]
  cases splitlinesKeepends text with
  | nil => simp [joinPieces]
  | cons piece pieces => rfl

/-- A line break ends the first piece. -/
theorem joinPieces_break {ch : Char} (hch : ch ∈ lineBreaks) (hothers : others [] = [])
    (hreturn : ch = '\r' → ∀ rest, text ≠ '\n' :: rest) :
    joinPieces first others (splitlinesKeepends (ch :: text)) =
      first [] ++ ch :: joinPieces others others (splitlinesKeepends text) := by
  rw [splitlinesKeepends_of_break hch hreturn, joinPieces_self hothers]
  simp [joinPieces]

/-- A newline at the end stays as it is. -/
theorem joinPieces_append_newline (hothers : others [] = []) (text : List Char) :
    joinPieces first others (splitlinesKeepends (text ++ ['\n'])) =
      joinPieces first others (splitlinesKeepends text) ++ ['\n'] := by
  fun_induction splitlinesKeepends text generalizing first with
  | case1 => simp [joinPieces, splitlinesKeepends, lineBreaks]
  | case2 text ih =>
    have hrest := @ih others
    rw [joinPieces_self hothers, joinPieces_self hothers] at hrest
    rw [List.cons_append, List.cons_append, splitlinesKeepends, joinPieces, joinPieces, hrest]
    simp
  | case3 ch text hnot hch ih =>
    by_cases hlast : ch = '\r' ∧ text = []
    · obtain ⟨rfl, rfl⟩ := hlast
      simp [joinPieces, splitlinesKeepends]
    · have hreturn : ch = '\r' → ∀ rest, text ++ ['\n'] ≠ '\n' :: rest := by
        intro h rest heq
        cases text with
        | nil => exact hlast ⟨h, rfl⟩
        | cons ch' text => exact hnot text h ((List.cons.inj heq).1 ▸ rfl)
      have hrest := @ih others
      rw [joinPieces_self hothers] at hrest
      rw [List.cons_append, joinPieces_break hch hothers hreturn, joinPieces_self hothers, hrest,
        joinPieces, joinPieces_self hothers]
      simp
  | case4 ch text hnot hch hnil ih =>
    rw [List.cons_append, joinPieces_cons hch, ih, hnil]
    simp [joinPieces]
  | case5 ch text hnot hch line ending lines hcons ih =>
    rw [List.cons_append, joinPieces_cons hch, ih, hcons]
    rfl

theorem indent_eq (text indentation : List Char) : indent text indentation =
    joinPieces (indentPiece indentation) (indentPiece indentation) (splitlinesKeepends text) := by
  rw [joinPieces_self rfl]
  unfold indent indentPiece
  apply List.flatMap_congr
  intro piece _
  dsimp only
  split <;> rfl

/-- Lines are indented one after the other. -/
theorem indent_append_newline (x y : List Char) : indent (x ++ '\n' :: y) indentation =
    indent x indentation ++ '\n' :: indent y indentation := by
  have hline : indent (x ++ ['\n']) indentation = indent x indentation ++ ['\n'] := by
    rw [indent_eq, joinPieces_append_newline rfl, ← indent_eq]
  have hsplit : indent (x ++ '\n' :: y) indentation =
      indent (x ++ ['\n']) indentation ++ indent y indentation := by
    unfold indent
    rw [splitlinesKeepends_append_newline, List.flatMap_append]
  rw [hsplit, hline, List.append_assoc]
  rfl

/-- Indented text has characters of the indentation and of the text. -/
theorem mem_of_mem_indent {ch : Char} (hch : ch ∈ indent text indentation) :
    ch ∈ indentation ∨ ch ∈ text := by
  unfold indent at hch
  obtain ⟨piece, hpiece, hch⟩ := List.mem_flatMap.mp hch
  have htext (h : ch ∈ piece.1 ++ piece.2) : ch ∈ text := by
    rw [← flatMap_splitlinesKeepends text]
    exact List.mem_flatMap.mpr ⟨piece, hpiece, h⟩
  dsimp only at hch
  split at hch
  · exact .inr (htext hch)
  · rw [List.append_assoc] at hch
    exact (List.mem_append.mp hch).imp id htext

/-- The lines of indented text are those of the text, with indentation. -/
theorem splitOn_indent (hindentation : '\n' ∉ indentation) (text : List Char) :
    (indent text indentation).splitOn '\n' =
      (text.splitOn '\n').map (indent · indentation) := by
  by_cases hnewline : '\n' ∈ text
  · obtain ⟨line, rest, htext, hline⟩ := List.eq_append_cons_of_mem hnewline
    have hshorter : rest.length < text.length := by
      rw [htext, List.length_append, List.length_cons]
      omega
    rw [htext, indent_append_newline, List.splitOn_append_cons_self, List.splitOn_append_cons_self,
      splitOn_indent hindentation rest, List.map_append, List.splitOn_eq_singleton hline,
      List.splitOn_eq_singleton (fun h ↦ (mem_of_mem_indent h).elim hindentation hline)]
    rfl
  · rw [List.splitOn_eq_singleton hnewline,
      List.splitOn_eq_singleton (fun h ↦ (mem_of_mem_indent h).elim hindentation hnewline)]
    rfl
termination_by text.length

end Pieces

section Lines

variable {text line indentation : List Char}

/-- The first piece of a text ends at the first line break. -/
theorem exists_splitlinesKeepends_eq (htext : text ≠ []) : ∃ ending rest,
    splitlinesKeepends text = (text.takeWhile (· ∉ lineBreaks), ending) :: rest := by
  fun_induction splitlinesKeepends text with
  | case1 => exact absurd rfl htext
  | case2 text ih => exact ⟨_, _, rfl⟩
  | case3 ch text hnot hch ih =>
    rw [List.takeWhile_cons_of_neg (by simpa using hch)]
    exact ⟨_, _, rfl⟩
  | case4 ch text hnot hch hnil ih =>
    cases splitlinesKeepends_eq_nil_iff.mp hnil
    rw [List.takeWhile_cons_of_pos (by simpa using hch)]
    exact ⟨_, _, rfl⟩
  | case5 ch text hnot hch line ending lines hcons ih =>
    rw [List.takeWhile_cons_of_pos (by simpa using hch)]
    have hne : text ≠ [] := by
      rintro rfl
      cases hcons
    obtain ⟨ending', rest, hpieces⟩ := ih hne
    rw [hcons] at hpieces
    cases hpieces
    exact ⟨_, _, rfl⟩

/-- Indented text begins with its first piece, which is indented unless it is whitespace. -/
theorem exists_indent_eq (htext : text ≠ []) (indentation : List Char) :
    ∃ rest, indent text indentation =
      indentPiece indentation (text.takeWhile (· ∉ lineBreaks)) ++ rest := by
  obtain ⟨ending, rest, hpieces⟩ := exists_splitlinesKeepends_eq htext
  refine ⟨ending ++ rest.flatMap (fun piece ↦ indentPiece indentation piece.1 ++ piece.2), ?_⟩
  rw [indent_eq, hpieces, joinPieces, List.append_assoc]

/-- What begins a text whose first piece is whitespace. -/
theorem mem_whitespace_of_blank {ch : Char}
    (hblank : strip ((ch :: text).takeWhile (· ∉ lineBreaks)) = []) : ch ∈ whitespace := by
  by_cases hch : ch ∈ lineBreaks
  · exact List.mem_append_left _ hch
  · rw [List.takeWhile_cons_of_pos (by simpa using hch)] at hblank
    exact mem_whitespace_of_strip hblank ch List.mem_cons_self

/-- A text whose first piece is whitespace begins as it does without indentation. -/
theorem exists_indent_cons (indentation : List Char) {ch : Char} (hreturn : ch ≠ '\r')
    (hblank : strip ((ch :: text).takeWhile (· ∉ lineBreaks)) = []) :
    ∃ rest, indent (ch :: text) indentation = ch :: rest := by
  by_cases hch : ch ∈ lineBreaks
  · rw [indent_eq, joinPieces_break hch rfl (fun h ↦ absurd h hreturn)]
    exact ⟨_, rfl⟩
  · obtain ⟨rest, hindent⟩ := exists_indent_eq (List.cons_ne_nil ch text) indentation
    rw [hindent, indentPiece, if_pos hblank, List.takeWhile_cons_of_pos (by simpa using hch)]
    exact ⟨_, rfl⟩

/-- Carriage returns at the beginning of a line do not matter where they are stripped. -/
theorem stripChars_indent_dropWhile (hline : '\n' ∉ line) (indentation : List Char) :
    stripChars ['\r'] (indent line indentation) =
      stripChars ['\r'] (indent (line.dropWhile (· = '\r')) indentation) := by
  induction line with
  | nil => rfl
  | cons ch line ih =>
    rw [List.mem_cons, not_or] at hline
    by_cases hch : ch = '\r'
    · subst hch
      have hreturn : ∀ rest, line ≠ '\n' :: rest := by
        rintro rest rfl
        exact hline.2 List.mem_cons_self
      have hindent : indent ('\r' :: line) indentation = ['\r'] ++ indent line indentation := by
        rw [indent_eq, joinPieces_break (by decide) rfl (fun _ ↦ hreturn), ← indent_eq]
        rfl
      rw [hindent, stripChars_append_left (by simp), ih hline.2,
        List.dropWhile_cons_of_pos (by simp)]
    · rw [List.dropWhile_cons_of_neg (by simpa using hch)]

end Lines

section Ends

variable {text indentation : List Char}

/-- Pieces at the end of a text are those of the text that they make up. -/
theorem splitlinesKeepends_of_suffix {pieces : List (List Char × List Char)}
    (h : pieces <:+ splitlinesKeepends text) :
    splitlinesKeepends (pieces.flatMap (fun piece ↦ piece.1 ++ piece.2)) = pieces := by
  fun_induction splitlinesKeepends text with
  | case1 =>
    rw [List.suffix_nil.mp h]
    rfl
  | case2 text ih =>
    rcases List.suffix_cons_iff.mp h with rfl | h
    · rw [List.flatMap_cons, flatMap_splitlinesKeepends]
      rfl
    · exact ih h
  | case3 ch text hnot hch ih =>
    rcases List.suffix_cons_iff.mp h with rfl | h
    · rw [List.flatMap_cons, flatMap_splitlinesKeepends]
      exact splitlinesKeepends_of_break hch (fun hr rest heq ↦ hnot rest hr heq)
    · exact ih h
  | case4 ch text hnot hch hnil ih =>
    cases splitlinesKeepends_eq_nil_iff.mp hnil
    rcases List.suffix_cons_iff.mp h with rfl | h
    · exact splitlinesKeepends_of_not_break hch
    · rw [List.suffix_nil.mp h]
      rfl
  | case5 ch text hnot hch line ending lines hcons ih =>
    rcases List.suffix_cons_iff.mp h with rfl | h
    · have htext := flatMap_splitlinesKeepends text
      rw [hcons, List.flatMap_cons] at htext
      rw [List.flatMap_cons, List.cons_append, List.cons_append, htext,
        splitlinesKeepends_of_not_break hch, hcons]
    · exact ih (hcons ▸ h.trans (List.suffix_cons _ _))

/-- Pieces of whitespace are not indented. -/
theorem flatMap_indentPiece (indentation : List Char) {pieces : List (List Char × List Char)}
    (hpieces : ∀ piece ∈ pieces, strip piece.1 = []) :
    pieces.flatMap (fun piece ↦ indentPiece indentation piece.1 ++ piece.2) =
      pieces.flatMap (fun piece ↦ piece.1 ++ piece.2) := by
  apply List.flatMap_congr
  intro piece hpiece
  rw [indentPiece, if_pos (hpieces piece hpiece)]

theorem indent_eq_flatMap (text indentation : List Char) : indent text indentation =
    (splitlinesKeepends text).flatMap (fun piece ↦
      indentPiece indentation piece.1 ++ piece.2) := by
  rw [indent_eq, joinPieces_self rfl]

/-- Indenting a text only adds to it. -/
theorem sublist_indent (text indentation : List Char) :
    text.Sublist (indent text indentation) := by
  conv_lhs => rw [← flatMap_splitlinesKeepends text]
  rw [indent_eq_flatMap]
  induction splitlinesKeepends text with
  | nil => exact .refl _
  | cons piece pieces ih =>
    rw [List.flatMap_cons, List.flatMap_cons]
    refine .append (.append_right ?_ _) ih
    unfold indentPiece
    split
    · exact .refl _
    · exact List.sublist_append_right _ _

/-- Without indentation, a text stays as it is. -/
theorem indent_nil (text : List Char) : indent text [] = text := by
  have hpiece (piece : List Char) : indentPiece [] piece = piece := ite_self _
  conv_rhs => rw [← flatMap_splitlinesKeepends text]
  rw [indent_eq_flatMap]
  simp only [hpiece]

/-- Pieces of a text of whitespace are whitespace. -/
theorem strip_of_mem_splitlinesKeepends (htext : ∀ ch ∈ text, ch ∈ whitespace) :
    ∀ piece ∈ splitlinesKeepends text, strip piece.1 = [] := by
  intro piece hpiece
  apply strip_eq_nil
  intro ch hch
  apply htext
  rw [← flatMap_splitlinesKeepends text]
  exact List.mem_flatMap.mpr ⟨piece, hpiece, List.mem_append_left _ hch⟩

/-- Whitespace at the end of a text is not indented. -/
theorem exists_indent_append {z : Char} (hz : z ∉ whitespace) (x indentation : List Char) :
    ∃ front, ∀ y, (∀ ch ∈ y, ch ∈ whitespace) →
      indent (x ++ z :: y) indentation = front ++ z :: y := by
  obtain ⟨front, start, hsplit⟩ :=
    exists_splitlinesKeepends_append (fun h ↦ hz (List.mem_append_left _ h)) x
  have hpiece (line : List Char) : indentPiece indentation (start ++ z :: line) =
      indentation ++ (start ++ z :: line) := by
    rw [indentPiece, if_neg]
    intro h
    exact hz (mem_whitespace_of_strip h z (by simp))
  refine ⟨front.flatMap (fun piece ↦ indentPiece indentation piece.1 ++ piece.2) ++
    (indentation ++ start), fun y hy ↦ ?_⟩
  have hblank := strip_of_mem_splitlinesKeepends hy
  have hjoin := flatMap_splitlinesKeepends y
  rw [indent_eq_flatMap, hsplit, List.flatMap_append, List.append_assoc]
  congr 1
  cases hpieces : splitlinesKeepends y with
  | nil =>
    cases splitlinesKeepends_eq_nil_iff.mp hpieces
    simp [hpiece]
  | cons piece pieces =>
    rw [hpieces] at hblank hjoin
    have hothers := flatMap_indentPiece indentation (List.forall_mem_cons.mp hblank).2
    rw [List.flatMap_cons] at hjoin
    simp only [List.flatMap_cons, hpiece, hothers]
    rw [← hjoin]
    simp

/-- A piece is whitespace. -/
def isBlankPiece (piece : List Char × List Char) : Bool := strip piece.1 = []

/-- A text without lines of whitespace before it and whitespace after it. -/
def trimmed (text : List Char) : List Char :=
  (((splitlinesKeepends text).dropWhile isBlankPiece).flatMap
    (fun piece ↦ piece.1 ++ piece.2)).rdropWhile (· ∈ whitespace)

/-- Whitespace after a character that is none. -/
theorem exists_eq_append_cons (htext : ∃ ch ∈ text, ch ∉ whitespace) :
    ∃ x z y, text = x ++ z :: y ∧ z ∉ whitespace ∧ (∀ ch ∈ y, ch ∈ whitespace) ∧
      text.rdropWhile (· ∈ whitespace) = x ++ [z] := by
  have hne : text.rdropWhile (· ∈ whitespace) ≠ [] := by
    rw [Ne, List.rdropWhile_eq_nil_iff]
    push Not
    simpa using htext
  obtain ⟨x, z, hsplit⟩ := List.eq_nil_or_concat' _ |>.resolve_left hne
  refine ⟨x, z, text.rtakeWhile (· ∈ whitespace), ?_, ?_, ?_, hsplit⟩
  · have hjoin := @List.rdropWhile_append_rtakeWhile _ (fun ch ↦ decide (ch ∈ whitespace)) text
    rw [hsplit, List.append_assoc] at hjoin
    exact hjoin.symm
  · have hlast := List.rdropWhile_last_not (fun ch ↦ decide (ch ∈ whitespace)) text hne
    simpa [hsplit] using hlast
  · intro ch hch
    simpa using List.mem_rtakeWhile_imp hch

/-- Lines of whitespace before a text are not indented. -/
theorem exists_trimmed (text indentation : List Char) : ∃ lead core,
    (∀ ch ∈ lead, ch ∈ whitespace) ∧ indent text indentation = lead ++ indent core indentation ∧
      trimmed text = core.rdropWhile (· ∈ whitespace) ∧
      (core = [] ∨ strip (core.takeWhile (· ∉ lineBreaks)) ≠ []) := by
  obtain ⟨blank, hblankDef⟩ : ∃ blank, blank = (splitlinesKeepends text).takeWhile isBlankPiece :=
    ⟨_, rfl⟩
  obtain ⟨rest, hrestDef⟩ : ∃ rest, rest = (splitlinesKeepends text).dropWhile isBlankPiece :=
    ⟨_, rfl⟩
  have hsplit : splitlinesKeepends text = blank ++ rest := by
    rw [hblankDef, hrestDef, List.takeWhile_append_dropWhile]
  have hblank : ∀ piece ∈ blank, strip piece.1 = [] := by
    intro piece hpiece
    rw [hblankDef] at hpiece
    have hspaces : isBlankPiece piece = true := List.mem_takeWhile_imp hpiece
    exact of_decide_eq_true hspaces
  have hcore : splitlinesKeepends (rest.flatMap (fun piece ↦ piece.1 ++ piece.2)) = rest := by
    rw [hrestDef]
    exact splitlinesKeepends_of_suffix (List.dropWhile_suffix isBlankPiece)
  refine ⟨blank.flatMap (fun piece ↦ piece.1 ++ piece.2),
    rest.flatMap (fun piece ↦ piece.1 ++ piece.2), ?_, ?_, by rw [hrestDef]; rfl, ?_⟩
  · intro ch hch
    obtain ⟨piece, hpiece, hch⟩ := List.mem_flatMap.mp hch
    rcases List.mem_append.mp hch with hch | hch
    · exact mem_whitespace_of_strip (hblank piece hpiece) ch hch
    · exact mem_whitespace_of_ending (hsplit ▸ List.mem_append_left _ hpiece) ch hch
  · rw [indent_eq_flatMap, hsplit, List.flatMap_append, flatMap_indentPiece _ hblank,
      indent_eq_flatMap, hcore]
  · by_cases hne : rest.flatMap (fun piece ↦ piece.1 ++ piece.2) = []
    · exact .inl hne
    · right
      obtain ⟨ending, others, hpieces⟩ := exists_splitlinesKeepends_eq hne
      rw [hcore] at hpieces
      have hhead := List.head?_dropWhile_not isBlankPiece (splitlinesKeepends text)
      rw [← hrestDef, hpieces] at hhead
      exact of_decide_eq_false hhead

/-- Nothing is left of a text where it is whitespace. -/
theorem trimmed_eq_nil_iff (text : List Char) : trimmed text = [] ↔ strip text = [] := by
  obtain ⟨lead, core, hlead, htext, htrimmed, -⟩ := exists_trimmed text []
  rw [indent_nil, indent_nil] at htext
  rw [htrimmed, List.rdropWhile_eq_nil_iff, htext]
  constructor
  · intro h
    apply strip_eq_nil
    intro ch hch
    rcases List.mem_append.mp hch with hch | hch
    · exact hlead ch hch
    · exact of_decide_eq_true (h ch hch)
  · intro h ch hch
    exact decide_eq_true (mem_whitespace_of_strip h ch (List.mem_append_right _ hch))

/-- Stripped, an indented text is what is left of it, indented. It begins with the indentation. -/
theorem strip_indent {start : Char} {indentation : List Char} (hstart : start ∉ whitespace)
    (text : List Char) : strip (indent text (start :: indentation)) =
      indent (trimmed text) (start :: indentation) := by
  obtain ⟨lead, core, hlead, hindent, htrimmed, hcore⟩ :=
    exists_trimmed text (start :: indentation)
  rw [hindent, htrimmed]
  have hstrip (x : List Char) : strip (lead ++ x) = strip x := stripChars_append_left hlead x
  rw [hstrip]
  rcases hcore with rfl | hfirst
  · rfl
  · have hsome : ∃ ch ∈ core, ch ∉ whitespace := by
      by_contra hnot
      push Not at hnot
      exact hfirst (strip_eq_nil (fun ch hch ↦ hnot ch ((List.takeWhile_sublist _).mem hch)))
    obtain ⟨x, z, y, rfl, hz, hy, hdrop⟩ := exists_eq_append_cons hsome
    obtain ⟨front, hfront⟩ := exists_indent_append hz x (start :: indentation)
    have hlast := hfront [] (by simp)
    have hfirst' : strip ((x ++ [z]).takeWhile (· ∉ lineBreaks)) ≠ [] := by
      rw [List.takeWhile_append] at hfirst ⊢
      split
      · exact fun h ↦ hz (mem_whitespace_of_strip h z (by
          rw [List.takeWhile_cons_of_pos (by
            simpa using fun h ↦ hz (List.mem_append_left _ h))]
          simp))
      · next hlong => rwa [if_neg hlong] at hfirst
    obtain ⟨rest, hhead⟩ :=
      exists_indent_eq (List.concat_ne_nil z x) (start :: indentation)
    rw [hdrop, hfront y hy, hlast]
    have hback : strip (front ++ z :: y) = strip (front ++ [z]) := by
      rw [← List.singleton_append, ← List.append_assoc]
      exact stripChars_append_right hy _
    rw [hback, ← hlast]
    apply stripChars_eq_self
    · intro ch hch
      rw [hhead, indentPiece, if_neg hfirst'] at hch
      cases hch
      exact hstart
    · intro ch hch
      rw [hlast, List.getLast?_concat] at hch
      cases hch
      exact hz

end Ends

end Irrd.Utils
