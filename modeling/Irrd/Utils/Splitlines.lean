import Mathlib.Data.List.TakeWhile
import Irrd.Utils.Lines

/-!
# Line breaks

`str.splitlines` and `str.split` at newlines, by the pieces that a text consists of.
-/

namespace Irrd.Utils

section Parts

/-- No part of a split text has the separator. -/
theorem not_mem_of_mem_splitOn {separator : Char} {text part : List Char}
    (hpart : part ∈ text.splitOn separator) : separator ∉ part := by
  induction text generalizing part with
  | nil =>
    rw [List.splitOn_nil] at hpart
    cases List.mem_singleton.mp hpart
    simp
  | cons c text ih =>
    rw [List.splitOn_cons_eq_if_modifyHead] at hpart
    split at hpart
    · rcases List.mem_cons.mp hpart with rfl | hpart
      · simp
      · exact ih hpart
    · next hc =>
      cases hparts : text.splitOn separator with
      | nil => exact absurd hparts (List.splitOn_ne_nil _ _)
      | cons first parts =>
        rw [hparts, List.modifyHead_cons] at hpart
        rcases List.mem_cons.mp hpart with rfl | hpart
        · have hfirst := ih (hparts ▸ List.mem_cons_self)
          simp only [List.mem_cons, not_or]
          exact ⟨fun h ↦ hc (by simp [h]), hfirst⟩
        · exact ih (hparts ▸ List.mem_cons_of_mem _ hpart)

/-- What is left after stripping is part of the text. -/
theorem mem_of_mem_stripChars {chars text : List Char} {c : Char}
    (hc : c ∈ stripChars chars text) : c ∈ text := by
  unfold stripChars at hc
  rw [List.mem_reverse] at hc
  have h := (List.dropWhile_sublist _).mem hc
  rw [List.mem_reverse] at h
  exact (List.dropWhile_sublist _).mem h

/-- A stripped text does not end in a character that is stripped. -/
theorem getLast?_stripChars {chars text : List Char} {c : Char}
    (hc : (stripChars chars text).getLast? = some c) : c ∉ chars := by
  unfold stripChars at hc
  rw [List.getLast?_reverse] at hc
  have h := List.head?_dropWhile_not (fun d ↦ decide (d ∈ chars))
    (text.dropWhile (fun d ↦ decide (d ∈ chars))).reverse
  rw [hc] at h
  simpa using h

/-- A stripped text does not begin with a character that is stripped. -/
theorem head?_stripChars {chars text : List Char} {c : Char}
    (hc : (stripChars chars text).head? = some c) : c ∉ chars := by
  unfold stripChars at hc
  rw [List.head?_reverse] at hc
  have hstart := List.head?_dropWhile_not (fun d ↦ decide (d ∈ chars)) text
  generalize text.dropWhile (fun d ↦ decide (d ∈ chars)) = rest at hc hstart
  -- Stripping at the end leaves the first character where it leaves any.
  have hsuffix : rest.reverse.dropWhile (fun d ↦ decide (d ∈ chars)) <:+ rest.reverse :=
    List.dropWhile_suffix _
  have hlast : rest.reverse.getLast? = some c := by
    obtain ⟨front, hfront⟩ := hsuffix
    rw [← hfront, List.getLast?_append, hc]
    rfl
  rw [List.getLast?_reverse] at hlast
  rw [hlast] at hstart
  simpa using hstart

/-- Nothing is dropped from a text that begins with a character to be kept. -/
theorem dropWhile_eq_self {chars text : List Char} (hhead : ∀ c ∈ text.head?, c ∉ chars) :
    text.dropWhile (fun c ↦ decide (c ∈ chars)) = text := by
  cases text with
  | nil => rfl
  | cons c text => exact List.dropWhile_cons_of_neg (by simpa using hhead c rfl)

/-- Stripping leaves a text as it is whose ends are not to be stripped. -/
theorem stripChars_eq_self {chars text : List Char} (hhead : ∀ c ∈ text.head?, c ∉ chars)
    (hlast : ∀ c ∈ text.getLast?, c ∉ chars) : stripChars chars text = text := by
  unfold stripChars
  rw [dropWhile_eq_self hhead, dropWhile_eq_self (by rwa [List.head?_reverse]),
    List.reverse_reverse]

theorem stripChars_stripChars (chars text : List Char) :
    stripChars chars (stripChars chars text) = stripChars chars text :=
  stripChars_eq_self (fun _ hc ↦ head?_stripChars hc) (fun _ hc ↦ getLast?_stripChars hc)

/-- Characters that are stripped from the ends do not matter. -/
theorem stripChars_append_left {chars front : List Char} (hfront : ∀ c ∈ front, c ∈ chars)
    (text : List Char) : stripChars chars (front ++ text) = stripChars chars text := by
  unfold stripChars
  rw [List.dropWhile_append_of_pos (fun c hc ↦ decide_eq_true (hfront c hc))]

theorem stripChars_append_right {chars back : List Char} (hback : ∀ c ∈ back, c ∈ chars)
    (text : List Char) : stripChars chars (text ++ back) = stripChars chars text := by
  unfold stripChars
  rw [List.dropWhile_append]
  split
  · next hempty =>
    have hall : back.dropWhile (fun c ↦ decide (c ∈ chars)) = [] :=
      List.dropWhile_eq_nil_iff.mpr (fun c hc ↦ decide_eq_true (hback c hc))
    rw [List.isEmpty_iff.mp hempty, hall]
  · rw [List.reverse_append, List.dropWhile_append_of_pos (by simpa using hback)]

/-- What stripping removes from a text. -/
theorem exists_eq_append_stripChars (chars text : List Char) :
    ∃ front back, text = front ++ stripChars chars text ++ back ∧ (∀ c ∈ front, c ∈ chars) ∧
      ∀ c ∈ back, c ∈ chars := by
  have hparts (list : List Char) := List.takeWhile_append_dropWhile
    (p := fun c ↦ decide (c ∈ chars)) (l := list)
  have hall {list : List Char} (c : Char) (hc : c ∈ list.takeWhile (fun c ↦ decide (c ∈ chars))) :
      c ∈ chars := by
    have h := List.mem_takeWhile_imp hc
    exact of_decide_eq_true h
  refine ⟨text.takeWhile (fun c ↦ decide (c ∈ chars)),
    ((text.dropWhile (fun c ↦ decide (c ∈ chars))).reverse.takeWhile
      (fun c ↦ decide (c ∈ chars))).reverse, ?_, hall, fun c hc ↦ hall c (List.mem_reverse.mp hc)⟩
  unfold stripChars
  rw [List.append_assoc, ← List.reverse_append, hparts, List.reverse_reverse, hparts]

/-- Stripping some characters first does not matter. -/
theorem stripChars_stripChars_of_subset {chars chars' : List Char} (hsubset : chars ⊆ chars')
    (text : List Char) : stripChars chars' (stripChars chars text) = stripChars chars' text := by
  obtain ⟨front, back, htext, hfront, hback⟩ := exists_eq_append_stripChars chars text
  conv_rhs => rw [htext]
  rw [stripChars_append_right (fun c hc ↦ hsubset (hback c hc)),
    stripChars_append_left (fun c hc ↦ hsubset (hfront c hc))]

/-- What stripping leaves begins with the first character that is no whitespace. -/
theorem head?_strip (text : List Char) :
    (strip text).head? = (text.dropWhile (· ∈ whitespace)).head? := by
  unfold strip
  cases hrest : text.dropWhile (fun c ↦ decide (c ∈ whitespace)) with
  | nil => rfl
  | cons c rest =>
    have hc := List.head?_dropWhile_not (fun c ↦ decide (c ∈ whitespace)) text
    rw [hrest] at hc
    have hspace : decide (c ∈ whitespace) = false := by simpa using hc
    rw [List.head?_reverse, List.reverse_cons]
    have hdrop (front : List Char) :
        ((front ++ [c]).dropWhile (fun d ↦ decide (d ∈ whitespace))).getLast? = some c := by
      induction front with
      | nil => simp [hspace]
      | cons d front ih =>
        rw [List.cons_append, List.dropWhile_cons]
        split
        · exact ih
        · rw [← List.cons_append, List.getLast?_concat]
    exact hdrop rest.reverse

/-- Only whitespace is stripped away altogether. -/
theorem mem_whitespace_of_strip {text : List Char} (h : strip text = []) :
    ∀ c ∈ text, c ∈ whitespace := by
  have hhead := head?_strip text
  rw [h, List.head?_nil, eq_comm, List.head?_eq_none_iff, List.dropWhile_eq_nil_iff] at hhead
  simpa using hhead

theorem strip_eq_nil {text : List Char} (htext : ∀ c ∈ text, c ∈ whitespace) : strip text = [] :=
  stripChars_append_right htext []

/-- What comes before the first separator belongs to the first part. -/
theorem splitOn_append_of_not_mem {separator : Char} {x : List Char} (hx : separator ∉ x)
    (y : List Char) : (x ++ y).splitOn separator = (y.splitOn separator).modifyHead (x ++ ·) := by
  induction x with
  | nil =>
    rw [List.nil_append]
    cases y.splitOn separator <;> rfl
  | cons c x ih =>
    obtain ⟨hc, hothers⟩ := not_or.mp (fun h ↦ hx (List.mem_cons.mpr h))
    rw [List.cons_append, List.splitOn_cons_eq_if_modifyHead, if_neg (by simpa using Ne.symm hc),
      ih hothers]
    cases y.splitOn separator <;> rfl

end Parts

section Pieces

/-- Lines that each end in a newline. -/
def newlineTerminated (lines : List (List Char)) : List Char :=
  lines.flatMap (fun line ↦ line ++ ['\n'])

@[simp] theorem newlineTerminated_nil : newlineTerminated [] = [] := rfl

@[simp] theorem newlineTerminated_cons (line : List Char) (lines : List (List Char)) :
    newlineTerminated (line :: lines) = line ++ '\n' :: newlineTerminated lines := by
  simp [newlineTerminated]

@[simp] theorem newlineTerminated_append (lines lines' : List (List Char)) :
    newlineTerminated (lines ++ lines') = newlineTerminated lines ++ newlineTerminated lines' := by
  simp [newlineTerminated]

theorem newlineTerminated_cons_append (line : List Char) (lines : List (List Char))
    (text : List Char) : newlineTerminated (line :: lines) ++ text =
      line ++ '\n' :: (newlineTerminated lines ++ text) := by
  simp

/-- Lines joined by newlines, with one at the end. -/
theorem intercalate_newline {lines : List (List Char)} (hlines : lines ≠ []) :
    ['\n'].intercalate lines ++ ['\n'] = newlineTerminated lines := by
  induction lines with
  | nil => exact absurd rfl hlines
  | cons line lines ih =>
    cases lines with
    | nil => simp
    | cons line' lines =>
      rw [List.intercalate_cons_cons, newlineTerminated_cons, ← ih (by simp)]
      simp

/-- Lines without newlines can be told from their text. -/
theorem newlineTerminated_inj {lines lines' : List (List Char)} (h : ∀ line ∈ lines, '\n' ∉ line)
    (h' : ∀ line ∈ lines', '\n' ∉ line)
    (hsame : newlineTerminated lines = newlineTerminated lines') : lines = lines' := by
  induction lines generalizing lines' with
  | nil =>
    cases lines' with
    | nil => rfl
    | cons line' lines' => simp at hsame
  | cons line lines ih =>
    cases lines' with
    | nil => simp at hsame
    | cons line' lines' =>
      rw [newlineTerminated_cons, newlineTerminated_cons] at hsame
      obtain ⟨rfl, hrest⟩ := append_separator_inj (h line (by simp)) (h' line' (by simp)) hsame
      rw [ih (fun l hl ↦ h l (List.mem_cons_of_mem _ hl))
        (fun l hl ↦ h' l (List.mem_cons_of_mem _ hl)) hrest]

/-- The number of newlines. -/
theorem count_newlineTerminated (lines : List (List Char)) :
    (newlineTerminated lines).count '\n' =
      lines.length + (lines.map (fun line ↦ line.count '\n')).sum := by
  induction lines with
  | nil => rfl
  | cons line lines ih =>
    rw [newlineTerminated_cons, List.count_append, List.count_cons_self, ih, List.length_cons,
      List.map_cons, List.sum_cons]
    omega

theorem splitOn_newlineTerminated_append {lines : List (List Char)}
    (hlines : ∀ line ∈ lines, '\n' ∉ line) (text : List Char) :
    (newlineTerminated lines ++ text).splitOn '\n' = lines ++ text.splitOn '\n' := by
  induction lines with
  | nil => rfl
  | cons line lines ih =>
    obtain ⟨hline, hothers⟩ := List.forall_mem_cons.mp hlines
    rw [newlineTerminated_cons, List.append_assoc, List.cons_append,
      List.splitOn_append_cons_self, List.splitOn_eq_singleton hline, ih hothers]
    rfl

theorem splitOn_newlineTerminated {lines : List (List Char)} (h : ∀ line ∈ lines, '\n' ∉ line) :
    (newlineTerminated lines).splitOn '\n' = lines ++ [[]] := by
  induction lines with
  | nil => exact List.splitOn_nil _
  | cons line lines ih =>
    obtain ⟨hline, hothers⟩ := List.forall_mem_cons.mp h
    rw [newlineTerminated_cons, List.splitOn_append_cons_self, ih hothers,
      List.splitOn_eq_singleton hline]
    rfl

end Pieces

section Splitlines

/-- Pieces of a text: what `splitlinesKeepends` gives for it. -/
theorem splitlinesKeepends_of_break {c : Char} {text : List Char} (hc : c ∈ lineBreaks)
    (hcr : c = '\r' → ∀ rest, text ≠ '\n' :: rest) :
    splitlinesKeepends (c :: text) = ([], [c]) :: splitlinesKeepends text := by
  by_cases hr : c = '\r'
  · subst hr
    cases text with
    | nil => rfl
    | cons d text =>
      have hd : d ≠ '\n' := fun hd ↦ hcr rfl text (hd ▸ rfl)
      rw [splitlinesKeepends.eq_3 '\r' (d :: text)
        (fun rest _ h ↦ hd (List.cons.inj h).1), if_pos hc]
  · rw [splitlinesKeepends.eq_3 c text (fun rest h _ ↦ hr h), if_pos hc]

theorem splitlinesKeepends_of_not_break {c : Char} {text : List Char} (hc : c ∉ lineBreaks) :
    splitlinesKeepends (c :: text) =
      match splitlinesKeepends text with
      | [] => [([c], [])]
      | (line, ending) :: lines => (c :: line, ending) :: lines := by
  have hr : c ≠ '\r' := fun h ↦ hc (h ▸ by decide)
  exact (splitlinesKeepends.eq_3 c text (fun rest h _ ↦ hr h)).trans (if_neg hc)

/-- The pieces make up the text. -/
theorem flatMap_splitlinesKeepends (text : List Char) :
    (splitlinesKeepends text).flatMap (fun piece ↦ piece.1 ++ piece.2) = text := by
  fun_induction splitlinesKeepends text with
  | case1 => rfl
  | case2 text ih => simp [ih]
  | case3 c text hnot hc ih => simp [ih]
  | case4 c text hnot hc hnil ih =>
    rw [hnil] at ih
    simp [← ih]
  | case5 c text hnot hc line ending lines hcons ih =>
    rw [hcons] at ih
    simpa using ih

/-- No line has a line break, and each line ends in one, the last one possibly excepted. -/
theorem mem_splitlinesKeepends (text : List Char) : ∀ piece ∈ splitlinesKeepends text,
    (∀ c ∈ piece.1, c ∉ lineBreaks) ∧
      (piece.2 = [] ∨ piece.2 = ['\r', '\n'] ∨ ∃ c ∈ lineBreaks, piece.2 = [c]) := by
  fun_induction splitlinesKeepends text with
  | case1 => simp
  | case2 text ih =>
    intro piece hpiece
    rcases List.mem_cons.mp hpiece with rfl | hpiece
    · exact ⟨by simp, .inr (.inl rfl)⟩
    · exact ih piece hpiece
  | case3 c text hnot hc ih =>
    intro piece hpiece
    rcases List.mem_cons.mp hpiece with rfl | hpiece
    · exact ⟨by simp, .inr (.inr ⟨c, hc, rfl⟩)⟩
    · exact ih piece hpiece
  | case4 c text hnot hc hnil ih =>
    intro piece hpiece
    cases List.mem_singleton.mp hpiece
    exact ⟨by simpa using hc, .inl rfl⟩
  | case5 c text hnot hc line ending lines hcons ih =>
    rw [hcons] at ih
    intro piece hpiece
    rcases List.mem_cons.mp hpiece with rfl | hpiece
    · obtain ⟨hline, hending⟩ := ih (line, ending) List.mem_cons_self
      exact ⟨List.forall_mem_cons.mpr ⟨hc, hline⟩, hending⟩
    · exact ih piece (List.mem_cons_of_mem _ hpiece)

/-- A text is empty if it has no pieces. -/
theorem splitlinesKeepends_eq_nil_iff {text : List Char} :
    splitlinesKeepends text = [] ↔ text = [] := by
  refine ⟨fun h ↦ ?_, fun h ↦ h ▸ rfl⟩
  rw [← flatMap_splitlinesKeepends text, h]
  rfl

/-- A newline ends a piece, whatever follows it. -/
theorem splitlinesKeepends_append_newline (x y : List Char) :
    splitlinesKeepends (x ++ '\n' :: y) =
      splitlinesKeepends (x ++ ['\n']) ++ splitlinesKeepends y := by
  fun_induction splitlinesKeepends x with
  | case1 => rfl
  | case2 text ih => simp [splitlinesKeepends, ih]
  | case3 c text hnot hc ih =>
    by_cases hlast : c = '\r' ∧ text = []
    · obtain ⟨rfl, rfl⟩ := hlast
      rfl
    · have hcr (z : List Char) (h : c = '\r') (rest : List Char) : text ++ z ≠ '\n' :: rest := by
        intro heq
        cases text with
        | nil => exact hlast ⟨h, rfl⟩
        | cons d text => exact hnot text h ((List.cons.inj heq).1 ▸ rfl)
      rw [List.cons_append, List.cons_append, splitlinesKeepends_of_break hc (hcr _),
        splitlinesKeepends_of_break hc (hcr _), ih]
      rfl
  | case4 c text hnot hc hnil ih =>
    cases splitlinesKeepends_eq_nil_iff.mp hnil
    rw [List.cons_append, List.cons_append, splitlinesKeepends_of_not_break hc,
      splitlinesKeepends_of_not_break hc]
    rfl
  | case5 c text hnot hc line ending lines hcons ih =>
    rw [List.cons_append, List.cons_append, splitlinesKeepends_of_not_break hc,
      splitlinesKeepends_of_not_break hc, ih]
    cases hpieces : splitlinesKeepends (text ++ ['\n']) with
    | nil => simp [splitlinesKeepends_eq_nil_iff] at hpieces
    | cons piece pieces => rfl

/-- The pieces of lines that each end in a newline are those of each of them. -/
theorem splitlinesKeepends_newlineTerminated (lines : List (List Char)) :
    splitlinesKeepends (newlineTerminated lines) =
      lines.flatMap (fun line ↦ splitlinesKeepends (line ++ ['\n'])) := by
  induction lines with
  | nil => rfl
  | cons line lines ih =>
    rw [newlineTerminated_cons, splitlinesKeepends_append_newline, ih, List.flatMap_cons]

/-- The lines of a text have no line breaks. -/
theorem not_mem_of_mem_splitlines {text line : List Char}
    (hline : line ∈ splitlines text) {c : Char}
    (hc : c ∈ lineBreaks) : c ∉ line := by
  obtain ⟨piece, hpiece, rfl⟩ := List.mem_map.mp hline
  exact fun hmem ↦ (mem_splitlinesKeepends text piece hpiece).1 c hmem hc

/-- A character that is no line break belongs to the first line. -/
theorem head?_splitlines_cons {c : Char} (hc : c ∉ lineBreaks) (text : List Char) :
    (splitlines (c :: text)).head? = some (c :: ((splitlines text).head?.getD [])) := by
  unfold splitlines
  rw [splitlinesKeepends_of_not_break hc]
  cases splitlinesKeepends text <;> rfl

/-- A line without line breaks is the first one where a newline follows it. -/
theorem head?_splitlines_append_newline {line : List Char} (hline : ∀ c ∈ line, c ∉ lineBreaks)
    (rest : List Char) : (splitlines (line ++ '\n' :: rest)).head? = some line := by
  induction line with
  | nil =>
    unfold splitlines
    rw [List.nil_append, splitlinesKeepends_of_break (by decide) (fun h ↦ absurd h (by decide))]
    rfl
  | cons c line ih =>
    obtain ⟨hc, hothers⟩ := List.forall_mem_cons.mp hline
    rw [List.cons_append, head?_splitlines_cons hc, ih hothers]
    rfl

/-- The lines of a line that ends in a newline only end in single characters. -/
theorem ending_splitlinesKeepends {line : List Char} (hnewline : '\n' ∉ line)
    (hreturn : line.getLast? ≠ some '\r') :
    ∀ piece ∈ splitlinesKeepends (line ++ ['\n']), ∃ c ∈ lineBreaks, piece.2 = [c] := by
  induction line with
  | nil =>
    intro piece hpiece
    cases List.mem_singleton.mp hpiece
    exact ⟨'\n', by decide, rfl⟩
  | cons c line ih =>
    obtain ⟨hc, hother⟩ := not_or.mp (fun h ↦ hnewline (List.mem_cons.mpr h))
    have hrest : line.getLast? ≠ some '\r' := by
      intro h
      refine hreturn ?_
      rw [List.getLast?_cons, h]
      rfl
    by_cases hbreak : c ∈ lineBreaks
    · have hcr : c = '\r' → ∀ rest, line ++ ['\n'] ≠ '\n' :: rest := by
        rintro rfl rest heq
        cases line with
        | nil => exact hreturn rfl
        | cons d line => exact hother ((List.cons.inj heq).1 ▸ List.mem_cons_self)
      rw [List.cons_append, splitlinesKeepends_of_break hbreak hcr]
      exact List.forall_mem_cons.mpr ⟨⟨c, hbreak, rfl⟩, ih hother hrest⟩
    · rw [List.cons_append, splitlinesKeepends_of_not_break hbreak]
      have hpieces := ih hother hrest
      cases hsplit : splitlinesKeepends (line ++ ['\n']) with
      | nil => simp [splitlinesKeepends_eq_nil_iff] at hsplit
      | cons piece pieces =>
        rw [hsplit] at hpieces
        obtain ⟨hfirst, hothers⟩ := List.forall_mem_cons.mp hpieces
        exact List.forall_mem_cons.mpr ⟨hfirst, hothers⟩

end Splitlines

section Stripping

variable {chars front text : List Char} {c : Char}

/-- Stripping goes no further than a character that is not stripped. -/
theorem stripChars_cons (hc : c ∉ chars) (text : List Char) :
    ∃ text' back, stripChars chars (c :: text) = c :: text' ∧ text = text' ++ back ∧
      ∀ d ∈ back, d ∈ chars := by
  obtain ⟨front, back, htext, hfront, hback⟩ := exists_eq_append_stripChars chars (c :: text)
  cases front with
  | cons d front =>
    obtain ⟨rfl, -⟩ := List.cons.inj htext
    exact absurd (hfront c List.mem_cons_self) hc
  | nil =>
    cases hstripped : stripChars chars (c :: text) with
    | nil =>
      rw [hstripped, List.append_nil, List.nil_append] at htext
      exact absurd (hback c (htext ▸ List.mem_cons_self)) hc
    | cons d text' =>
      rw [hstripped] at htext
      obtain ⟨rfl, hrest⟩ := List.cons.inj htext
      exact ⟨text', back, rfl, hrest, hback⟩

theorem stripChars_append_cons (hfront : ∀ d ∈ front.head?, d ∉ chars) (hc : c ∉ chars)
    (text : List Char) :
    stripChars chars (front ++ c :: text) = front ++ stripChars chars (c :: text) := by
  obtain ⟨text', back, hstripped, rfl, hback⟩ := stripChars_cons hc text
  have hlast {d : Char} (hd : (c :: text').getLast? = some d) : d ∉ chars := by
    rw [← hstripped] at hd
    exact getLast?_stripChars hd
  have hsplit : front ++ c :: (text' ++ back) = (front ++ c :: text') ++ back := by simp
  rw [hstripped, hsplit, stripChars_append_right hback]
  refine stripChars_eq_self (fun d hd ↦ ?_) (fun d hd ↦ ?_)
  · cases front with
    | nil =>
      cases hd
      exact hc
    | cons e front => exact hfront d hd
  · rw [List.getLast?_append, Option.mem_def, List.getLast?_eq_some_getLast (List.cons_ne_nil _ _),
      Option.some_or] at hd
    exact hlast ((List.getLast?_eq_some_getLast (List.cons_ne_nil _ _)).trans hd)

/-- The lines of a stripped text. -/
theorem splitlineUnicodesafe_strip (hne : strip text ≠ []) :
    splitlineUnicodesafe (strip text) = ((strip text).splitOn '\n').map (stripChars ['\r']) := by
  have hnewline : ['\n'] ⊆ whitespace := by decide
  have hstripped : stripChars ['\n'] (strip text) = strip text :=
    stripChars_eq_self (fun d hd h ↦ head?_stripChars hd (hnewline h))
      (fun d hd h ↦ getLast?_stripChars hd (hnewline h))
  unfold splitlineUnicodesafe
  rw [if_neg hne, hstripped]

/-- The lines of texts that each end in a newline. -/
theorem splitOn_newlineTerminated_flatMap (texts : List (List Char)) (text : List Char) :
    (newlineTerminated texts ++ text).splitOn '\n' =
      texts.flatMap (List.splitOn '\n') ++ text.splitOn '\n' := by
  induction texts with
  | nil => rfl
  | cons first texts ih =>
    rw [newlineTerminated_cons_append, List.splitOn_append_cons_self, ih, List.flatMap_cons,
      List.append_assoc]

/-- Stripping lines leaves those up to the last one that is not only whitespace. -/
theorem exists_strip_newlineTerminated {lines blank : List (List Char)} {last : List Char}
    (hhead : ∀ ch ∈ (newlineTerminated lines ++ last).head?, ch ∉ whitespace)
    (hlast : strip last ≠ []) (hblank : ∀ line ∈ blank, strip line = []) :
    ∃ core back, last = core ++ back ∧ (∀ ch ∈ back, ch ∈ whitespace) ∧ core ≠ [] ∧
      (∀ ch ∈ core.getLast?, ch ∉ whitespace) ∧
      strip (newlineTerminated (lines ++ last :: blank)) = newlineTerminated lines ++ core := by
  obtain ⟨front, back, htext, -, hback⟩ := exists_eq_append_stripChars whitespace last
  have hcore : front ++ strip last ≠ [] := fun h ↦ hlast (List.append_eq_nil_iff.mp h).2
  have hend : ∀ ch ∈ (front ++ strip last).getLast?, ch ∉ whitespace := by
    intro ch hch
    rw [List.getLast?_append_of_ne_nil _ hlast] at hch
    exact getLast?_stripChars hch
  refine ⟨front ++ strip last, back, htext, hback, hcore, hend, ?_⟩
  have hspaces : ∀ ch ∈ back ++ '\n' :: newlineTerminated blank, ch ∈ whitespace := by
    intro ch hch
    rcases List.mem_append.mp hch with hch | hch
    · exact hback ch hch
    rcases List.mem_cons.mp hch with rfl | hch
    · decide
    · obtain ⟨line, hline, hch⟩ := List.mem_flatMap.mp hch
      rcases List.mem_append.mp hch with hch | hch
      · exact mem_whitespace_of_strip (hblank line hline) ch hch
      · rw [List.mem_singleton.mp hch]
        decide
  have hsplit : newlineTerminated (lines ++ last :: blank) =
      (newlineTerminated lines ++ (front ++ strip last)) ++
        (back ++ '\n' :: newlineTerminated blank) := by
    rw [newlineTerminated_append, newlineTerminated_cons, List.append_assoc,
      ← List.append_assoc _ back, List.append_cancel_left_eq]
    exact congrArg (· ++ '\n' :: newlineTerminated blank) htext
  rw [hsplit]
  refine (stripChars_append_right hspaces _).trans (stripChars_eq_self (fun ch hch ↦ ?_) ?_)
  · apply hhead
    have hfirst : (newlineTerminated lines ++ last).head? =
        ((newlineTerminated lines ++ (front ++ strip last)) ++ back).head? := by
      rw [List.append_assoc]
      exact congrArg (fun text ↦ (newlineTerminated lines ++ text).head?) htext
    rw [hfirst, List.head?_append, hch]
    rfl
  · intro ch hch
    rw [List.getLast?_append_of_ne_nil _ hcore] at hch
    exact hend ch hch

end Stripping

end Irrd.Utils
