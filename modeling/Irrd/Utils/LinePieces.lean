import Irrd.Utils.Splitlines

/-!
# Pieces of lines

What `str.splitlines` makes of the lines of a text: a line has several pieces where it has line
breaks other than newlines.
-/

namespace Irrd.Utils

section Pieces

variable {line : List Char}

/-- The lines that `str.splitlines` finds in a line that ends in a newline. -/
def linePieces (line : List Char) : List (List Char) := splitlines (line ++ ['\n'])

theorem splitlines_newlineTerminated (lines : List (List Char)) :
    splitlines (newlineTerminated lines) = lines.flatMap linePieces := by
  unfold splitlines
  rw [splitlinesKeepends_newlineTerminated, List.map_flatMap]
  rfl

theorem linePieces_ne_nil (line : List Char) : linePieces line ≠ [] := by
  simp [linePieces, splitlines, splitlinesKeepends_eq_nil_iff]

/-- A line without line breaks is its only piece. -/
theorem linePieces_eq_self (hline : ∀ ch ∈ line, ch ∉ lineBreaks) : linePieces line = [line] := by
  unfold linePieces splitlines
  induction line with
  | nil => rfl
  | cons ch line ih =>
    obtain ⟨hch, hothers⟩ := List.forall_mem_cons.mp hline
    have hrest := ih hothers
    rw [List.cons_append, splitlinesKeepends_of_not_break hch]
    cases hpieces : splitlinesKeepends (line ++ ['\n']) with
    | nil =>
      rw [hpieces] at hrest
      cases hrest
    | cons piece pieces =>
      rw [hpieces, List.map_cons, List.cons.injEq] at hrest
      obtain ⟨hpiece, hpieces⟩ := hrest
      rw [← hpiece, List.map_cons, hpieces]

/-- A line that is its only piece has no line breaks. -/
theorem not_mem_of_length_linePieces (hnewline : '\n' ∉ line)
    (hreturn : line.getLast? ≠ some '\r') (hlength : (linePieces line).length = 1) :
    ∀ ch ∈ line, ch ∉ lineBreaks := by
  unfold linePieces splitlines at hlength
  rw [List.length_map, List.length_eq_one_iff] at hlength
  obtain ⟨piece, hpiece⟩ := hlength
  have hmem : piece ∈ splitlinesKeepends (line ++ ['\n']) := by
    rw [hpiece]
    exact List.mem_singleton_self _
  have htext := flatMap_splitlinesKeepends (line ++ ['\n'])
  obtain ⟨ch, -, hending⟩ := ending_splitlinesKeepends hnewline hreturn piece hmem
  rw [hpiece, List.flatMap_singleton, hending] at htext
  have hline := (mem_splitlinesKeepends _ piece hmem).1
  rwa [(List.append_inj' htext rfl).1] at hline

/-- Pieces of a line are parts of it. -/
theorem mem_of_mem_linePieces {piece : List Char} (hpiece : piece ∈ linePieces line) {ch : Char}
    (hch : ch ∈ piece) : ch ∈ line := by
  have hnewline : ch ≠ '\n' := by
    rintro rfl
    exact not_mem_of_mem_splitlines hpiece (by decide) hch
  obtain ⟨⟨piece, ending⟩, hmem, rfl⟩ := List.mem_map.mp hpiece
  have htext : ch ∈ line ++ ['\n'] := by
    rw [← flatMap_splitlinesKeepends (line ++ ['\n'])]
    exact List.mem_flatMap.mpr ⟨_, hmem, List.mem_append_left _ hch⟩
  rcases List.mem_append.mp htext with h | h
  · exact h
  · exact absurd (List.mem_singleton.mp h) hnewline

/-- What a line begins with, up to its first line break, its first piece begins with. -/
theorem exists_linePieces_append {start : List Char} (hstart : ∀ ch ∈ start, ch ∉ lineBreaks)
    (rest : List Char) :
    ∃ first others, linePieces (start ++ rest) = (start ++ first) :: others := by
  unfold linePieces splitlines
  induction start with
  | nil =>
    cases hpieces : splitlinesKeepends (rest ++ ['\n']) with
    | nil => simp [splitlinesKeepends_eq_nil_iff] at hpieces
    | cons piece pieces =>
      refine ⟨piece.1, pieces.map Prod.fst, ?_⟩
      rw [List.nil_append, hpieces]
      rfl
  | cons ch start ih =>
    obtain ⟨hch, hothers⟩ := List.forall_mem_cons.mp hstart
    obtain ⟨first, others, hrest⟩ := ih hothers
    refine ⟨first, others, ?_⟩
    rw [List.cons_append, List.cons_append, splitlinesKeepends_of_not_break hch]
    cases hpieces : splitlinesKeepends (start ++ rest ++ ['\n']) with
    | nil =>
      rw [hpieces] at hrest
      cases hrest
    | cons piece pieces =>
      rw [hpieces, List.map_cons, List.cons.injEq] at hrest
      obtain ⟨hpiece, hpieces⟩ := hrest
      rw [List.map_cons, hpieces, hpiece]
      rfl

end Pieces

section Weight

/-- The number of characters that are no whitespace. -/
def weight (text : List Char) : Nat := text.countP (· ∉ whitespace)

@[simp] theorem weight_append (x y : List Char) : weight (x ++ y) = weight x + weight y :=
  List.countP_append

theorem weight_eq_zero {text : List Char} (htext : ∀ ch ∈ text, ch ∈ whitespace) :
    weight text = 0 := by
  apply List.countP_eq_zero.mpr
  intro ch hch
  simpa using htext ch hch

/-- Stripping leaves all characters that are no whitespace. -/
theorem weight_strip (text : List Char) : weight (strip text) = weight text := by
  obtain ⟨front, back, htext, hfront, hback⟩ := exists_eq_append_stripChars whitespace text
  conv_rhs => rw [htext, weight_append, weight_append, weight_eq_zero hfront, weight_eq_zero hback]
  rw [Nat.zero_add, Nat.add_zero]
  rfl

/-- What ends a piece is whitespace. -/
theorem mem_whitespace_of_ending {text : List Char} {piece : List Char × List Char}
    (hpiece : piece ∈ splitlinesKeepends text) : ∀ ch ∈ piece.2, ch ∈ whitespace := by
  intro ch hch
  rcases (mem_splitlinesKeepends _ piece hpiece).2 with h | h | ⟨d, hd, h⟩
  · rw [h] at hch
    cases hch
  · rw [h] at hch
    rcases List.mem_pair.mp hch with rfl | rfl <;> decide
  · rw [h, List.mem_singleton] at hch
    exact hch ▸ List.mem_append_left _ hd

/-- The pieces of a line have all of its characters that are no whitespace. -/
theorem weight_linePieces (line : List Char) : weight (linePieces line).flatten = weight line := by
  have hall (pieces : List (List Char × List Char))
      (hpieces : ∀ piece ∈ pieces, ∀ ch ∈ piece.2, ch ∈ whitespace) :
      weight (pieces.map Prod.fst).flatten =
        weight (pieces.flatMap (fun piece ↦ piece.1 ++ piece.2)) := by
    induction pieces with
    | nil => rfl
    | cons piece pieces ih =>
      obtain ⟨hpiece, hothers⟩ := List.forall_mem_cons.mp hpieces
      rw [List.map_cons, List.flatten_cons, weight_append, ih hothers, List.flatMap_cons,
        weight_append, weight_append, weight_eq_zero hpiece, Nat.add_zero]
  have htext := hall (splitlinesKeepends (line ++ ['\n'])) (fun _ ↦ mem_whitespace_of_ending)
  rw [flatMap_splitlinesKeepends, weight_append] at htext
  exact htext

end Weight

section Ends

/-- What follows a character that is no line break continues its piece. -/
theorem exists_splitlinesKeepends_append {z : Char} (hz : z ∉ lineBreaks) (x : List Char) :
    ∃ front start, ∀ y, splitlinesKeepends (x ++ z :: y) =
      front ++ match splitlinesKeepends y with
        | [] => [(start ++ [z], [])]
        | (line, ending) :: lines => (start ++ z :: line, ending) :: lines := by
  fun_induction splitlinesKeepends x with
  | case1 =>
    refine ⟨[], [], fun y ↦ ?_⟩
    rw [List.nil_append, List.nil_append, splitlinesKeepends_of_not_break hz]
    rfl
  | case2 text ih =>
    obtain ⟨front, start, hsplit⟩ := ih
    refine ⟨([], ['\r', '\n']) :: front, start, fun y ↦ ?_⟩
    rw [List.cons_append, List.cons_append, splitlinesKeepends, hsplit]
    rfl
  | case3 c text hnot hc ih =>
    obtain ⟨front, start, hsplit⟩ := ih
    refine ⟨([], [c]) :: front, start, fun y ↦ ?_⟩
    rw [List.cons_append, splitlinesKeepends_of_break hc, hsplit]
    · rfl
    · intro h rest heq
      cases text with
      | nil => exact hz ((List.cons.inj heq).1 ▸ by decide)
      | cons d text => exact hnot text h ((List.cons.inj heq).1 ▸ rfl)
  | case4 c text hnot hc hnil ih =>
    cases splitlinesKeepends_eq_nil_iff.mp hnil
    refine ⟨[], [c], fun y ↦ ?_⟩
    rw [List.cons_append, List.nil_append, splitlinesKeepends_of_not_break hc,
      splitlinesKeepends_of_not_break hz]
    cases splitlinesKeepends y <;> rfl
  | case5 c text hnot hc line ending lines hcons ih =>
    obtain ⟨front, start, hsplit⟩ := ih
    cases front with
    | nil =>
      refine ⟨[], c :: start, fun y ↦ ?_⟩
      rw [List.cons_append, splitlinesKeepends_of_not_break hc, hsplit]
      cases splitlinesKeepends y <;> rfl
    | cons piece front =>
      refine ⟨(c :: piece.1, piece.2) :: front, start, fun y ↦ ?_⟩
      rw [List.cons_append, splitlinesKeepends_of_not_break hc, hsplit]
      rfl

/-- Whitespace at the end of a line belongs to its last piece, or to pieces of whitespace. -/
theorem exists_linePieces_append_whitespace {core back : List Char} (hcore : core ≠ [])
    (hlast : ∀ ch ∈ core.getLast?, ch ∉ whitespace) (hback : ∀ ch ∈ back, ch ∈ whitespace) :
    ∃ front last spaces blank, linePieces core = front ++ [last] ∧
      linePieces (core ++ back) = front ++ (last ++ spaces) :: blank ∧ last ≠ [] ∧
      (∀ ch ∈ last.getLast?, ch ∉ whitespace) ∧ (∀ ch ∈ spaces, ch ∈ whitespace) ∧
      ∀ line ∈ blank, strip line = [] := by
  obtain ⟨x, z, rfl⟩ : ∃ x z, core = x ++ [z] :=
    ⟨core.dropLast, core.getLast hcore, (List.dropLast_append_getLast hcore).symm⟩
  have hz : z ∉ whitespace := hlast z (by rw [List.getLast?_concat]; rfl)
  obtain ⟨front, start, hsplit⟩ :=
    exists_splitlinesKeepends_append (fun h ↦ hz (List.mem_append_left _ h)) x
  have hpieces : ∀ piece ∈ splitlinesKeepends (back ++ ['\n']), ∀ ch ∈ piece.1,
      ch ∈ whitespace := by
    intro piece hpiece ch hch
    have hmem : ch ∈ back ++ ['\n'] := by
      rw [← flatMap_splitlinesKeepends (back ++ ['\n'])]
      exact List.mem_flatMap.mpr ⟨piece, hpiece, List.mem_append_left _ hch⟩
    rcases List.mem_append.mp hmem with hmem | hmem
    · exact hback ch hmem
    · rw [List.mem_singleton.mp hmem]
      decide
  cases hends : splitlinesKeepends (back ++ ['\n']) with
  | nil => simp [splitlinesKeepends_eq_nil_iff] at hends
  | cons piece pieces =>
    rw [hends] at hpieces
    obtain ⟨hpiece, hothers⟩ := List.forall_mem_cons.mp hpieces
    refine ⟨front.map Prod.fst, start ++ [z], piece.1, pieces.map Prod.fst, ?_, ?_, by simp, ?_,
      hpiece, ?_⟩
    · unfold linePieces splitlines
      rw [List.append_assoc, List.singleton_append, hsplit]
      simp [splitlinesKeepends, lineBreaks]
    · unfold linePieces splitlines
      rw [List.append_assoc, List.append_assoc, List.singleton_append, hsplit, hends]
      simp
    · intro ch hch
      rw [List.getLast?_concat] at hch
      cases hch
      exact hz
    · intro line hline
      obtain ⟨piece', hpiece', rfl⟩ := List.mem_map.mp hline
      have hstripped : strip ([] ++ piece'.1) = strip [] :=
        stripChars_append_right (hothers piece' hpiece') []
      exact hstripped

end Ends

end Irrd.Utils
