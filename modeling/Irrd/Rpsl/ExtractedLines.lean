import Irrd.Base.DelimitedStream
import Irrd.Rpsl.RenderedText

/-!
# Extracted lines

What a line adds to the attributes that are extracted: an attribute of its own, or a continuation
of the one before it. Source: `irrd/rpsl/parser.py`.
-/

namespace Irrd.Rpsl

open Irrd.Base Irrd.Utils

section Lines

variable {c : RPSLObjectClass} {lineNo : Nat} {data : List Attribute} {current : Option Attribute}

theorem saveAttribute_append (front : List Attribute) :
    saveAttribute c (front ++ data) current = front ++ saveAttribute c data current := by
  unfold saveAttribute
  split
  · split
    · rfl
    · rw [List.append_assoc]
  · rfl

/-- Attributes that are there already stay in front. -/
theorem extractLines_append (front : List Attribute) (lines : List (List Char)) :
    extractLines c lineNo (front ++ data) current lines =
      (front ++ (extractLines c lineNo data current lines).1,
        (extractLines c lineNo data current lines).2) := by
  fun_induction extractLines c lineNo data current lines with
  | case1 lineNo data current => rw [extractLines, saveAttribute_append]
  | case2 lineNo data current lines => rw [extractLines]
  | case3 lineNo data current char rest lines hcontinues ih =>
    rw [extractLines, if_pos hcontinues, ih]
  | case4 lineNo data current char rest lines hcontinues saved hsplit =>
    rw [extractLines, if_neg hcontinues]
    simp only [hsplit, saveAttribute_append]
    rfl
  | case5 lineNo data current char rest lines hcontinues saved attr value hsplit attr' hname =>
    rw [extractLines, if_neg hcontinues]
    simp only [hsplit, saveAttribute_append]
    rw [if_pos hname]
  | case6 lineNo data current char rest lines hcontinues saved attr value hsplit attr' hname ih =>
    rw [extractLines, if_neg hcontinues]
    simp only [hsplit, saveAttribute_append]
    rw [if_neg hname, ih]

/-- The number of the first line matters for the texts of errors only. -/
theorem extractLines_lineNo (c : RPSLObjectClass) (data : List Attribute)
    (current : Option Attribute) (lineNo lineNo' : Nat) (lines : List (List Char)) :
    (extractLines c lineNo data current lines).1 = (extractLines c lineNo' data current lines).1 ∧
      (RPSLParserMessages.errors (extractLines c lineNo data current lines).2 = [] ↔
        RPSLParserMessages.errors (extractLines c lineNo' data current lines).2 = []) := by
  have herror (message : String) : RPSLParserMessages.errors [(.error, message)] ≠ [] := by
    simp [RPSLParserMessages.errors]
  fun_induction extractLines c lineNo data current lines generalizing lineNo' with
  | case1 lineNo data current =>
    rw [extractLines]
    exact ⟨rfl, Iff.rfl⟩
  | case2 lineNo data current lines =>
    rw [extractLines]
    exact ⟨rfl, iff_of_false (herror _) (herror _)⟩
  | case3 lineNo data current char rest lines hcontinues ih =>
    rw [extractLines, if_pos hcontinues]
    exact ih (lineNo' + 1)
  | case4 lineNo data current char rest lines hcontinues saved hsplit =>
    rw [extractLines, if_neg hcontinues]
    simp only [hsplit]
    exact ⟨rfl, iff_of_false (herror _) (herror _)⟩
  | case5 lineNo data current char rest lines hcontinues saved attr value hsplit attr' hname =>
    rw [extractLines, if_neg hcontinues]
    simp only [hsplit]
    rw [if_pos hname]
    exact ⟨rfl, iff_of_false (herror _) (herror _)⟩
  | case6 lineNo data current char rest lines hcontinues saved attr value hsplit attr' hname ih =>
    rw [extractLines, if_neg hcontinues]
    simp only [hsplit]
    rw [if_neg hname]
    exact ih (lineNo' + 1)

/-- A name of an attribute is in lower case. -/
theorem lower_of_reAttrName {name : List Char} (hname : reAttrName name = true) :
    lower name = name := by
  unfold reAttrName at hname
  simp only [Bool.and_eq_true, List.all_eq_true] at hname
  unfold lower
  conv_rhs => rw [← List.map_id name]
  refine List.map_congr_left (fun ch hch ↦ ?_)
  have hchar := hname.2 ch hch
  unfold Char.toLower
  split
  · next hupper =>
    exfalso
    revert hchar
    simp only [Bool.or_eq_true, decide_eq_true_eq, List.mem_cons, List.not_mem_nil, or_false]
    rintro ((hlower | hdigit) | rfl | rfl)
    · have hlow : 'a'.val ≤ ch.val := of_decide_eq_true (Bool.and_eq_true_iff.mp hlower).1
      exact absurd (UInt32.le_trans hlow hupper.2) (by decide)
    · have hhigh : ch.val ≤ '9'.val := of_decide_eq_true (Bool.and_eq_true_iff.mp hdigit).2
      exact absurd (UInt32.le_trans hupper.1 hhigh) (by decide)
    · exact absurd hupper (by decide)
    · exact absurd hupper (by decide)
  · rfl

/-- A line with a name and a value begins an attribute. -/
theorem extractLines_attribute {name : List Char} (hname : reAttrName name = true)
    (value : List Char) (lines : List (List Char)) :
    extractLines c lineNo data current ((name ++ ':' :: value) :: lines) =
      extractLines c (lineNo + 1) (saveAttribute c data current) (some ⟨name, strip value, []⟩)
        lines := by
  have hproper : ProperAttribute ⟨name, [], []⟩ := ⟨hname, by simp⟩
  have hcolon : ':' ∉ name := fun h ↦ (hproper.of_mem_name h).2.2 rfl
  have hsplit := splitOnce_append hcolon value
  cases hchars : name with
  | nil =>
    rw [hchars] at hname
    exact absurd hname (by decide)
  | cons ch rest =>
    have hcontinues : isContinuation ch = false :=
      (hproper.of_mem_name (hchars ▸ List.mem_cons_self)).1
    rw [hchars] at hsplit hname
    rw [List.cons_append] at hsplit ⊢
    rw [extractLines, if_neg (by simp [hcontinues])]
    simp only [hsplit, lower_of_reAttrName hname]
    rw [if_neg (fun h ↦ h.2 hname)]

/-- A line that continues an attribute. -/
def isContinuationLine (line : List Char) : Bool := line.head?.any isContinuation

/-- What an attribute is with the lines that continue it. -/
def Attribute.continued (a : Attribute) (lines : List (List Char)) : Attribute :=
  { a with
    value := a.value ++ (lines.map (fun line ↦ '\n' :: strip (line.drop 1))).flatten
    continuationChars := a.continuationChars ++ lines.flatMap (List.take 1) }

/-- Lines that continue an attribute. -/
theorem extractLines_continued {continuations : List (List Char)}
    (hcontinuations : ∀ line ∈ continuations, isContinuationLine line = true) (a : Attribute)
    (lines : List (List Char)) :
    extractLines c lineNo data (some a) (continuations ++ lines) =
      extractLines c (lineNo + continuations.length) data (some (a.continued continuations))
        lines := by
  induction continuations generalizing lineNo a with
  | nil => simp [Attribute.continued]
  | cons line continuations ih =>
    obtain ⟨hline, hothers⟩ := List.forall_mem_cons.mp hcontinuations
    cases line with
    | nil => cases hline
    | cons ch rest =>
      have hch : isContinuation ch = true := by simpa [isContinuationLine] using hline
      rw [List.cons_append, extractLines, if_pos hch, Option.map_some, ih hothers]
      congr 1
      · rw [List.length_cons]
        omega
      · simp [Attribute.continued]

/-- A line that does not continue an attribute ends it. -/
theorem extractLines_saved (c : RPSLObjectClass) (lineNo : Nat) (data : List Attribute)
    (a : Attribute) {lines : List (List Char)}
    (hlines : ∀ line ∈ lines.head?, isContinuationLine line = false) :
    (RPSLParserMessages.errors (extractLines c lineNo data (some a) lines).2 = [] ↔
      RPSLParserMessages.errors
        (extractLines c lineNo (saveAttribute c data (some a)) none lines).2 = []) ∧
      (RPSLParserMessages.errors (extractLines c lineNo data (some a) lines).2 = [] →
        extractLines c lineNo data (some a) lines =
          extractLines c lineNo (saveAttribute c data (some a)) none lines) := by
  cases lines with
  | nil => exact ⟨Iff.rfl, fun _ ↦ rfl⟩
  | cons line lines =>
    cases line with
    | nil =>
      have herror (message : String) : RPSLParserMessages.errors [(.error, message)] ≠ [] := by
        simp [RPSLParserMessages.errors]
      rw [extractLines, extractLines]
      exact ⟨iff_of_false (herror _) (herror _), fun h ↦ absurd h (herror _)⟩
    | cons ch rest =>
      have hch : ¬ isContinuation ch = true := by
        simpa [isContinuationLine] using hlines _ rfl
      rw [extractLines, if_neg hch, extractLines, if_neg hch]
      exact ⟨Iff.rfl, fun _ ↦ rfl⟩

end Lines

section Values

/-- What a line of a value contributes to it. -/
def significantPart (line : List Char) : List Char :=
  stripChars ['\n', '\t', ',', ' '] (beforeFirst '#' line)

/-- Empty lines at the ends of a text do not contribute to it. -/
theorem filter_map_splitOn_stripChars {g : List Char → List Char} (hg : g [] = [])
    (text : List Char) :
    (((stripChars ['\n'] text).splitOn '\n').map g).filter (· ≠ []) =
      ((text.splitOn '\n').map g).filter (· ≠ []) := by
  have hfront {front : List Char} (hfront : ∀ ch ∈ front, ch ∈ ['\n']) (text : List Char) :
      (((front ++ text).splitOn '\n').map g).filter (· ≠ []) =
        ((text.splitOn '\n').map g).filter (· ≠ []) := by
    induction front with
    | nil => rfl
    | cons ch front ih =>
      obtain ⟨hch, hothers⟩ := List.forall_mem_cons.mp hfront
      cases List.mem_singleton.mp hch
      rw [List.cons_append, ← List.nil_append ('\n' :: (front ++ text)),
        List.splitOn_append_cons_self, List.map_append, List.filter_append, ih hothers]
      simp [hg]
  have hback {back : List Char} (hback : ∀ ch ∈ back, ch ∈ ['\n']) (text : List Char) :
      (((text ++ back).splitOn '\n').map g).filter (· ≠ []) =
        ((text.splitOn '\n').map g).filter (· ≠ []) := by
    cases back with
    | nil => rw [List.append_nil]
    | cons ch back =>
      obtain ⟨hch, hothers⟩ := List.forall_mem_cons.mp hback
      cases List.mem_singleton.mp hch
      have hrest := hfront hothers []
      rw [List.append_nil] at hrest
      rw [List.splitOn_append_cons_self, List.map_append, List.filter_append, hrest]
      simp [hg]
  obtain ⟨front, back, htext, hfrontChars, hbackChars⟩ := exists_eq_append_stripChars ['\n'] text
  conv_rhs => rw [htext, hback hbackChars, hfront hfrontChars]

/-- The lines of a continued value contribute one after the other. -/
theorem normaliseRpslValue_continued {first : List Char} (hfirst : '\n' ∉ first)
    {parts : List (List Char)} (hparts : ∀ part ∈ parts, '\n' ∉ part) (hne : parts ≠ []) :
    normaliseRpslValue (first ++ (parts.map ('\n' :: ·)).flatten) =
      joinWith ',' (((first :: parts).map (fun part ↦
        significantPart (stripChars ['\r'] part))).filter (· ≠ [])) := by
  have hnewline : '\n' ∈ first ++ (parts.map ('\n' :: ·)).flatten := by
    cases parts with
    | nil => exact absurd rfl hne
    | cons part parts => simp
  have hsplit : (first ++ (parts.map ('\n' :: ·)).flatten).splitOn '\n' = first :: parts := by
    rw [splitOn_append_of_not_mem hfirst, splitOn_separated hparts, List.modifyHead_cons,
      List.append_nil]
  unfold normaliseRpslValue
  rw [if_neg (not_not_intro hnewline)]
  congr 1
  unfold splitlineUnicodesafe
  rw [if_neg (List.ne_nil_of_mem hnewline), List.map_map]
  refine (filter_map_splitOn_stripChars (g := fun part ↦
    significantPart (stripChars ['\r'] part)) (by decide) _).trans ?_
  rw [hsplit]

end Values

end Irrd.Rpsl
