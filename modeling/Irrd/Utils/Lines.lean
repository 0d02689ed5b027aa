import Irrd.Utils.Text

/-!
# Lines of object text

The string operations with which object text is taken apart and put together again. Source:
`irrd/utils/text.py`.
-/

namespace Irrd.Utils

/-- Upper case of ASCII letters. -/
def upcase (text : List Char) : List Char := text.map Char.toUpper

/-- `str.strip` with a set of characters. -/
def stripChars (chars text : List Char) : List Char :=
  ((text.dropWhile (· ∈ chars)).reverse.dropWhile (· ∈ chars)).reverse

/-- `str.split` at the first separator, where there is one. -/
def splitOnce (separator : Char) : List Char → Option (List Char × List Char)
  | [] => none
  | c :: text =>
    if c = separator then some ([], text)
    else (splitOnce separator text).map (fun (before, after) ↦ (c :: before, after))

/-- What comes before the first separator, or everything. -/
def beforeFirst (separator : Char) (text : List Char) : List Char :=
  text.takeWhile (· ≠ separator)

/-- `str.replace`, which skips the rest of an occurrence before it looks for the next one. -/
def replaceSkipping (old new : List Char) : Nat → List Char → List Char
  | _, [] => []
  | skip + 1, _ :: text => replaceSkipping old new skip text
  | 0, c :: text =>
    if old.isPrefixOf (c :: text) then new ++ replaceSkipping old new (old.length - 1) text
    else c :: replaceSkipping old new 0 text

/-- `str.replace`; nothing occurs around every character. -/
def replace (old new text : List Char) : List Char :=
  if old = [] then new ++ text.flatMap (fun c ↦ c :: new) else replaceSkipping old new 0 text

/-- `splitline_unicodesafe`, `irrd/utils/text.py:36–47`. -/
def splitlineUnicodesafe (input : List Char) : List (List Char) :=
  if input = [] then []
  else ((stripChars ['\n'] input).splitOn '\n').map (stripChars ['\r'])

/-- `str.join`. -/
def joinWith (separator : Char) (parts : List (List Char)) : List Char :=
  [separator].intercalate parts

/-- A line with a `last-modified` attribute that has a value. -/
def isLastModified (line : List Char) : Bool :=
  "last-modified: ".toList.isPrefixOf line && "last-modified: ".toList.length < line.length

/-- `remove_last_modified`, `irrd/utils/text.py:26–33`: only lines that end in a newline are
removed. -/
def removeLastModified (text : List Char) : List Char :=
  let lines := text.splitOn '\n'
  (lines.dropLast.filter (fun line ↦ !isLastModified line)).flatMap (fun line ↦ line ++ ['\n']) ++
    (lines.getLast?).getD []

/-- What stands before and after the first separator. -/
theorem append_separator_inj {separator : Char} {x y x' y' : List Char} (hx : separator ∉ x)
    (hx' : separator ∉ x') (htext : x ++ separator :: y = x' ++ separator :: y') :
    x = x' ∧ y = y' := by
  induction x generalizing x' with
  | nil =>
    cases x' with
    | nil => exact ⟨rfl, (List.cons.inj htext).2⟩
    | cons c x' => exact absurd ((List.cons.inj htext).1 ▸ List.mem_cons_self) hx'
  | cons c x ih =>
    cases x' with
    | nil => exact absurd ((List.cons.inj htext).1 ▸ List.mem_cons_self) hx
    | cons c' x' =>
      obtain ⟨rfl, hrest⟩ := List.cons.inj htext
      obtain ⟨rfl, hy⟩ := ih (fun h ↦ hx (List.mem_cons_of_mem _ h))
        (fun h ↦ hx' (List.mem_cons_of_mem _ h)) hrest
      exact ⟨rfl, hy⟩

/-- A number in decimal. -/
theorem toList_toString (n : Nat) : (toString n).toList = Nat.toDigits 10 n := Nat.toList_repr

theorem toString_ne_nil (n : Nat) : (toString n).toList ≠ [] := by
  rw [toList_toString]
  exact Nat.toDigits_ne_nil

theorem toString_injective {m n : Nat} (h : toString m = toString n) : m = n := by
  have hd : Nat.toDigits 10 m = Nat.toDigits 10 n := by
    rw [← toList_toString, h, toList_toString]
  rw [← Nat.ofDigitChars_ten_toDigits (n := m), hd, Nat.ofDigitChars_ten_toDigits]

/-- A number in decimal has only digits. -/
theorem isDigit_of_mem_toString {n : Nat} {c : Char} (hc : c ∈ (toString n).toList) :
    c.isDigit = true :=
  Nat.isDigit_of_mem_toDigits (by omega) (by omega) (toList_toString n ▸ hc)

theorem splitOnce_append {c : Char} {before : List Char} (hbefore : c ∉ before)
    (after : List Char) : splitOnce c (before ++ c :: after) = some (before, after) := by
  induction before with
  | nil => simp [splitOnce]
  | cons b before ih =>
    rw [List.mem_cons, not_or] at hbefore
    rw [List.cons_append, splitOnce, if_neg (Ne.symm hbefore.1), ih hbefore.2]
    rfl

theorem splitOnce_eq_some {c : Char} {text before after : List Char}
    (h : splitOnce c text = some (before, after)) : text = before ++ c :: after ∧ c ∉ before := by
  induction text generalizing before with
  | nil => cases h
  | cons b text ih =>
    rw [splitOnce] at h
    split at h
    · next hb =>
      cases h
      exact ⟨by rw [hb, List.nil_append], List.not_mem_nil⟩
    · next hb =>
      obtain ⟨⟨before', after'⟩, hrest, heq⟩ := Option.map_eq_some_iff.mp h
      cases heq
      obtain ⟨rfl, hnot⟩ := ih hrest
      exact ⟨rfl, by simpa [hnot] using Ne.symm hb⟩

theorem splitOnce_eq_none {c : Char} {text : List Char} (h : c ∉ text) :
    splitOnce c text = none := by
  induction text with
  | nil => rfl
  | cons d text ih =>
    obtain ⟨hd, htext⟩ := not_or.mp (List.mem_cons.not.mp h)
    rw [splitOnce, if_neg (fun heq ↦ hd heq.symm), ih htext]
    rfl

end Irrd.Utils
