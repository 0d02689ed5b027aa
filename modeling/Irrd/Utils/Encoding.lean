import Mathlib.Data.List.Basic

/-!
# Texts as bytes

Texts are encoded in UTF-8, and decoded where all bytes are of ASCII. What is decoded from an
encoded text is the text, and exactly the texts in ASCII are decoded.
-/

namespace Irrd.Utils

/-- `str.encode`. -/
def encode (text : String) : List UInt8 := text.toList.flatMap String.utf8EncodeChar

/-- A text all whose characters are of ASCII, `str.isascii`. -/
def isAscii (text : String) : Bool := text.toList.all (fun c ↦ c.val ≤ 127)

/-- `bytes.decode("ascii")`, which refuses all other bytes. -/
def decodeAscii (bytes : List UInt8) : Option String :=
  if bytes.all (fun b ↦ b ≤ 127) then
    some (String.ofList (bytes.map (fun b ↦ Char.ofNat b.toNat)))
  else none

/-- `bytes.decode("ascii", "ignore")`. -/
def decodeAsciiIgnore (bytes : List UInt8) : String :=
  String.ofList ((bytes.filter (fun b ↦ b ≤ 127)).map (fun b ↦ Char.ofNat b.toNat))

/-- A byte that is not decoded, as `backslashreplace` writes it. -/
def backslashEscape (b : UInt8) : List Char :=
  ['\\', 'x', Nat.digitChar (b.toNat / 16), Nat.digitChar (b.toNat % 16)]

/-- `bytes.decode("utf-8", errors="backslashreplace")`. -/
def decodeBackslashreplace : List UInt8 → List Char
  | [] => []
  | b :: bytes =>
    match (b :: bytes).toByteArray.utf8DecodeChar? 0 with
    | some c => c :: decodeBackslashreplace (bytes.drop (c.utf8Size - 1))
    | none => backslashEscape b ++ decodeBackslashreplace bytes
termination_by bytes => bytes.length
decreasing_by all_goals simp; try omega

@[simp] theorem isAscii_append (text text' : String) :
    isAscii (text ++ text') = (isAscii text && isAscii text') := by
  simp [isAscii]

theorem utf8EncodeChar_of_ascii {c : Char} (hc : c.val ≤ 127) :
    String.utf8EncodeChar c = [c.val.toUInt8] :=
  String.utf8EncodeChar_eq_singleton (Char.utf8Size_eq_one_iff.mpr hc)

/-- No byte of a character that is not of ASCII is a byte of ASCII. -/
theorem not_le_of_mem_utf8EncodeChar {c : Char} (hc : ¬ c.val ≤ 127) {b : UInt8}
    (hb : b ∈ String.utf8EncodeChar c) : ¬ b ≤ 127 := by
  have hmarked (b marker : UInt8) (hmarker : 128 ≤ marker.toNat) : ¬ (b ||| marker) ≤ 127 := by
    rw [UInt8.le_iff_toNat_le, UInt8.toNat_or]
    have hbit : 128 ≤ b.toNat ||| marker.toNat := Nat.le_trans hmarker Nat.right_le_or
    exact fun hle ↦ absurd (Nat.le_trans hbit hle) (by decide)
  rcases Char.utf8Size_eq c with h | h | h | h
  · exact absurd (Char.utf8Size_eq_one_iff.mp h) hc
  · rw [String.utf8EncodeChar_eq_cons_cons h] at hb
    simp only [List.mem_cons, List.not_mem_nil, or_false] at hb
    rcases hb with rfl | rfl <;> exact hmarked _ _ (by decide)
  · rw [String.utf8EncodeChar_eq_cons_cons_cons h] at hb
    simp only [List.mem_cons, List.not_mem_nil, or_false] at hb
    rcases hb with rfl | rfl | rfl <;> exact hmarked _ _ (by decide)
  · rw [String.utf8EncodeChar_eq_cons_cons_cons_cons h] at hb
    simp only [List.mem_cons, List.not_mem_nil, or_false] at hb
    rcases hb with rfl | rfl | rfl | rfl <;> exact hmarked _ _ (by decide)

/-- Exactly the texts in ASCII are encoded by bytes of ASCII. -/
theorem all_encode (text : String) :
    (encode text).all (fun b ↦ b ≤ 127) = isAscii text := by
  unfold encode isAscii
  rw [List.all_flatMap]
  congr 1
  funext c
  by_cases hc : c.val ≤ 127
  · have hbyte : c.val.toUInt8 ≤ 127 := by
      rw [UInt8.le_iff_toNat_le, UInt32.toNat_toUInt8]
      exact Nat.le_trans (Nat.mod_le _ _) (UInt32.le_iff_toNat_le.mp hc)
    rw [utf8EncodeChar_of_ascii hc, decide_eq_true hc, List.all_cons, decide_eq_true hbyte]
    rfl
  · have hlength : 0 < (String.utf8EncodeChar c).length := by
      rw [String.length_utf8EncodeChar]
      exact Char.utf8Size_pos c
    obtain ⟨b, hb⟩ := List.length_pos_iff_exists_mem.mp hlength
    rw [decide_eq_false hc, List.all_eq_false]
    exact ⟨b, hb, by simpa using not_le_of_mem_utf8EncodeChar hc hb⟩

/-- A text in ASCII has one byte for each character. -/
theorem length_encode {text : String} (htext : isAscii text = true) :
    (encode text).length = text.toList.length := by
  have hascii : ∀ c ∈ text.toList, c.val ≤ 127 := by simpa [isAscii] using htext
  unfold encode
  rw [List.length_flatMap, List.map_congr_left (g := fun _ ↦ 1)
    (fun c hc ↦ by rw [utf8EncodeChar_of_ascii (hascii c hc)]; rfl)]
  simp

/-- A byte of ASCII stands in an encoded text only for the character that it encodes. -/
theorem not_mem_encode {c : Char} (hc : c.val ≤ 127) {text : String} (htext : c ∉ text.toList) :
    c.val.toUInt8 ∉ encode text := by
  have hbyte {d : Char} (hd : d.val ≤ 127) : d.val.toUInt8.toNat = d.val.toNat := by
    rw [UInt32.toNat_toUInt8]
    exact Nat.mod_eq_of_lt (Nat.lt_of_le_of_lt (UInt32.le_iff_toNat_le.mp hd) (by decide))
  unfold encode
  rw [List.mem_flatMap]
  rintro ⟨d, hd, hmem⟩
  by_cases hascii : d.val ≤ 127
  · rw [utf8EncodeChar_of_ascii hascii, List.mem_singleton] at hmem
    have hsame : c.val.toNat = d.val.toNat := by rw [← hbyte hc, hmem, hbyte hascii]
    have hchar : c = d := Char.ext (UInt32.toNat_inj.mp hsame)
    exact htext (hchar ▸ hd)
  · refine not_le_of_mem_utf8EncodeChar hascii hmem ?_
    rw [UInt8.le_iff_toNat_le, hbyte hc]
    exact UInt32.le_iff_toNat_le.mp hc

/-- Decoding an encoded text gives the text, exactly where the text is in ASCII. -/
theorem decodeAscii_encode (text : String) :
    decodeAscii (encode text) = if isAscii text then some text else none := by
  unfold decodeAscii
  rw [all_encode]
  split
  · next hascii =>
    congr 1
    have hchars (cs : List Char) (hcs : ∀ c ∈ cs, c.val ≤ 127) :
        (cs.flatMap String.utf8EncodeChar).map (fun b ↦ Char.ofNat b.toNat) = cs := by
      induction cs with
      | nil => rfl
      | cons c cs ih =>
        have hc := hcs c List.mem_cons_self
        have hbyte : c.val.toUInt8.toNat = c.toNat := by
          rw [UInt32.toNat_toUInt8]
          exact Nat.mod_eq_of_lt (Nat.lt_of_le_of_lt (UInt32.le_iff_toNat_le.mp hc) (by decide))
        rw [List.flatMap_cons, utf8EncodeChar_of_ascii hc, List.singleton_append, List.map_cons,
          hbyte, Char.ofNat_toNat, ih (fun c' hc' ↦ hcs c' (List.mem_cons_of_mem c hc'))]
    unfold encode
    rw [hchars _ (by simpa [isAscii] using hascii), String.ofList_toList]
  · rfl

/-- No two texts have the same encoding. -/
theorem encode_injective : Function.Injective encode := by
  intro text text' h
  unfold encode at h
  have hbytes : text.toList.utf8Encode = text'.toList.utf8Encode := by
    unfold List.utf8Encode
    rw [h]
  rw [String.utf8Encode_toList, String.utf8Encode_toList] at hbytes
  exact String.toByteArray_inj.mp hbytes

@[simp] theorem encode_append (text text' : String) :
    encode (text ++ text') = encode text ++ encode text' := by
  simp [encode]

theorem decodeBackslashreplace_utf8EncodeChar (c : Char) (rest : List UInt8) :
    decodeBackslashreplace (String.utf8EncodeChar c ++ rest) =
      c :: decodeBackslashreplace rest := by
  have hlength : (String.utf8EncodeChar c).length = c.utf8Size := String.length_utf8EncodeChar c
  have hdecode : (String.utf8EncodeChar c ++ rest).toByteArray.utf8DecodeChar? 0 = some c := by
    rw [List.toByteArray_append]
    exact ByteArray.utf8DecodeChar?_utf8EncodeChar_append
  cases hbytes : String.utf8EncodeChar c with
  | nil =>
    rw [hbytes, List.length_nil] at hlength
    exact absurd hlength (Nat.ne_of_lt (Char.utf8Size_pos c))
  | cons b bytes =>
    rw [hbytes] at hlength hdecode
    rw [List.cons_append] at hdecode ⊢
    rw [decodeBackslashreplace, hdecode]
    have hdrop : (bytes ++ rest).drop (c.utf8Size - 1) = rest := by
      rw [← hlength, List.length_cons, Nat.add_sub_cancel, List.drop_left]
    exact congrArg (fun rest ↦ c :: decodeBackslashreplace rest) hdrop

/-- What follows an encoded text is decoded by itself. -/
theorem decodeBackslashreplace_encode (text : String) (rest : List UInt8) :
    decodeBackslashreplace (encode text ++ rest) =
      text.toList ++ decodeBackslashreplace rest := by
  unfold encode
  induction text.toList with
  | nil => rfl
  | cons c cs ih =>
    rw [List.flatMap_cons, List.append_assoc, decodeBackslashreplace_utf8EncodeChar, ih]
    rfl

/-- The characters of an escaped byte are printable. -/
theorem not_mem_backslashEscape (b : UInt8) : '\n' ∉ backslashEscape b := by
  have hdigit (n : Nat) (hn : n < 16) : '\n' ≠ Nat.digitChar n := by
    decide +revert
  have hb : b.toNat < 256 := b.toNat_lt
  unfold backslashEscape
  simp only [List.mem_cons, List.not_mem_nil, or_false, not_or]
  exact ⟨by decide, by decide, hdigit _ (by omega), hdigit _ (by omega)⟩

/-- Only a newline is decoded to a newline. -/
theorem mem_of_newline_mem_decode {bytes : List UInt8}
    (h : '\n' ∈ decodeBackslashreplace bytes) : 0x0a ∈ bytes := by
  fun_induction decodeBackslashreplace bytes with
  | case1 => cases h
  | case2 b bytes c hdecode ih =>
    rcases List.mem_cons.mp h with rfl | h
    · obtain ⟨rest, hrest⟩ := ByteArray.exists_of_utf8DecodeChar?_eq_some hdecode
      have hbytes : b :: bytes = String.utf8EncodeChar '\n' ++ rest.data.toList := by
        have hdata := congrArg (fun array ↦ array.data.toList) hrest
        simpa using hdata
      rw [hbytes]
      exact List.mem_append_left _ (by decide)
    · exact List.mem_cons_of_mem _ ((List.drop_sublist _ _).mem (ih h))
  | case3 b bytes hdecode ih =>
    rcases List.mem_append.mp h with h | h
    · exact absurd h (not_mem_backslashEscape b)
    · exact List.mem_cons_of_mem _ (ih h)

end Irrd.Utils
