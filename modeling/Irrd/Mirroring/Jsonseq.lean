import Irrd.Base.DelimitedStream
import Irrd.Base.Fallible
import Irrd.Utils.Encoding
import Irrd.Mirroring.Nrtm4Types

/-!
# JSON text sequences

Snapshot and delta files hold their JSON values as a text sequence, each behind a record
separator and ended by a newline. The decoder reads such a file in chunks. Source:
`irrd/mirroring/nrtm4/jsonseq.py`; encoding and decoding a single value is the work of ujson.
-/

namespace Irrd.Mirroring

open Irrd.Base Irrd.Utils

universe u

/-- The record separator, `irrd/mirroring/nrtm4/jsonseq.py:7`. -/
def recordSeparator : UInt8 := 0x1e

def newline : UInt8 := 0x0a

/-- `ujson`, for values of some type. -/
structure Ujson (Value : Type u) where
  dumps : Value → Except PyException String
  loads : List UInt8 → Except PyException Value

/-- What a generator yields, and the exception that ends it, if one does. -/
structure Generated (Value : Type u) where
  yielded : List Value
  raised : Option PyException
  deriving DecidableEq

namespace Generated

variable {Value : Type u}

/-- A generator that ends. -/
def finished : Generated Value := ⟨[], none⟩

/-- A generator that raises. -/
def failed (e : PyException) : Generated Value := ⟨[], some e⟩

/-- `yield`. -/
def cons (v : Value) (rest : Generated Value) : Generated Value :=
  ⟨v :: rest.yielded, rest.raised⟩

/-- `yield from`, followed by the rest of the generator. -/
def andThen (first rest : Generated Value) : Generated Value :=
  match first.raised with
  | some _ => first
  | none => ⟨first.yielded ++ rest.yielded, rest.raised⟩

@[simp] theorem finished_andThen (rest : Generated Value) : finished.andThen rest = rest := rfl

@[simp] theorem andThen_finished (first : Generated Value) : first.andThen finished = first := by
  rcases first with ⟨yielded, _ | e⟩
  · simp [andThen, finished]
  · rfl

@[simp] theorem failed_andThen (e : PyException) (rest : Generated Value) :
    (failed e).andThen rest = failed e := rfl

@[simp] theorem cons_andThen (v : Value) (first rest : Generated Value) :
    (cons v first).andThen rest = cons v (first.andThen rest) := by
  rcases first with ⟨yielded, _ | e⟩ <;> rfl

end Generated

section Coding

variable {Value : Type u} (ujson : Ujson Value)

/-- `jsonseq_encode_one`, `irrd/mirroring/nrtm4/jsonseq.py:46–52`. -/
def jsonseqEncodeOne (inputItem : Value) : Except PyException (List UInt8) := do
  let inputEncoded ← ujson.dumps inputItem
  return recordSeparator :: encode inputEncoded ++ [newline]

/-- `jsonseq_encode`, `irrd/mirroring/nrtm4/jsonseq.py:37–43`: what is written to the stream. -/
def jsonseqEncode (inputStream : List Value) : Except PyException (List UInt8) := do
  let records ← inputStream.mapM (jsonseqEncodeOne ujson)
  return records.flatten

/-- `yield ujson.loads(sequence)`. -/
def yieldLoaded (sequence : List UInt8) (rest : Generated Value) : Generated Value :=
  match ujson.loads sequence with
  | .ok v => .cons v rest
  | .error e => .failed e

/-- The loop over the sequences of a buffer, where empty ones are skipped,
`irrd/mirroring/nrtm4/jsonseq.py:22–24`. -/
def yieldSequences : List (List UInt8) → Generated Value
  | [] => .finished
  | sequence :: sequences =>
    if sequence = [] then yieldSequences sequences
    else yieldLoaded ujson sequence (yieldSequences sequences)

/-- `yield_buffer`, `irrd/mirroring/nrtm4/jsonseq.py:18–24`, with the buffer that it leaves. -/
def yieldBuffer (buffer : List UInt8) : Generated Value × List UInt8 :=
  if _h : recordSeparator ∈ buffer then
    let (rest, left) := yieldBuffer (remainder recordSeparator buffer)
    ((yieldSequences ujson (completed recordSeparator buffer)).andThen rest, left)
  else (.finished, buffer)
termination_by buffer.length
decreasing_by exact length_remainder_lt ‹_›

/-- The end of the stream, `irrd/mirroring/nrtm4/jsonseq.py:28–32`. -/
def yieldRemaining (buffer : List UInt8) : Generated Value :=
  let (generated, left) := yieldBuffer ujson buffer
  generated.andThen (if left = [] then .finished else yieldLoaded ujson left .finished)

/-- The loop that reads the stream, `irrd/mirroring/nrtm4/jsonseq.py:26–34`. A read that gives
nothing is the end of the stream. -/
def jsonseqDecodeFrom (buffer : List UInt8) : List (List UInt8) → Generated Value
  | [] => yieldRemaining ujson buffer
  | chunk :: chunks =>
    if chunk = [] then yieldRemaining ujson buffer
    else
      let (generated, left) := yieldBuffer ujson (buffer ++ chunk)
      generated.andThen (jsonseqDecodeFrom left chunks)

/-- `jsonseq_decode`, `irrd/mirroring/nrtm4/jsonseq.py:11–34`, of a stream that is read in the
given chunks. -/
def jsonseqDecode (chunks : List (List UInt8)) : Generated Value :=
  jsonseqDecodeFrom ujson [] chunks

end Coding

section Decoding

variable {Value : Type u} {ujson : Ujson Value}

theorem yieldLoaded_andThen (sequence : List UInt8) (first rest : Generated Value) :
    (yieldLoaded ujson sequence first).andThen rest =
      yieldLoaded ujson sequence (first.andThen rest) := by
  unfold yieldLoaded
  split <;> simp

theorem yieldSequences_append (sequences sequences' : List (List UInt8)) :
    yieldSequences ujson (sequences ++ sequences') =
      (yieldSequences ujson sequences).andThen (yieldSequences ujson sequences') := by
  induction sequences with
  | nil => rw [List.nil_append, yieldSequences, Generated.finished_andThen]
  | cons sequence sequences ih =>
    rw [List.cons_append, yieldSequences, yieldSequences]
    split
    · exact ih
    · rw [yieldLoaded_andThen, ih]

/-- The loop of `yield_buffer` is over after one round. -/
theorem yieldBuffer_eq (buffer : List UInt8) :
    yieldBuffer ujson buffer =
      (yieldSequences ujson (completed recordSeparator buffer),
        remainder recordSeparator buffer) := by
  rw [yieldBuffer]
  split
  · rw [yieldBuffer, dif_neg not_mem_remainder]
    dsimp only
    rw [Generated.andThen_finished]
  · next h =>
    rw [completed_of_not_mem h, remainder_of_not_mem h]
    rfl

/-- At the end, all that is left is decoded. -/
theorem yieldRemaining_eq (buffer : List UInt8) :
    yieldRemaining ujson buffer = yieldSequences ujson (buffer.splitOn recordSeparator) := by
  rw [← completed_append_remainder, yieldSequences_append, yieldRemaining, yieldBuffer_eq]
  rfl

/-- What is decoded of a stream does not depend on how it is read: it is decoded like the parts
between the separators of the whole stream. -/
theorem jsonseqDecodeFrom_eq {chunks : List (List UInt8)} (hchunks : ∀ chunk ∈ chunks, chunk ≠ [])
    (buffer : List UInt8) :
    jsonseqDecodeFrom ujson buffer chunks =
      yieldSequences ujson ((buffer ++ chunks.flatten).splitOn recordSeparator) := by
  induction chunks generalizing buffer with
  | nil => rw [List.flatten_nil, List.append_nil, jsonseqDecodeFrom, yieldRemaining_eq]
  | cons chunk chunks ih =>
    obtain ⟨hchunk, hothers⟩ := List.forall_mem_cons.mp hchunks
    rw [jsonseqDecodeFrom, if_neg hchunk, yieldBuffer_eq, List.flatten_cons, ← List.append_assoc,
      splitOn_append, yieldSequences_append]
    dsimp only
    rw [ih hothers]

/-- `ujson` writes a value without a record separator, and reads it back from what it wrote, with
a newline behind it or not. -/
structure Faithful (ujson : Ujson Value) (v : Value) : Prop where
  dumps_ok : ∃ text, ujson.dumps v = .ok text
  not_mem_dumps : ∀ text, ujson.dumps v = .ok text → '\x1e' ∉ text.toList
  loads_dumps : ∀ text, ujson.dumps v = .ok text → ujson.loads (encode text) = .ok v
  loads_newline : ∀ bytes, ujson.loads bytes = .ok v → ujson.loads (bytes ++ [newline]) = .ok v

/-- The part of a stream that is decoded to a value. -/
structure IsPartOf (ujson : Ujson Value) (v : Value) (part : List UInt8) : Prop where
  ne_nil : part ≠ []
  loads : ujson.loads part = .ok v

/-- A value is written as a separator and a part that is decoded to it. -/
theorem jsonseqEncodeOne_eq {v : Value} (hfaithful : Faithful ujson v) :
    ∃ part, jsonseqEncodeOne ujson v = .ok (recordSeparator :: part) ∧ IsPartOf ujson v part ∧
      recordSeparator ∉ part := by
  obtain ⟨text, htext⟩ := hfaithful.dumps_ok
  refine ⟨encode text ++ [newline], ?_, ⟨?_, ?_⟩, ?_⟩
  · unfold jsonseqEncodeOne
    rw [htext]
    rfl
  · simp
  · exact hfaithful.loads_newline _ (hfaithful.loads_dumps text htext)
  · rw [List.mem_append, not_or]
    exact ⟨not_mem_encode (by decide) (hfaithful.not_mem_dumps text htext), by decide⟩

/-- The values are written, and the stream falls into one part for each of them, in order. -/
theorem jsonseqEncode_eq {values : List Value} (hfaithful : ∀ v ∈ values, Faithful ujson v) :
    ∃ parts, List.Forall₂ (IsPartOf ujson) values parts ∧
      (∀ part ∈ parts, recordSeparator ∉ part) ∧
      jsonseqEncode ujson values = .ok (parts.map (recordSeparator :: ·)).flatten := by
  induction values with
  | nil => exact ⟨[], List.Forall₂.nil, List.forall_mem_nil _, rfl⟩
  | cons v values ih =>
    obtain ⟨hv, hothers⟩ := List.forall_mem_cons.mp hfaithful
    obtain ⟨part, hone, hpart, hnot⟩ := jsonseqEncodeOne_eq hv
    obtain ⟨parts, hparts, hnone, hrest⟩ := ih hothers
    refine ⟨part :: parts, hparts.cons hpart, List.forall_mem_cons.mpr ⟨hnot, hnone⟩, ?_⟩
    obtain ⟨records, hrecords, hflatten⟩ := bind_eq_ok_iff.mp hrest
    unfold jsonseqEncode
    rw [List.mapM_cons, hone, hrecords, List.map_cons, List.flatten_cons,
      ← pure_eq_ok_iff.mp hflatten]
    rfl

/-- Each part is decoded to its value. -/
theorem yieldSequences_eq {values : List Value} {parts : List (List UInt8)}
    (hparts : List.Forall₂ (IsPartOf ujson) values parts) :
    yieldSequences ujson parts = ⟨values, none⟩ := by
  induction hparts with
  | nil => rfl
  | cons hpart _ ih =>
    rw [yieldSequences, if_neg hpart.ne_nil, yieldLoaded, hpart.loads, ih]
    rfl

/-- A list of values is written as a stream from which the values are read in order, however the
stream is cut into chunks. -/
theorem jsonseqDecode_jsonseqEncode (ujson : Ujson Value) (values : List Value)
    (hfaithful : ∀ v ∈ values, Faithful ujson v) :
    ∃ stream, jsonseqEncode ujson values = .ok stream ∧
      ∀ chunks, (∀ chunk ∈ chunks, chunk ≠ []) → chunks.flatten = stream →
        jsonseqDecode ujson chunks = ⟨values, none⟩ := by
  obtain ⟨parts, hparts, hnot, hstream⟩ := jsonseqEncode_eq hfaithful
  refine ⟨_, hstream, fun chunks hchunks hflatten ↦ ?_⟩
  rw [jsonseqDecode, jsonseqDecodeFrom_eq hchunks, List.nil_append, hflatten,
    splitOn_separated hnot, yieldSequences, if_pos rfl, yieldSequences_eq hparts]

end Decoding

/-- `ujson` on the values true and false. -/
def ujsonBool : Ujson Bool where
  dumps v := .ok (if v then "true" else "false")
  loads bytes :=
    let text := (bytes.reverse.dropWhile (· = newline)).reverse
    if text = encode "true" then .ok true
    else if text = encode "false" then .ok false
    else .error (.valueError "Unexpected character found when decoding")

theorem faithful_ujsonBool (v : Bool) : Faithful ujsonBool v where
  dumps_ok := ⟨_, rfl⟩
  not_mem_dumps text htext := by
    cases Except.ok.inj htext
    cases v <;> decide
  loads_dumps text htext := by
    cases Except.ok.inj htext
    cases v <;> decide
  loads_newline bytes hbytes := by
    simpa [ujsonBool] using hbytes

theorem jsonseqDecode_jsonseqEncode_bool :
    ∃ stream, jsonseqEncode ujsonBool [true, false] = .ok stream ∧
      ∀ chunks, (∀ chunk ∈ chunks, chunk ≠ []) → chunks.flatten = stream →
        jsonseqDecode ujsonBool chunks = ⟨[true, false], none⟩ :=
  jsonseqDecode_jsonseqEncode ujsonBool [true, false] (fun v _ ↦ faithful_ujsonBool v)

end Irrd.Mirroring
