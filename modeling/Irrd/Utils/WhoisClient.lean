import Irrd.Base.Fallible
import Irrd.Utils.Encoding
import Irrd.Utils.Splitlines
import Irrd.Utils.Validators

/-!
# Whois client

The client that reads a response in the IRRd format, whose first line says how much data follows.
Source: `irrd/utils/whois_client.py`. The socket is the list of what its reads give.
-/

namespace Irrd.Utils

open Irrd.Base

/-- What a read of the socket gives: data, of which there is none at the end, or an exception. -/
inductive Recv where
  | data (bytes : List UInt8)
  | timeoutError
  | connectionError
  deriving DecidableEq, Repr

/-- Exceptions of `whois_query_irrd`. A `WhoisQueryError` is a `ValueError` as well. -/
inductive WhoisClientError where
  | whoisQueryError (error : String)
  | valueError (message : String)
  | invalidLiteral (number : String)
  deriving DecidableEq, Repr

/-- What the client has read. -/
structure Reading where
  buffer : List UInt8
  expectedDataLength : Option Int
  dataOffset : Option Nat
  error : Option String
  deriving DecidableEq

/-- Nothing has been read. -/
def Reading.start : Reading := ⟨[], none, none, none⟩

/-- A number that is neither missing nor zero. -/
def truthy (n : Option Int) : Bool := n.getD 0 ≠ 0

/-- A slice of a list, where an end below zero counts from the end. -/
def slice {α : Type} (start : Nat) (stop : Int) (values : List α) : List α :=
  (values.take (if stop < 0 then values.length + stop else stop).toNat).drop start

namespace Reading

/-- What the first line says, `irrd/utils/whois_client.py:87–95`, and whether it ends the
reading. -/
def readLine (r : Reading) (lengthLine : List Char) : Except WhoisClientError (Reading × Bool) :=
  if lengthLine.head? = some 'A' then
    match parseInt (lengthLine.drop 1) with
    | some n =>
      .ok ({ r with expectedDataLength := some n, dataOffset := some (lengthLine.length + 1) },
        false)
    | none => .error (.invalidLiteral (String.ofList (lengthLine.drop 1)))
  else if lengthLine = ['C'] ∨ lengthLine = ['D'] then .ok (r, true)
  else if lengthLine.head? = some 'F' then
    .ok ({ r with error := some (String.ofList (lengthLine.drop 2)) }, true)
  else .ok (r, false)

/-- What is read while the length is not known, `irrd/utils/whois_client.py:84–95`. -/
def readLengthLine (r : Reading) : Except WhoisClientError (Reading × Bool) :=
  let decodedBuffer := decodeBackslashreplace r.buffer
  if '\n' ∈ decodedBuffer then r.readLine ((splitlines decodedBuffer).head?.getD [])
  else .ok (r, false)

/-- The data and some of what follows it has been read, `irrd/utils/whois_client.py:96`. -/
def isComplete (r : Reading) : Bool :=
  match r.expectedDataLength, r.dataOffset with
  | some n, some offset => n ≠ 0 ∧ offset ≠ 0 ∧ n + offset < r.buffer.length
  | _, _ => false

/-- The loop body for data that is not empty, `irrd/utils/whois_client.py:83–97`. -/
def receive (r : Reading) (data : List UInt8) : Except WhoisClientError (Reading × Bool) := do
  let r := { r with buffer := r.buffer ++ data }
  let (r, stopped) ← if truthy r.expectedDataLength then pure (r, false) else r.readLengthLine
  return (r, stopped || r.isComplete)

/-- The error where the reading ends without the length of the data. -/
def invalidResponse (query : String) (r : Reading) : WhoisClientError :=
  .valueError ("Data receiving ended without a valid IRRD-format response, query " ++ query ++
    ",received: " ++ decodeAsciiIgnore r.buffer)

/-- What follows the loop, `irrd/utils/whois_client.py:100–114`. -/
def finish (query : String) (r : Reading) : Except WhoisClientError (Option String) :=
  let error := r.error.getD ""
  if error ≠ "" then .error (.whoisQueryError error)
  else if truthy r.expectedDataLength = false ∧
      (r.buffer = encode "C\n" ∨ r.buffer = encode "D\n") then .ok none
  else
    match r.expectedDataLength, r.dataOffset with
    | some n, some offset =>
      if n = 0 ∨ offset = 0 then .error (r.invalidResponse query)
      else if (r.buffer.length : Int) < n + offset then
        .error (.valueError ("Unable to receive all expected " ++ toString n ++ " bytes"))
      else
        .ok (some (String.ofList
          (decodeBackslashreplace (slice offset (n + offset - 1) r.buffer))))
    | _, _ => .error (r.invalidResponse query)

/-- The loop, `irrd/utils/whois_client.py:75–97`: nothing where it would wait for another read. -/
def readLoop (query : String) : Reading → List Recv →
    Option (Except WhoisClientError (Option String))
  | _, [] => none
  | r, .timeoutError :: _ => some (r.finish query)
  | r, .connectionError :: _ => some (r.finish query)
  | r, .data bytes :: reads =>
    if bytes = [] then some (r.finish query)
    else
      match r.receive bytes with
      | .error e => some (.error e)
      | .ok (r, true) => some (r.finish query)
      | .ok (r, false) => readLoop query r reads

end Reading

/-- `whois_query_irrd`, `irrd/utils/whois_client.py:52–114`, after the query has been sent. -/
def whoisQueryIrrd (query : String) (reads : List Recv) :
    Option (Except WhoisClientError (Option String)) :=
  Reading.start.readLoop (String.ofList (strip query.toList) ++ "\n") reads

namespace Reading

theorem buffer_readLine {r r' : Reading} {lengthLine : List Char} {stopped : Bool}
    (h : r.readLine lengthLine = .ok (r', stopped)) : r'.buffer = r.buffer := by
  unfold readLine at h
  split at h
  · split at h
    · cases h
      rfl
    · cases h
  · split at h
    · cases h
      rfl
    · split at h <;> cases h <;> rfl

theorem buffer_readLengthLine {r r' : Reading} {stopped : Bool}
    (h : r.readLengthLine = .ok (r', stopped)) : r'.buffer = r.buffer := by
  unfold readLengthLine at h
  dsimp only at h
  split at h
  · exact buffer_readLine h
  · cases h
    rfl

/-- All data is kept. -/
theorem buffer_receive {r r' : Reading} {data : List UInt8} {stopped : Bool}
    (h : r.receive data = .ok (r', stopped)) : r'.buffer = r.buffer ++ data := by
  unfold receive at h
  dsimp only at h
  split at h
  · cases h
    rfl
  · obtain ⟨⟨r'', stopped'⟩, hline, hreturn⟩ := bind_eq_ok_iff.mp h
    cases hreturn
    exact buffer_readLengthLine hline

end Reading

section Chunks

variable {query : String} {total : List UInt8} {Waiting : Reading → Prop}
  {Outcome : Except WhoisClientError (Option String) → Prop}

/-- A read either ends the reading with such an outcome or leaves it waiting for more of the
data. -/
def Proceeds (query : String) (total : List UInt8) (Waiting : Reading → Prop)
    (Outcome : Except WhoisClientError (Option String) → Prop) :
    Except WhoisClientError (Reading × Bool) → Prop
  | .error e => Outcome (.error e)
  | .ok (r, true) => Outcome (r.finish query)
  | .ok (r, false) => Waiting r ∧ r.buffer ≠ total

/-- Data that comes in any chunks is read before anything else is waited for. -/
theorem readLoop_chunks
    (hread : ∀ (r : Reading) (data : List UInt8), Waiting r → r.buffer ++ data <+: total →
      Proceeds query total Waiting Outcome (r.receive data))
    {chunks : List (List UInt8)} (hchunks : ∀ chunk ∈ chunks, chunk ≠ []) {r : Reading}
    (hwaiting : Waiting r) (hmore : r.buffer ≠ total) (htotal : r.buffer ++ chunks.flatten = total)
    (later : List Recv) :
    ∃ outcome, r.readLoop query (chunks.map .data ++ later) = some outcome ∧ Outcome outcome := by
  induction chunks generalizing r with
  | nil =>
    rw [List.flatten_nil, List.append_nil] at htotal
    exact absurd htotal hmore
  | cons data chunks ih =>
    obtain ⟨hdata, hothers⟩ := List.forall_mem_cons.mp hchunks
    rw [List.flatten_cons, ← List.append_assoc] at htotal
    have hproceeds := hread r data hwaiting ⟨_, htotal⟩
    rw [List.map_cons, List.cons_append, Reading.readLoop, if_neg hdata]
    cases hreceived : r.receive data with
    | error e =>
      rw [hreceived] at hproceeds
      exact ⟨_, rfl, hproceeds⟩
    | ok received =>
      obtain ⟨r', stopped⟩ := received
      rw [hreceived] at hproceeds
      cases stopped with
      | true => exact ⟨_, rfl, hproceeds⟩
      | false =>
        refine ih hothers hproceeds.1 hproceeds.2 ?_
        rw [Reading.buffer_receive hreceived, htotal]

end Chunks

section FirstLine

variable {line : String} {bytes rest : List UInt8}

theorem decode_line (line : String) (rest : List UInt8) :
    decodeBackslashreplace (encode line ++ 0x0a :: rest) =
      line.toList ++ '\n' :: decodeBackslashreplace rest := by
  have hnewline : String.utf8EncodeChar '\n' = [0x0a] := by decide
  rw [decodeBackslashreplace_encode, ← List.singleton_append, ← hnewline,
    decodeBackslashreplace_utf8EncodeChar]

/-- What has come of a response has no newline, or all of the first line. -/
theorem newline_cases (hline : '\n' ∉ line.toList)
    (hinitial : bytes <+: encode line ++ 0x0a :: rest) :
    0x0a ∉ bytes ∨ ∃ read, bytes = encode line ++ 0x0a :: read ∧ read <+: rest := by
  have hencoded : 0x0a ∉ encode line := not_mem_encode (c := '\n') (by decide) hline
  rcases List.prefix_or_prefix_of_prefix hinitial (List.prefix_append _ _) with h | ⟨read, rfl⟩
  · exact .inl (fun hmem ↦ hencoded (h.subset hmem))
  · have hread := (List.prefix_append_right_inj _).mp hinitial
    cases read with
    | nil => exact .inl (by simpa using hencoded)
    | cons b read =>
      obtain ⟨rfl, hrest⟩ := List.cons_prefix_cons.mp hread
      exact .inr ⟨read, rfl, hrest⟩

/-- Nothing is known of the response before its first newline. -/
theorem receive_of_not_mem {data : List UInt8} (hnewline : 0x0a ∉ bytes ++ data) :
    Reading.receive ⟨bytes, none, none, none⟩ data =
      .ok (⟨bytes ++ data, none, none, none⟩, false) := by
  have hdecoded : '\n' ∉ decodeBackslashreplace (bytes ++ data) :=
    fun h ↦ hnewline (mem_of_newline_mem_decode h)
  simp [Reading.receive, Reading.readLengthLine, Reading.isComplete, truthy, hdecoded, pure,
    Except.pure, bind, Except.bind]

/-- The first line of the response decides about it as soon as it has come. -/
theorem receive_of_line {data read : List UInt8}
    (hread : bytes ++ data = encode line ++ 0x0a :: read) :
    Reading.receive ⟨bytes, none, none, none⟩ data =
      (Reading.readLengthLine ⟨encode line ++ 0x0a :: read, none, none, none⟩).map
        (fun (r, stopped) ↦ (r, stopped || r.isComplete)) := by
  unfold Reading.receive
  simp only [hread, truthy]
  cases Reading.readLengthLine ⟨encode line ++ 0x0a :: read, none, none, none⟩ <;> rfl

/-- The first line counts, whatever has come behind it. -/
theorem readLengthLine_line (read : List UInt8) :
    Reading.readLengthLine ⟨encode line ++ 0x0a :: read, none, none, none⟩ =
      Reading.readLine ⟨encode line ++ 0x0a :: read, none, none, none⟩
        ((splitlines (line.toList ++ '\n' :: decodeBackslashreplace read)).head?.getD []) := by
  have hnewline : '\n' ∈ line.toList ++ '\n' :: decodeBackslashreplace read :=
    List.mem_append_right _ List.mem_cons_self
  unfold Reading.readLengthLine
  simp only [decode_line, if_pos hnewline]

/-- A response whose first line ends the reading is read up to its first line. -/
theorem readLoop_of_stopping_line (query : String)
    (Outcome : Except WhoisClientError (Option String) → Prop) (hline : '\n' ∉ line.toList)
    (hstop : ∀ read, read <+: rest → ∃ r,
      Reading.readLengthLine ⟨encode line ++ 0x0a :: read, none, none, none⟩ = .ok (r, true) ∧
        Outcome (r.finish query))
    {chunks : List (List UInt8)} (hchunks : ∀ chunk ∈ chunks, chunk ≠ [])
    (htotal : chunks.flatten = encode line ++ 0x0a :: rest) (later : List Recv) :
    ∃ outcome, Reading.start.readLoop query (chunks.map .data ++ later) = some outcome ∧
      Outcome outcome := by
  have hread (r : Reading) (data : List UInt8) (hr : ∃ bytes, r = ⟨bytes, none, none, none⟩)
      (hinitial : r.buffer ++ data <+: encode line ++ 0x0a :: rest) :
      Proceeds query (encode line ++ 0x0a :: rest) (fun r ↦ ∃ bytes, r = ⟨bytes, none, none, none⟩)
        Outcome (r.receive data) := by
    obtain ⟨bytes, rfl⟩ := hr
    rcases newline_cases hline hinitial with hnewline | ⟨read, hbytes, hread⟩
    · rw [receive_of_not_mem hnewline]
      refine ⟨⟨_, rfl⟩, ?_⟩
      rintro (hall : bytes ++ data = encode line ++ 0x0a :: rest)
      exact hnewline (hall.symm ▸ List.mem_append_right _ List.mem_cons_self)
    · obtain ⟨r, hr, houtcome⟩ := hstop read hread
      rw [receive_of_line hbytes, hr]
      exact houtcome
  exact readLoop_chunks hread hchunks ⟨[], rfl⟩ (by simp) htotal later

end FirstLine

section LengthLine

/-- The characters of the line that gives the length are no line breaks. -/
theorem not_mem_lengthLine (n : Nat) : ∀ c ∈ ("A" ++ toString n).toList, c ∉ lineBreaks := by
  intro c hc hbreak
  rw [String.toList_append] at hc
  have hno : ∀ c ∈ lineBreaks, c ≠ 'A' ∧ ¬ c.isDigit = true := by simp [lineBreaks]
  rcases List.mem_append.mp hc with h | h
  · exact (hno c hbreak).1 (by simpa using h)
  · exact (hno c hbreak).2 (isDigit_of_mem_toString h)

theorem length_lengthLine (n : Nat) :
    (encode ("A" ++ toString n)).length = ("A" ++ toString n).toList.length := by
  refine length_encode ?_
  unfold isAscii
  rw [List.all_eq_true, String.toList_append]
  intro c hc
  rcases List.mem_append.mp hc with h | h
  · exact (List.mem_singleton.mp h) ▸ rfl
  · have hdigit := isDigit_of_mem_toString h
    simp only [Char.isDigit, Bool.and_eq_true, decide_eq_true_eq] at hdigit ⊢
    exact UInt32.le_trans hdigit.2 (by decide)

/-- What is known once the line that gives the length has come. -/
theorem readLengthLine_of_length (n : Nat) (read : List UInt8) :
    Reading.readLengthLine ⟨encode ("A" ++ toString n) ++ 0x0a :: read, none, none, none⟩ =
      .ok (⟨encode ("A" ++ toString n) ++ 0x0a :: read, some n,
        some ((encode ("A" ++ toString n)).length + 1), none⟩, false) := by
  have hchars : ("A" ++ toString n).toList = 'A' :: (toString n).toList := by simp
  rw [readLengthLine_line, head?_splitlines_append_newline (not_mem_lengthLine n),
    length_lengthLine, Option.getD_some, hchars]
  unfold Reading.readLine
  rw [if_pos List.head?_cons, List.drop_succ_cons, List.drop_zero, parseInt_toString]

end LengthLine

section Data

variable (query text : String)

/-- The line that gives the length of a text. -/
def textLengthLine : String := "A" ++ toString ((encode text).length + 1)

/-- A response with data. -/
def dataResponse : List UInt8 :=
  encode (textLengthLine text) ++ 0x0a :: (encode text ++ encode "\nC\n")

/-- What is known of the response after its first line. -/
def lengthKnown (buffer : List UInt8) : Reading :=
  ⟨buffer, some (((encode text).length + 1 : Nat) : Int),
    some ((encode (textLengthLine text)).length + 1), none⟩

variable {text} {buffer : List UInt8}

theorem length_dataResponse : (dataResponse text).length =
    (encode (textLengthLine text)).length + 1 + (encode text).length + 3 := by
  have hend : (encode "\nC\n").length = 3 := by decide
  unfold dataResponse
  rw [List.length_append, List.length_cons, List.length_append, hend]
  omega

theorem readLengthLine_textLengthLine (read : List UInt8) :
    Reading.readLengthLine ⟨encode (textLengthLine text) ++ 0x0a :: read, none, none, none⟩ =
      .ok (lengthKnown text (encode (textLengthLine text) ++ 0x0a :: read), false) :=
  readLengthLine_of_length ((encode text).length + 1) read

theorem isComplete_lengthKnown : (lengthKnown text buffer).isComplete = true ↔
    (encode (textLengthLine text)).length + 1 + ((encode text).length + 1) < buffer.length := by
  have hiff : (lengthKnown text buffer).isComplete = true ↔
      (((encode text).length + 1 : Nat) : Int) ≠ 0 ∧
        (encode (textLengthLine text)).length + 1 ≠ 0 ∧
        (((encode text).length + 1 : Nat) : Int) +
          (((encode (textLengthLine text)).length + 1 : Nat) : Int) < buffer.length :=
    decide_eq_true_iff
  rw [hiff]
  omega

/-- The data of a response is what stands behind its first line. -/
theorem slice_dataResponse (hbuffer : buffer <+: dataResponse text)
    (hcomplete : (lengthKnown text buffer).isComplete = true) :
    slice ((encode (textLengthLine text)).length + 1)
      ((((encode text).length + 1 : Nat) : Int) +
        (((encode (textLengthLine text)).length + 1 : Nat) : Int) - 1) buffer = encode text := by
  have hlength := isComplete_lengthKnown.mp hcomplete
  obtain ⟨unread, hunread⟩ := hbuffer
  unfold dataResponse at hunread
  generalize encode (textLengthLine text) = header at hlength hunread ⊢
  have hstop : (((encode text).length + 1 : Nat) : Int) + ((header.length + 1 : Nat) : Int) - 1 =
      (((header ++ [0x0a]).length + (encode text).length : Nat) : Int) := by
    rw [List.length_append, List.length_singleton]
    omega
  have hparts : header ++ 0x0a :: (encode text ++ encode "\nC\n") =
      (header ++ [0x0a]) ++ (encode text ++ encode "\nC\n") := by simp
  have hstart : header.length + 1 = (header ++ [0x0a]).length := by simp
  have hread : buffer.take ((header ++ [0x0a]).length + (encode text).length) =
      (buffer ++ unread).take ((header ++ [0x0a]).length + (encode text).length) := by
    rw [List.take_append_of_le_length (by rw [← hstart]; omega)]
  unfold slice
  rw [hstop, if_neg (by omega), Int.toNat_natCast, hstart, hread, hunread, hparts,
    List.drop_take, List.drop_left, Nat.add_sub_cancel_left, List.take_left]

theorem finish_lengthKnown (hbuffer : buffer <+: dataResponse text)
    (hcomplete : (lengthKnown text buffer).isComplete = true) :
    (lengthKnown text buffer).finish query = .ok (some text) := by
  have hdata := slice_dataResponse hbuffer hcomplete
  have hlength := isComplete_lengthKnown.mp hcomplete
  have hdecoded : decodeBackslashreplace (encode text) = text.toList := by
    simpa [decodeBackslashreplace] using decodeBackslashreplace_encode text []
  unfold lengthKnown Reading.finish
  dsimp only
  rw [if_neg (by simp), if_neg (by simp [truthy]; omega), if_neg (by omega), if_neg (by omega),
    hdata, hdecoded, String.ofList_toList]

/-- A response with data is read up to the end of the data. -/
theorem readLoop_dataResponse {chunks : List (List UInt8)} (hchunks : ∀ chunk ∈ chunks, chunk ≠ [])
    (htotal : chunks.flatten = dataResponse text) (later : List Recv) :
    Reading.start.readLoop query (chunks.map .data ++ later) = some (.ok (some text)) := by
  have hknown (buffer : List UInt8) (hbuffer : buffer <+: dataResponse text) :
      Proceeds query (dataResponse text)
        (fun r ↦ (∃ bytes, r = ⟨bytes, none, none, none⟩) ∨ ∃ bytes, r = lengthKnown text bytes)
        (· = .ok (some text))
        (.ok (lengthKnown text buffer, (lengthKnown text buffer).isComplete)) := by
    cases hcomplete : (lengthKnown text buffer).isComplete with
    | true => exact finish_lengthKnown query hbuffer hcomplete
    | false =>
      refine ⟨.inr ⟨_, rfl⟩, ?_⟩
      rintro (hall : buffer = dataResponse text)
      have hnot := mt isComplete_lengthKnown.mpr (Bool.eq_false_iff.mp hcomplete)
      rw [hall, length_dataResponse] at hnot
      omega
  have hnewline : '\n' ∉ (textLengthLine text).toList := by
    unfold textLengthLine
    exact fun h ↦ not_mem_lengthLine ((encode text).length + 1) '\n' h (by decide)
  have hread (r : Reading) (data : List UInt8)
      (hr : (∃ bytes, r = ⟨bytes, none, none, none⟩) ∨ ∃ bytes, r = lengthKnown text bytes)
      (hinitial : r.buffer ++ data <+: dataResponse text) :
      Proceeds query (dataResponse text)
        (fun r ↦ (∃ bytes, r = ⟨bytes, none, none, none⟩) ∨ ∃ bytes, r = lengthKnown text bytes)
        (· = .ok (some text)) (r.receive data) := by
    rcases hr with ⟨bytes, rfl⟩ | ⟨bytes, rfl⟩
    · rcases newline_cases hnewline hinitial with hmore | ⟨read, hbytes, hread⟩
      · rw [receive_of_not_mem hmore]
        refine ⟨.inl ⟨_, rfl⟩, ?_⟩
        rintro (hall : bytes ++ data = dataResponse text)
        exact hmore (hall.symm ▸ List.mem_append_right _ List.mem_cons_self)
      · have hbuffer : encode (textLengthLine text) ++ 0x0a :: read <+: dataResponse text :=
          (List.prefix_append_right_inj _).mpr (List.cons_prefix_cons.mpr ⟨rfl, hread⟩)
        rw [receive_of_line hbytes, readLengthLine_textLengthLine]
        simp only [Except.map, Bool.false_or]
        exact hknown _ hbuffer
    · have htruthy : truthy (lengthKnown text bytes).expectedDataLength = true :=
        decide_eq_true (Int.natCast_ne_zero.mpr (Nat.succ_ne_zero _))
      have hreceive : (lengthKnown text bytes).receive data =
          .ok (lengthKnown text (bytes ++ data),
            (lengthKnown text (bytes ++ data)).isComplete) := by
        unfold Reading.receive
        dsimp only
        rw [if_pos htruthy]
        rfl
      rw [hreceive]
      exact hknown _ hinitial
  obtain ⟨outcome, hrun, rfl⟩ := readLoop_chunks hread hchunks (.inl ⟨[], rfl⟩)
    (by simp [dataResponse]) htotal later
  exact hrun

end Data

end Irrd.Utils
