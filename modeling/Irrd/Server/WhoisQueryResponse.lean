import Irrd.Utils.WhoisClient

/-!
# Whois responses

What is sent back for a whois query, in the IRRd and in the RIPE format, and what the client
reads of a response in the IRRd format. Source: `irrd/server/whois/query_response.py`.
-/

namespace Irrd.Server

open Irrd.Utils

/-- `WhoisQueryResponseType`, `irrd/server/whois/query_response.py:6–17`. -/
inductive WhoisQueryResponseType where
  | success
  | errorInternal
  | errorUser
  | keyNotFound
  | noResponse
  deriving DecidableEq, Repr

/-- `WhoisQueryResponseMode`, `irrd/server/whois/query_response.py:23–27`. -/
inductive WhoisQueryResponseMode where
  | irrd
  | ripe
  deriving DecidableEq, Repr

/-- A member of the enumeration as text. -/
def WhoisQueryResponseType.text : WhoisQueryResponseType → String
  | success => "WhoisQueryResponseType.SUCCESS"
  | errorInternal => "WhoisQueryResponseType.ERROR_INTERNAL"
  | errorUser => "WhoisQueryResponseType.ERROR_USER"
  | keyNotFound => "WhoisQueryResponseType.KEY_NOT_FOUND"
  | noResponse => "WhoisQueryResponseType.NO_RESPONSE"

/-- A member of the enumeration as text. -/
def WhoisQueryResponseMode.text : WhoisQueryResponseMode → String
  | irrd => "WhoisQueryResponseMode.IRRD"
  | ripe => "WhoisQueryResponseMode.RIPE"

/-- `ERROR_TYPES`, `irrd/server/whois/query_response.py:20`. -/
def errorTypes : List WhoisQueryResponseType := [.errorInternal, .errorUser]

/-- `WhoisQueryResponse`, `irrd/server/whois/query_response.py:30–52`. -/
structure WhoisQueryResponse where
  responseType : WhoisQueryResponseType
  mode : WhoisQueryResponseMode
  result : Option String
  removeAuthHashes : Bool
  deriving DecidableEq

namespace WhoisQueryResponse

/-- `clean_response`, `irrd/server/whois/query_response.py:71–73`. -/
def cleanResponse (r : WhoisQueryResponse) : WhoisQueryResponse :=
  if r.removeAuthHashes then { r with result := r.result.map Utils.removeAuthHashes } else r

/-- The result in a formatted string. -/
def resultText (r : WhoisQueryResponse) : String := r.result.getD "None"

/-- `_generate_response_irrd`, `irrd/server/whois/query_response.py:75–89`. -/
def generateResponseIrrd (r : WhoisQueryResponse) : Option (List UInt8) :=
  if r.responseType = .success then
    let result := r.result.getD ""
    if result ≠ "" then
      let resultBytes := encode result
      let resultLen := resultBytes.length + 1
      some (encode ("A" ++ toString resultLen ++ "\n") ++ resultBytes ++ encode "\nC\n")
    else some (encode "C\n")
  else if r.responseType = .keyNotFound then some (encode "D\n")
  else if r.responseType ∈ errorTypes then some (encode ("F " ++ r.resultText ++ "\n"))
  else if r.responseType = .noResponse then some []
  else none

/-- `_generate_response_ripe`, `irrd/server/whois/query_response.py:91–103`. -/
def generateResponseRipe (r : WhoisQueryResponse) : Option (List UInt8) :=
  let noEntries := encode "%  No entries found for the selected source(s).\n\n\n"
  if r.responseType = .success then
    let result := r.result.getD ""
    if result ≠ "" then some (encode (result ++ "\n\n\n")) else some noEntries
  else if r.responseType = .keyNotFound then some noEntries
  else if r.responseType ∈ errorTypes then some (encode ("%% ERROR: " ++ r.resultText ++ "\n\n\n"))
  else none

/-- `generate_response`, `irrd/server/whois/query_response.py:54–69`, or the text of the
`RuntimeError`. -/
def generateResponse (r : WhoisQueryResponse) : Except String (List UInt8) :=
  let r := r.cleanResponse
  let response :=
    match r.mode with
    | .irrd => r.generateResponseIrrd
    | .ripe => r.generateResponseRipe
  match response with
  | some bytes => .ok bytes
  | none =>
    .error ("Unable to formulate response for " ++ r.responseType.text ++ " / " ++ r.mode.text ++
      ": " ++ r.resultText)

section Irrd

variable {r : WhoisQueryResponse} {bytes : List UInt8}

@[simp] theorem responseType_cleanResponse : r.cleanResponse.responseType = r.responseType := by
  unfold cleanResponse
  split <;> rfl

@[simp] theorem mode_cleanResponse : r.cleanResponse.mode = r.mode := by
  unfold cleanResponse
  split <;> rfl

/-- Responses in the IRRd format are never refused. -/
theorem generateResponse_irrd (hmode : r.mode = .irrd)
    (hresponse : r.generateResponse = .ok bytes) :
    r.cleanResponse.generateResponseIrrd = some bytes := by
  unfold generateResponse at hresponse
  simp only [mode_cleanResponse, hmode] at hresponse
  split at hresponse
  · next bytes' h =>
    cases hresponse
    exact h
  · cases hresponse

/-- Removing hashes leaves nothing of nothing. -/
theorem result_cleanResponse_eq_empty (hresult : r.result.getD "" = "") :
    r.cleanResponse.result.getD "" = "" := by
  unfold cleanResponse
  split
  · cases h : r.result with
    | none => rfl
    | some result =>
      rw [h] at hresult
      cases hresult
      rfl
  · exact hresult

theorem result_cleanResponse_of_clean {s : String} (hresult : r.result = some s)
    (hclean : r.removeAuthHashes = true → Utils.removeAuthHashes s = s) :
    r.cleanResponse.result = some s := by
  unfold cleanResponse
  split
  · next hremove =>
    show r.result.map Utils.removeAuthHashes = some s
    rw [hresult, Option.map_some, hclean hremove]
  · exact hresult

/-- A response of two bytes that says that there is nothing. -/
theorem whoisQueryIrrd_of_nothing (query : String) {c : Char} (hc : c = 'C' ∨ c = 'D')
    {chunks : List (List UInt8)} (hchunks : ∀ chunk ∈ chunks, chunk ≠ [])
    (htotal : chunks.flatten = encode (String.ofList [c, '\n'])) (later : List Recv) :
    whoisQueryIrrd query (chunks.map .data ++ later) = some (.ok none) := by
  have hbytes : encode (String.ofList [c, '\n']) = encode (String.ofList [c]) ++ 0x0a :: [] := by
    rcases hc with rfl | rfl <;> decide
  rw [hbytes] at htotal
  have hbreak : ∀ d ∈ (String.ofList [c]).toList, d ∉ lineBreaks := by
    rw [String.toList_ofList]
    simp only [List.mem_singleton, forall_eq]
    rcases hc with rfl | rfl <;> decide
  have hstop (read : List UInt8) (hread : read <+: []) :
      ∃ r, Reading.readLengthLine ⟨encode (String.ofList [c]) ++ 0x0a :: read, none, none, none⟩ =
        .ok (r, true) ∧ r.finish (String.ofList (strip query.toList) ++ "\n") = .ok none := by
    cases List.prefix_nil.mp hread
    rw [readLengthLine_line, head?_splitlines_append_newline hbreak]
    rcases hc with rfl | rfl <;> exact ⟨_, rfl, rfl⟩
  have hline : '\n' ∉ (String.ofList [c]).toList := fun h ↦ hbreak _ h (by decide)
  obtain ⟨outcome, hrun, houtcome⟩ :=
    readLoop_of_stopping_line _ (· = .ok none) hline hstop hchunks htotal later
  exact houtcome ▸ hrun

/-- A response with an error is read as one. -/
theorem whoisQueryIrrd_of_error (query text : String) {chunks : List (List UInt8)}
    (hchunks : ∀ chunk ∈ chunks, chunk ≠ [])
    (htotal : chunks.flatten = encode ("F " ++ text ++ "\n"))
    (later : List Recv) :
    ∃ e, whoisQueryIrrd query (chunks.map .data ++ later) = some (.error e) := by
  -- The first line is that of the text, which may have several ones.
  obtain ⟨first, rest, hparts, hfirst⟩ : ∃ first rest,
      text.toList ++ ['\n'] = first ++ '\n' :: rest ∧ '\n' ∉ first :=
    List.eq_append_cons_of_mem (List.mem_append_right _ List.mem_cons_self)
  have hbytes : encode ("F " ++ text ++ "\n") =
      encode (String.ofList ('F' :: ' ' :: first)) ++ 0x0a :: encode (String.ofList rest) := by
    have hchars : ("F " ++ text ++ "\n").toList = 'F' :: ' ' :: first ++ '\n' :: rest := by
      simp [hparts]
    have hnewline : String.utf8EncodeChar '\n' = [0x0a] := by decide
    simp only [encode, hchars, List.flatMap_append, List.flatMap_cons, hnewline,
      String.toList_ofList]
    simp
  rw [hbytes] at htotal
  have hhead (read : List UInt8) :
      (encode (String.ofList ('F' :: ' ' :: first)) ++ 0x0a :: read).head? = some 0x46 := by
    have hbyte : String.utf8EncodeChar 'F' = [0x46] := by decide
    simp [encode, hbyte]
  have hstop (query : String) (read : List UInt8) :
      ∃ r, Reading.readLengthLine
          ⟨encode (String.ofList ('F' :: ' ' :: first)) ++ 0x0a :: read, none, none, none⟩ =
        .ok (r, true) ∧ ∃ e, r.finish query = .error e := by
    rw [readLengthLine_line, String.toList_ofList, List.cons_append,
      head?_splitlines_cons (by decide), Option.getD_some]
    refine ⟨_, rfl, ?_⟩
    unfold Reading.finish
    dsimp only
    split
    · exact ⟨_, rfl⟩
    · rw [if_neg]
      · exact ⟨_, rfl⟩
      · rintro ⟨-, h | h⟩ <;> exact absurd (congrArg List.head? h) (by rw [hhead]; decide)
  have hline : '\n' ∉ (String.ofList ('F' :: ' ' :: first)).toList := by
    simpa using hfirst
  obtain ⟨outcome, hrun, e, he⟩ := readLoop_of_stopping_line _
      (fun outcome ↦ ∃ e, outcome = .error e)
    hline (fun read _ ↦ hstop _ read) hchunks htotal later
  exact ⟨e, he ▸ hrun⟩

end Irrd

end WhoisQueryResponse

open WhoisQueryResponse

/-- A client that reads a response in the IRRd format, in any chunks and whatever would come
behind it, gets the result of a successful query, nothing where there is nothing, and an error
where there was one. -/
theorem whoisQueryIrrd_generateResponse (query : String) (r : WhoisQueryResponse)
    (hmode : r.mode = .irrd) (chunks : List (List UInt8)) (hchunks : ∀ chunk ∈ chunks, chunk ≠ [])
    (hresponse : r.generateResponse = .ok chunks.flatten) (later : List Recv) :
    (∀ s, r.responseType = .success → r.result = some s → s ≠ "" →
      (r.removeAuthHashes = true → Utils.removeAuthHashes s = s) →
        whoisQueryIrrd query (chunks.map .data ++ later) = some (.ok (some s))) ∧
    (r.responseType = .keyNotFound ∨
        r.responseType = .success ∧ (r.result = none ∨ r.result = some "") →
      whoisQueryIrrd query (chunks.map .data ++ later) = some (.ok none)) ∧
    (r.responseType = .errorInternal ∨ r.responseType = .errorUser →
      ∃ e, whoisQueryIrrd query (chunks.map .data ++ later) = some (.error e)) := by
  have hgenerated := generateResponse_irrd hmode hresponse
  unfold generateResponseIrrd at hgenerated
  rw [responseType_cleanResponse] at hgenerated
  refine ⟨?_, ?_, ?_⟩
  · intro s htype hresult hs hclean
    rw [if_pos htype, result_cleanResponse_of_clean hresult hclean] at hgenerated
    dsimp only [Option.getD_some] at hgenerated
    rw [if_pos hs] at hgenerated
    refine readLoop_dataResponse _ hchunks ?_ later
    rw [← Option.some.inj hgenerated]
    have hnewline : encode "\n" = [0x0a] := by decide
    simp [dataResponse, textLengthLine, hnewline]
  · rintro (htype | ⟨htype, hresult⟩)
    · rw [if_neg (by rw [htype]; decide), if_pos htype] at hgenerated
      exact whoisQueryIrrd_of_nothing query (.inr rfl) hchunks
        (Option.some.inj hgenerated).symm later
    · have hempty : r.result.getD "" = "" := by rcases hresult with h | h <;> rw [h] <;> rfl
      rw [if_pos htype, result_cleanResponse_eq_empty hempty] at hgenerated
      exact whoisQueryIrrd_of_nothing query (.inl rfl) hchunks
        (Option.some.inj hgenerated).symm later
  · intro htype
    rw [if_neg (by rcases htype with h | h <;> rw [h] <;> decide),
      if_neg (by rcases htype with h | h <;> rw [h] <;> decide),
      if_pos (by rcases htype with h | h <;> rw [h] <;> decide)] at hgenerated
    exact whoisQueryIrrd_of_error query _ hchunks (Option.some.inj hgenerated).symm later

/-- The result has a character of two bytes, which come in different chunks, and a line that looks
like the end of the response. -/
theorem whoisQueryIrrd_generateResponse_split :
    whoisQueryIrrd "!gAS65537 "
      ([[0x41], [0x35, 0x0a, 0xc3], [0xa9, 0x0a, 0x43, 0x0a], [0x43, 0x0a]].map .data ++ []) =
        some (.ok (some "é\nC")) :=
  (whoisQueryIrrd_generateResponse "!gAS65537 " ⟨.success, .irrd, some "é\nC", true⟩ rfl
    [[0x41], [0x35, 0x0a, 0xc3], [0xa9, 0x0a, 0x43, 0x0a], [0x43, 0x0a]] (by decide)
    (by decide +kernel) []).1 "é\nC" rfl rfl (by decide) (fun _ ↦ by decide +kernel)

end Irrd.Server
