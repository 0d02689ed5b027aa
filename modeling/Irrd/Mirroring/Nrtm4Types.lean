import Mathlib.Data.List.Range
import Irrd.Storage.Models

/-!
# NRTMv4 file types

Update Notification Files, snapshot headers and delta headers, as fields before
validation and as validated values. Source: `irrd/mirroring/nrtm4/nrtm4_types.py`.
Reading JSON into typed fields is pydantic's work and stays outside; every check that the
models declare is here.
-/

namespace Irrd.Mirroring

open Irrd.Storage

/-- Exceptions of the Python code, by the classes that handlers tell apart. -/
inductive PyException
  | nrtm4ClientError (msg : String)
  | validationError (msg : String)
  | valueError (msg : String)
  | keyError
  | typeError
  | stopIteration
  | runtimeError (msg : String)
  | other (msg : String)
  deriving DecidableEq

/-- Microseconds in 24 hours. -/
def hours24 : Nat := 24 * 60 * 60 * 1000000

/-- A file reference before validation; a missing or ill-typed value is absent. -/
structure FileReferenceFields where
  version : Option Nat
  url : Option String
  hash : Option String

/-- `NRTM4FileReference`, `irrd/mirroring/nrtm4/nrtm4_types.py:69–91`. -/
structure NRTM4FileReference where
  version : Nat
  url : String
  hash : String
  version_pos : 0 < version
  deriving DecidableEq

/-- Validate the fields of a file reference: a positive version and two strings. -/
def FileReferenceFields.validate (f : FileReferenceFields) :
    Except PyException NRTM4FileReference :=
  match f.version, f.url, f.hash with
  | some version, some url, some hash =>
    if h : 0 < version then .ok ⟨version, url, hash, h⟩
    else .error (.validationError "version: Input should be greater than 0")
  | _, _, _ => .error (.validationError "Field required")

/-- Validate a list of file references in order. -/
def validateReferences : List FileReferenceFields → Except PyException (List NRTM4FileReference)
  | [] => .ok []
  | f :: fs =>
    match f.validate, validateReferences fs with
    | .ok r, .ok rs => .ok (r :: rs)
    | .error e, _ => .error e
    | .ok _, .error e => .error e

/-- References with all fields and positive versions are valid, and keep their versions. -/
theorem validateReferences_map_eq_ok {A : Type} (items : List A) (version : A → Nat)
    (url hash : A → String) (hpos : ∀ a ∈ items, 0 < version a) :
    ∃ refs, validateReferences (items.map (fun a ↦
        ⟨some (version a), some (url a), some (hash a)⟩)) = .ok refs ∧
      refs.map NRTM4FileReference.version = items.map version := by
  induction items with
  | nil => exact ⟨[], rfl, rfl⟩
  | cons a items ih =>
    obtain ⟨ha, hpos⟩ := List.forall_mem_cons.mp hpos
    obtain ⟨refs, hrefs, hversions⟩ := ih hpos
    refine ⟨⟨version a, url a, hash a, ha⟩ :: refs, ?_, ?_⟩
    · simp [validateReferences, FileReferenceFields.validate, hrefs, ha]
    · simp [hversions]

/-- `check_version_consistency`, `irrd/mirroring/nrtm4/nrtm4_types.py:116–133`, on the version
numbers it compares. -/
def checkVersionConsistency (version snapshotVersion : Nat) (deltaVersions : List Nat) :
    Except PyException Unit :=
  let expectedUnfVersion :=
    match deltaVersions.getLast? with
    | some maxDeltaVersion =>
      if maxDeltaVersion ≠ 0 then max snapshotVersion maxDeltaVersion else snapshotVersion
    | none => snapshotVersion
  if version ≠ expectedUnfVersion then
    .error (.valueError (s!"Update Notification File version {version} should have version " ++
      s!"{expectedUnfVersion} based on Snapshot and Delta versions"))
  else
    match deltaVersions.head?, deltaVersions.getLast? with
    | some minDeltaVersion, some maxDeltaVersion =>
      if deltaVersions ≠ List.range' minDeltaVersion (maxDeltaVersion + 1 - minDeltaVersion) then
        .error (.valueError "Deltas in Update Notification File do not have contiguous serials.")
      else .ok ()
    | _, _ => .ok ()

/-- The fields of an Update Notification File before validation. -/
structure NotificationFields where
  nrtmVersion : Option Nat
  source : Option String
  sessionId : Option UUID
  version : Option Nat
  type : Option String
  timestamp : Option Nat
  snapshot : FileReferenceFields
  deltas : List FileReferenceFields
  nextSigningKey : Option String

/-- `NRTM4UpdateNotificationFile`, `irrd/mirroring/nrtm4/nrtm4_types.py:94–154`: a file that
passed every check that does not depend on the reader's clock or expectations. -/
structure NRTM4UpdateNotificationFile where
  source : String
  sessionId : UUID
  version : Nat
  timestamp : Nat
  snapshot : NRTM4FileReference
  deltas : List NRTM4FileReference
  nextSigningKey : Option String
  version_pos : 0 < version
  consistent : checkVersionConsistency version snapshot.version
    (deltas.map NRTM4FileReference.version) = .ok ()

namespace NRTM4UpdateNotificationFile

/-- `min_delta_version`, `irrd/mirroring/nrtm4/nrtm4_types.py:106–109`. -/
def minDeltaVersion (unf : NRTM4UpdateNotificationFile) : Option Nat :=
  unf.deltas.head?.map NRTM4FileReference.version

/-- `max_delta_version`, `irrd/mirroring/nrtm4/nrtm4_types.py:111–114`. -/
def maxDeltaVersion (unf : NRTM4UpdateNotificationFile) : Option Nat :=
  unf.deltas.getLast?.map NRTM4FileReference.version

/-- Validate the fields of an Update Notification File at time `now`. The source is compared
only when one is expected, and `keyValid` tells whether a key string can be imported. -/
def modelValidate (now : Nat) (keyValid : String → Bool) (expectedSource : Option String)
    (f : NotificationFields) : Except PyException NRTM4UpdateNotificationFile :=
  match f.source, f.sessionId, f.version, f.timestamp, f.snapshot.validate,
      validateReferences f.deltas with
  | some source, some sessionId, some version, some timestamp, .ok snapshot, .ok deltas =>
    if f.nrtmVersion ≠ some 4 then .error (.validationError "nrtm_version: Input should be 4")
    else if f.type ≠ some "notification" then
      .error (.validationError "type: Input should be 'notification'")
    else if now - timestamp > hours24 then
      .error (.validationError "Update Notification File is older than 24 hours")
    else if f.nextSigningKey.any (fun k ↦ k ≠ "" && !keyValid k) then
      .error (.validationError "Update Notification File has invalid next_signing_key")
    else if expectedSource.any (· ≠ source) then
      .error (.validationError "Mismatch in source field")
    else if hpos : 0 < version then
      match hc : checkVersionConsistency version snapshot.version
          (deltas.map NRTM4FileReference.version) with
      | .ok () => .ok ⟨source, sessionId, version, timestamp, snapshot, deltas,
          f.nextSigningKey, hpos, hc⟩
      | .error e => .error e
    else .error (.validationError "version: Input should be greater than 0")
  | _, _, _, _, _, _ => .error (.validationError "Field required")

/-- Fields that pass every check give the validated file. -/
theorem modelValidate_eq_ok {now : Nat} {keyValid : String → Bool} {f : NotificationFields}
    {source : String} {sessionId : UUID} {version timestamp : Nat}
    {snapshot : NRTM4FileReference} {deltas : List NRTM4FileReference}
    (hnrtm : f.nrtmVersion = some 4) (htype : f.type = some "notification")
    (hsource : f.source = some source) (hsession : f.sessionId = some sessionId)
    (hversion : f.version = some version) (htimestamp : f.timestamp = some timestamp)
    (hsnapshot : f.snapshot.validate = .ok snapshot)
    (hdeltas : validateReferences f.deltas = .ok deltas) (hrecent : now - timestamp ≤ hours24)
    (hkey : ∀ k ∈ f.nextSigningKey, keyValid k = true) (hpos : 0 < version)
    (hc : checkVersionConsistency version snapshot.version
      (deltas.map NRTM4FileReference.version) = .ok ()) :
    modelValidate now keyValid none f = .ok
      ⟨source, sessionId, version, timestamp, snapshot, deltas, f.nextSigningKey, hpos, hc⟩ := by
  have hkey' : f.nextSigningKey.any (fun k ↦ k ≠ "" && !keyValid k) = false := by
    cases hk : f.nextSigningKey with
    | none => rfl
    | some k => simp [hkey k hk]
  unfold modelValidate
  rw [hsource, hsession, hversion, htimestamp, hsnapshot, hdeltas]
  dsimp only
  rw [if_neg (not_not.mpr hnrtm), if_neg (not_not.mpr htype), if_neg (Nat.not_lt.mpr hrecent),
    if_neg (Bool.not_eq_true _ ▸ hkey'), if_neg (by simp), dif_pos hpos]
  split
  · rfl
  · next e he => exact absurd (hc.symm.trans he) (by simp)

end NRTM4UpdateNotificationFile

/-- The fields of a snapshot or delta header before validation. -/
structure HeaderFields where
  nrtmVersion : Option Nat
  source : Option String
  sessionId : Option UUID
  version : Option Nat
  type : Option String

/-- `NRTM4SnapshotHeader` and `NRTM4DeltaHeader`, validated,
`irrd/mirroring/nrtm4/nrtm4_types.py:51–66`. -/
structure NRTM4Header where
  source : String
  sessionId : UUID
  version : Nat
  deriving DecidableEq

/-- Validate a header of the given type against its expected values,
`irrd/mirroring/nrtm4/nrtm4_types.py:24–66`. -/
def HeaderFields.validate (type source : String) (sessionId : UUID) (version : Nat)
    (f : HeaderFields) : Except PyException NRTM4Header :=
  if f.nrtmVersion ≠ some 4 then .error (.validationError "nrtm_version: Input should be 4")
  else if f.type ≠ some type then .error (.validationError s!"type: Input should be '{type}'")
  else if f.version = some 0 then
    .error (.validationError "version: Input should be greater than 0")
  else if f.source ≠ some source then .error (.validationError "Mismatch in source field")
  else if f.sessionId ≠ some sessionId then
    .error (.validationError "Mismatch in session_id field")
  else if f.version ≠ some version then .error (.validationError "Mismatch in version field")
  else .ok ⟨source, sessionId, version⟩

section Consistency

/-- Consistent version numbers: the file's version is the larger of the snapshot's and the
last delta's, and the deltas are contiguous. -/
theorem checkVersionConsistency_iff (version snapshotVersion : Nat) (deltaVersions : List Nat) :
    checkVersionConsistency version snapshotVersion deltaVersions = .ok () ↔
      version = max snapshotVersion (deltaVersions.getLast?.getD 0) ∧
        ∀ lo ∈ deltaVersions.head?, ∀ hi ∈ deltaVersions.getLast?,
          deltaVersions = List.range' lo (hi + 1 - lo) := by
  unfold checkVersionConsistency
  cases hl : deltaVersions.getLast? with
  | none =>
    have hnil : deltaVersions = [] := List.getLast?_eq_none_iff.mp hl
    subst hnil
    simp
  | some hi =>
    cases hh : deltaVersions.head? with
    | none =>
      have hnil : deltaVersions = [] := List.head?_eq_none_iff.mp hh
      subst hnil
      simp at hl
    | some lo =>
      have hmax : (if hi ≠ 0 then max snapshotVersion hi else snapshotVersion) =
          max snapshotVersion hi := by
        split <;> omega
      simp only [hmax, Option.getD_some, Option.mem_some_iff, forall_eq']
      split
      · next hne => simp [hne]
      · next heq =>
        split
        · next hne => simp [hne]
        · next hrange => simpa using ⟨not_not.mp heq, not_not.mp hrange⟩

variable (unf : NRTM4UpdateNotificationFile)

/-- The version of a validated file. -/
theorem NRTM4UpdateNotificationFile.version_eq :
    unf.version = max unf.snapshot.version (unf.maxDeltaVersion.getD 0) := by
  have h := ((checkVersionConsistency_iff _ _ _).mp unf.consistent).1
  simpa [NRTM4UpdateNotificationFile.maxDeltaVersion, List.getLast?_map] using h

/-- The delta versions of a validated file are contiguous. -/
theorem NRTM4UpdateNotificationFile.deltaVersions_eq {lo hi : Nat}
    (hlo : unf.minDeltaVersion = some lo) (hhi : unf.maxDeltaVersion = some hi) :
    unf.deltas.map NRTM4FileReference.version = List.range' lo (hi + 1 - lo) := by
  have h := ((checkVersionConsistency_iff _ _ _).mp unf.consistent).2
  apply h
  · rw [List.head?_map]
    exact hlo
  · rw [List.getLast?_map]
    exact hhi

/-- A file has a first delta version exactly if it has a last one. -/
theorem NRTM4UpdateNotificationFile.minDeltaVersion_eq_none_iff :
    unf.minDeltaVersion = none ↔ unf.maxDeltaVersion = none := by
  simp [NRTM4UpdateNotificationFile.minDeltaVersion,
    NRTM4UpdateNotificationFile.maxDeltaVersion]

/-- The last delta version is not before the first. -/
theorem NRTM4UpdateNotificationFile.minDeltaVersion_le {lo hi : Nat}
    (hlo : unf.minDeltaVersion = some lo) (hhi : unf.maxDeltaVersion = some hi) : lo ≤ hi := by
  have h := unf.deltaVersions_eq hlo hhi
  by_contra hlt
  have hz : hi + 1 - lo = 0 := by omega
  rw [hz] at h
  have hnil : unf.deltas = [] := by simpa using h
  simp [NRTM4UpdateNotificationFile.minDeltaVersion, hnil] at hlo

end Consistency

end Irrd.Mirroring
