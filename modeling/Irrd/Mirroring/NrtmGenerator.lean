import Mathlib.Data.List.Sort
import Irrd.Storage.DatabaseHandler
import Irrd.Utils.Text

/-!
# NRTM responses

The response to an NRTM query for a range of serials of a source, from its status row and its
journal. Source: `irrd/mirroring/nrtm_generator.py`.
-/

namespace Irrd.Mirroring

open Irrd.Storage Irrd.Utils

/-- The settings of a source that the generator reads. -/
structure NRTMGeneratorSettings where
  keepJournal : Bool
  nrtmQuerySerialRangeLimit : Option Nat
  nrtmQuerySerialDaysLimit : Option Nat
  nrtmResponseHeader : Option String
  dummify : DummifySettings

/-- `NRTMGeneratorException`, by the reasons for it. -/
inductive NRTMGeneratorException
  | noJournal
  | noEntries
  | reversedRange (start last : Nat)
  | doNotExist (first last : Nat)
  | rangeLimit (limit : Nat)
  | noEntriesFrom (start : Nat)
  | daysLimit (limit : Nat)
  deriving DecidableEq

/-- The text of the exception. -/
def NRTMGeneratorException.message : NRTMGeneratorException → String
  | .noJournal => "No journal kept for this source, unable to serve NRTM queries"
  | .noEntries => "There are no journal entries for this source."
  | .reversedRange start last => s!"Start of the serial range ({start}) must be lower or " ++
    s!"equal to end of the serial range ({last})"
  | .doNotExist first last => s!"Serials {first} - {last} do not exist"
  | .rangeLimit limit => s!"Serial range requested exceeds maximum range of {limit}"
  | .noEntriesFrom start =>
    s!"There are no journal entries greater than or equal to this serial {start}."
  | .daysLimit limit => s!"Requesting serials older than {limit} days will be rejected"

/-- What the columns of a source say about a requested range. -/
inductive SerialRange
  | noUpdates
  | noNewerUpdates
  | available (serialEndDisplay : Nat)
  deriving DecidableEq

namespace NRTMGenerator

/-- Entries of a source from a serial on, up to another one if given, in serial order. -/
def serialNrtmRange (db : Database) (source : String) (start : Nat) (last : Option Nat) :
    List RPSLDatabaseJournal :=
  ((db.journal.ofSource source).filter (fun e ↦
    decide (start ≤ e.serialNrtm) && last.all (e.serialNrtm ≤ ·))).insertionSort
      (fun e e' ↦ e.serialNrtm ≤ e'.serialNrtm)

/-- The checks on the requested range, `irrd/mirroring/nrtm_generator.py:38–74`. An end of zero
counts as no end where it is compared with the start. -/
def checkRange (db : Database) (source : String) (serialStartRequested : Nat)
    (serialEndRequested : Option Nat) : Except NRTMGeneratorException SerialRange :=
  match db.status.find source with
  | none => .error .noEntries
  | some status =>
    let reversed := serialEndRequested.filter (fun last ↦ last ≠ 0 ∧ last < serialStartRequested)
    match reversed, status.serialOldestJournal, status.serialNewestJournal with
    | some last, _, _ => .error (.reversedRange serialStartRequested last)
    | none, some serialStartAvailable, some serialEndAvailable =>
      if serialStartRequested < serialStartAvailable then
        .error (.doNotExist serialStartRequested serialStartAvailable)
      else
        match serialEndRequested with
        | some last =>
          if serialEndAvailable < last then .error (.doNotExist serialEndAvailable last)
          else .ok (.available last)
        | none =>
          if serialStartRequested = serialEndAvailable + 1 then .ok .noNewerUpdates
          else if serialEndAvailable < serialStartRequested then
            .error (.doNotExist serialEndAvailable serialStartRequested)
          else .ok (.available serialEndAvailable)
    | none, _, _ => .ok .noUpdates

/-- The limits on a range, `irrd/mirroring/nrtm_generator.py:76–104`. A limit of zero is none. -/
def checkLimits (g : NRTMGeneratorSettings) (db : Database) (source : String)
    (serialStartRequested serialEndDisplay now : Nat) : Except NRTMGeneratorException Unit :=
  match g.nrtmQuerySerialRangeLimit.filter (fun limit ↦
      limit ≠ 0 ∧ limit < serialEndDisplay - serialStartRequested) with
  | some limit => .error (.rangeLimit limit)
  | none =>
    match g.nrtmQuerySerialDaysLimit.filter (· ≠ 0) with
    | none => .ok ()
    | some limit =>
      match serialNrtmRange db source serialStartRequested none with
      | [] => .error (.noEntriesFrom serialStartRequested)
      | journal :: _ =>
        if limit * (24 * 60 * 60 * 1000000) < now - journal.timestamp then
          .error (.daysLimit limit)
        else .ok ()

/-- One operation of a response, `irrd/mirroring/nrtm_generator.py:119–131`. -/
def operationText (g : NRTMGeneratorSettings) (version : String)
    (removeAuthHashes clientIsDummifyingExempt : Bool) (e : RPSLDatabaseJournal) : String :=
  let operation := match e.operation with
    | .addOrUpdate => "ADD"
    | .delete => "DEL"
  let serial := if version = "3" then s!" {e.serialNrtm}" else ""
  let text := if removeAuthHashes then Utils.removeAuthHashes e.objectText else e.objectText
  let text := if clientIsDummifyingExempt then text
    else dummifyObjectText g.dummify text e.objectClass e.rpslPk
  operation ++ serial ++ "\n\n" ++ text

/-- `generate`, `irrd/mirroring/nrtm_generator.py:15–134`. -/
def generate (g : NRTMGeneratorSettings) (db : Database) (source version : String)
    (serialStartRequested : Nat) (serialEndRequested : Option Nat)
    (removeAuthHashes clientIsDummifyingExempt : Bool) (now : Nat) :
    Except NRTMGeneratorException String :=
  if g.keepJournal then
    match checkRange db source serialStartRequested serialEndRequested with
    | .error e => .error e
    | .ok .noUpdates => .ok "% Warning: there are no updates available"
    | .ok .noNewerUpdates => .ok "% Warning: there are no newer updates available"
    | .ok (.available serialEndDisplay) =>
      match checkLimits g db source serialStartRequested serialEndDisplay now with
      | .error e => .error e
      | .ok () =>
        let header := (g.nrtmResponseHeader.filter (· ≠ "")).toList.map (fun header ↦
          String.ofList (indent header.toList ['%']))
        let range := s!"%START Version: {version} {source} " ++
          s!"{serialStartRequested}-{serialEndDisplay}\n"
        let operations := (serialNrtmRange db source serialStartRequested serialEndRequested).map
          (operationText g version removeAuthHashes clientIsDummifyingExempt)
        .ok ("\n".intercalate (header ++ [range] ++ operations ++ [s!"%END {source}"]))
  else .error .noJournal

end NRTMGenerator

end Irrd.Mirroring
