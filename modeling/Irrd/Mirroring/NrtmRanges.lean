import Irrd.Mirroring.NrtmGenerator
import Irrd.Storage.SerialColumns

/-!
# Ranges of NRTM queries

Which ranges of serials the generator accepts, and which it rejects as missing, compared with
the journal.
-/

namespace Irrd.Mirroring

open Irrd.Base Irrd.Conf Irrd.Storage

/-- A serial is between the ends of a source's journal. -/
def SerialCovered (db : Database) (source : String) (serial : Nat) : Prop :=
  ∃ oldest newest, (db.journal.serials source).min? = some oldest ∧
    (db.journal.serials source).max? = some newest ∧ oldest ≤ serial ∧ serial ≤ newest

section Ranges

variable {db : Database} {source : String} {start : Nat} {last : Option Nat}

/-- With exact columns, an accepted range is covered by the journal. -/
theorem checkRange_available (hexact : ExactColumns db source) {display : Nat}
    (hrange : NRTMGenerator.checkRange db source start last = .ok (.available display))
    {serial : Nat} (hstart : start ≤ serial) (hdisplay : serial ≤ display) :
    SerialCovered db source serial := by
  unfold NRTMGenerator.checkRange at hrange
  unfold ExactColumns Database.serialColumns at hexact
  cases hrow : db.status.find source with
  | none => simp [hrow] at hrange
  | some status =>
    rw [hrow] at hrange hexact
    obtain ⟨holdest, hnewest⟩ := hexact
    dsimp only [RPSLDatabaseStatus.serialColumns] at hrange holdest hnewest
    split at hrange
    · cases hrange
    · next serialStartAvailable serialEndAvailable _ hfirst hlast =>
      rw [hfirst] at holdest
      rw [hlast] at hnewest
      split at hrange
      · cases hrange
      · refine ⟨serialStartAvailable, serialEndAvailable, holdest.symm, hnewest.symm, by omega, ?_⟩
        split at hrange
        · split at hrange
          · cases hrange
          · cases hrange
            omega
        · split at hrange
          · cases hrange
          · split at hrange
            · cases hrange
            · cases hrange
              exact hdisplay
    · cases hrange

/-- With exact columns, a range that is rejected as missing has an end that is not covered. -/
theorem checkRange_doNotExist (hexact : ExactColumns db source) {first missing : Nat}
    (hrange : NRTMGenerator.checkRange db source start last = .error (.doNotExist first missing)) :
    ¬ (SerialCovered db source start ∧ ∀ serial ∈ last, SerialCovered db source serial) := by
  rintro ⟨⟨oldest, newest, hmin, hmax, hstart, hend⟩, hcovered⟩
  unfold NRTMGenerator.checkRange at hrange
  unfold ExactColumns Database.serialColumns at hexact
  cases hrow : db.status.find source with
  | none => simp [hrow] at hrange
  | some status =>
    rw [hrow] at hrange hexact
    obtain ⟨holdest, hnewest⟩ := hexact
    dsimp only [RPSLDatabaseStatus.serialColumns] at hrange holdest hnewest
    rw [holdest, hnewest, hmin, hmax] at hrange
    split at hrange
    · cases hrange
    · next hfirst hlast =>
      cases hfirst
      cases hlast
      rw [if_neg (by omega)] at hrange
      cases last with
      | some serial =>
        obtain ⟨_, newest', _, hmax', _, hserial⟩ := hcovered serial rfl
        rw [hmax] at hmax'
        cases hmax'
        dsimp only at hrange
        rw [if_neg (by omega)] at hrange
        cases hrange
      | none =>
        dsimp only at hrange
        rw [if_neg (by omega), if_neg (by omega)] at hrange
        cases hrange
    · next hsome => exact (hsome oldest newest rfl rfl).elim

/-- A range that `generate` rejects as missing is one that the columns do not have. -/
theorem generate_doNotExist {g : NRTMGeneratorSettings} {version : String}
    {removeAuthHashes clientIsDummifyingExempt : Bool} {now first missing : Nat}
    (hgenerate : NRTMGenerator.generate g db source version start last removeAuthHashes
      clientIsDummifyingExempt now = .error (.doNotExist first missing)) :
    NRTMGenerator.checkRange db source start last = .error (.doNotExist first missing) := by
  unfold NRTMGenerator.generate at hgenerate
  split at hgenerate
  · split at hgenerate
    · next hrange =>
      cases hgenerate
      exact hrange
    · cases hgenerate
    · cases hgenerate
    · split at hgenerate
      · next hlimits =>
        cases hgenerate
        unfold NRTMGenerator.checkLimits at hlimits
        repeat' split at hlimits
        all_goals cases hlimits
      · cases hgenerate
  · cases hgenerate

/-- In every run whose steps keep the journal columns of a source, they are exact in the committed
database, every range that is accepted is covered by the journal, and a range that is rejected
as missing is not. -/
theorem generate_ranges_covered {s : Settings} {h h' : DatabaseHandler}
    (hinitial : InitialColumns source h)
    (hreach : Reaches (DatabaseHandler.step s) (KeepsColumns s source) h h') :
    (∀ status ∈ h'.committed.status.find source,
      status.serialOldestJournal = (h'.committed.journal.serials source).min? ∧
        status.serialNewestJournal = (h'.committed.journal.serials source).max?) ∧
    (∀ start last display,
      NRTMGenerator.checkRange h'.committed source start last = .ok (.available display) →
      ∀ serial, start ≤ serial → serial ≤ display → SerialCovered h'.committed source serial) ∧
    ∀ g version start last removeAuthHashes clientIsDummifyingExempt now first missing,
      NRTMGenerator.generate g h'.committed source version start last removeAuthHashes
        clientIsDummifyingExempt now = .error (.doNotExist first missing) →
      ¬ (SerialCovered h'.committed source start ∧
        ∀ serial ∈ last, SerialCovered h'.committed source serial) := by
  have hexact := exactColumns_of_reaches hinitial hreach
  refine ⟨fun status hstatus ↦ ?_, ?_, ?_⟩
  · unfold ExactColumns Database.serialColumns at hexact
    rw [Option.mem_def.mp hstatus] at hexact
    exact hexact
  · intro start last display hrange serial hstart hdisplay
    exact checkRange_available hexact hrange hstart hdisplay
  · intro g version start last removeAuthHashes clientIsDummifyingExempt now first missing hgenerate
    exact checkRange_doNotExist hexact (generate_doNotExist hgenerate)

end Ranges

section Examples

/-- A handler after a run that only has to succeed. -/
def handlerRun (actions : List HandlerAction) : Option DatabaseHandler :=
  actions.foldlM (fun h a ↦ if True then DatabaseHandler.step localSettings h a else none)
    newHandler

theorem newHandler_initial : InitialColumns "TEST" newHandler := ⟨rfl, rfl, rfl, rfl⟩

/-- A handler with one object in its buffer. -/
def pendingHandler : DatabaseHandler :=
  (DatabaseHandler.step localSettings newHandler (upsertAction 0 (personObject "A"))).get rfl

/-- A handler with one committed object. -/
def committedHandler : DatabaseHandler :=
  (DatabaseHandler.step localSettings pendingHandler ⟨1, .commit⟩).get rfl

/-- The serial of a committed object is covered. -/
theorem generate_ranges_covered_oneObject :
    NRTMGenerator.checkRange committedHandler.committed "TEST" 1 none = .ok (.available 1) ∧
      SerialCovered committedHandler.committed "TEST" 1 := by
  have hreach : Reaches (DatabaseHandler.step localSettings) (KeepsColumns localSettings "TEST")
      newHandler committedHandler := by
    refine Reaches.tail (t := pendingHandler) (a := ⟨1, .commit⟩) ?_ ?_ (Option.some_get rfl).symm
    · refine (Reaches.refl newHandler).tail (a := upsertAction 0 (personObject "A")) ?_
        (Option.some_get rfl).symm
      exact trivial
    · exact ⟨fun _ _ hprefixes ↦ absurd rfl hprefixes, Or.inr (Or.inl rfl)⟩
  have hcovered := (generate_ranges_covered newHandler_initial hreach).2.1 1 none 1 rfl 1
  exact ⟨rfl, hcovered (Nat.le_refl 1) (Nat.le_refl 1)⟩

/-- A handler after the journal has expired. -/
def expiredHandler : DatabaseHandler :=
  (handlerRun [upsertAction 0 (personObject "A"), ⟨1, .commit⟩,
    ⟨2, .deleteJournalEntriesBeforeDate 2 "TEST"⟩, ⟨3, .commit⟩]).get rfl

/-- Expiry leaves the columns, so that a serial is offered that the journal no longer has. -/
theorem checkRange_available_expired :
    InitialColumns "TEST" newHandler ∧
      Reaches (DatabaseHandler.step localSettings) (fun _ _ ↦ True) newHandler expiredHandler ∧
      NRTMGenerator.checkRange expiredHandler.committed "TEST" 1 none = .ok (.available 1) ∧
      (expiredHandler.committed.status.find "TEST").bind
        RPSLDatabaseStatus.serialNewestJournal = some 1 ∧
      expiredHandler.committed.journal.serials "TEST" = [] :=
  ⟨newHandler_initial, Reaches.of_foldlM _ (Option.some_get _).symm, rfl, rfl, rfl⟩

end Examples

end Irrd.Mirroring
