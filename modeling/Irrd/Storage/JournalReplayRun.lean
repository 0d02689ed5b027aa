import Irrd.Storage.JournalReplaySteps

/-!
# Mirrors of a source after any run

Replaying the journal of a source gives its visible objects after every commit, in every run of
upserts, deletions, suspensions and status updates in which no suppressed upsert replaces a
visible row, no scope filter update reaches other rows by a shared primary key, and serials from
the NRTM source increase.
-/

namespace Irrd.Storage

open Irrd.Base Irrd.Conf Irrd.Rpsl

/-- The serial that comes with an operation follows those before it, where the source takes its
serials from the NRTM source. -/
def SerialFollows (s : Settings) (source : String) (h : DatabaseHandler)
    (sourceSerial : Option Nat) : Prop :=
  h.isSerialSynchronised s source = true → ∀ serial ∈ sourceSerial,
    ∀ n ∈ h.working.journal.serials source ++ pendingSerials source h.rpslUpsertBuffer, n < serial

/-- Writes to objects, status updates with exactly the rows whose status changes, queries and
commits. -/
def WritesObjects (h : DatabaseHandler) (a : HandlerAction) : Prop :=
  match a.operation with
  | .upsertRpslObject .. => True
  | .updateRpkiStatus nowValid nowInvalid nowNotFound =>
    RpkiChanges h.working.objects nowValid nowInvalid nowNotFound
  | .updateScopefilterStatus nowInScope nowOutScopeAs nowOutScopePrefix =>
    ScopefilterChanges h.working.objects nowInScope nowOutScopeAs nowOutScopePrefix
  | .updateRoutePreferenceStatus nowVisible nowSuppressed =>
    RoutePreferenceChanges h.working.objects nowVisible nowSuppressed
  | .deleteRpslObject .. => True
  | .suspendRpslObject _ => True
  | .executeQuery => True
  | .commit => True
  | _ => False

/-- The operation does not bring about a difference: a flush of the buffer suppresses no visible
row, shared primary keys agree, and serials of the NRTM source increase. -/
def KeepsMirror (s : Settings) (source : String) (h : DatabaseHandler) (a : HandlerAction) :
    Prop :=
  match a.operation with
  | .upsertRpslObject o origin _ sourceSerial created =>
    let entry : BufferedUpsert :=
      ⟨DatabaseHandler.objectColumns { h with now := a.now } o, created, origin, sourceSerial⟩
    (o.source = source → entry.columns.isVisible = true →
        SerialFollows s source h sourceSerial) ∧
      (if DatabaseHandler.rpslPkSource o ∈ h.rpslPkSourceSeen then
        SuppressesNone source h.working.objects h.rpslUpsertBuffer
      else DatabaseHandler.maxRecordsBufferBeforeInsert ≤ h.rpslUpsertBuffer.length →
        SuppressesNone source h.working.objects (h.rpslUpsertBuffer ++ [entry]))
  | .updateScopefilterStatus nowInScope nowOutScopeAs nowOutScopePrefix =>
    SharedKeysAgree source h.working.objects (nowInScope ++ (nowOutScopeAs ++ nowOutScopePrefix))
  | .deleteRpslObject _ arguments sourceSerial _ =>
    SuppressesNone source h.working.objects h.rpslUpsertBuffer ∧
      (arguments.key.any (fun key ↦ key.source = source) = true →
        SerialFollows s source h sourceSerial)
  | .suspendRpslObject _ => SuppressesNone source h.working.objects h.rpslUpsertBuffer
  | .executeQuery => SuppressesNone source h.working.objects h.rpslUpsertBuffer
  | .commit => SuppressesNone source h.working.objects h.rpslUpsertBuffer
  | _ => True

/-- A new handler on a database that has nothing of the source. -/
structure InitialMirror (source : String) (h : DatabaseHandler) : Prop where
  journaling : h.journalingEnabled = true
  committed : h.committed = h.working
  buffer : h.rpslUpsertBuffer = []
  tracker : h.statusTracker = .reset
  objects : ∀ row ∈ h.working.objects.rows, row.source ≠ source
  journal : ∀ e ∈ h.working.journal.rows, e.source ≠ source
  unique : h.working.objects.PksUnique
  fresh : ∀ row ∈ h.working.objects.rows, row.pk < h.nextPk

section Run

variable {s : Settings} {source : String} {h h' : DatabaseHandler}

theorem InitialMirror.invariant (hinitial : InitialMirror source h) :
    MirrorInvariant s source h [] := by
  have hserials : h.working.journal.ofSource source = [] := by
    unfold JournalTable.ofSource
    simpa [List.filter_eq_nil_iff] using hinitial.journal
  have hcontents : visibleContents h.working.objects source = fun _ ↦ none := by
    funext ⟨objectClass, rpslPk⟩
    have hnone : h.working.objects.find ⟨rpslPk, source, objectClass⟩ = none := by
      rw [KeyedTable.find_eq_none_iff]
      exact fun row hrow hkey ↦ hinitial.objects row hrow (congrArg ObjectKey.source hkey)
    rw [visibleContents_apply, hnone]
    rfl
  have hreplay : replay (fun _ ↦ none) (h.working.journal.changes source) =
      visibleContents h.working.objects source := by
    rw [hcontents, JournalTable.changes, hserials]
    rfl
  have hnil : h.working.journal.serials source = [] := by
    rw [JournalTable.serials, hserials]
    rfl
  refine ⟨hinitial.journaling, hreplay, ⟨?_, ?_, ?_, ?_⟩, hinitial.unique, hinitial.fresh, ?_⟩
  · simp [hnil]
  · rw [hinitial.tracker]
    exact fun hne ↦ absurd rfl hne
  · exact fun _ hne ↦ absurd hnil hne
  · simp [hnil, hinitial.buffer, pendingSerials]
  · rw [hinitial.committed, mirroredContents_eq (by simp [hnil]), hreplay]

/-- More serials may come if they follow those that are there. -/
theorem MirrorInvariant.follow {sourceSerial : Option Nat} (hinv : MirrorInvariant s source h [])
    (hfollows : SerialFollows s source h sourceSerial) :
    MirrorInvariant s source h sourceSerial.toList := by
  refine ⟨hinv.journaling, hinv.replay, ⟨hinv.order.sorted, hinv.order.bound, hinv.order.rowless,
    fun hsync ↦ ?_⟩, hinv.unique, hinv.fresh, hinv.committed⟩
  have hpending := hinv.order.pending hsync
  rw [List.append_nil] at hpending
  rw [← List.append_assoc, List.pairwise_append]
  refine ⟨hpending, ?_, fun n hn serial hserial ↦ ?_⟩
  · cases sourceSerial <;> simp
  · exact hfollows hsync serial (by simpa using hserial) n hn

/-- One operation. -/
theorem MirrorInvariant.step {a : HandlerAction} (hinv : MirrorInvariant s source h [])
    (hkeep : s.keepJournal source = true) (hwrites : WritesObjects h a)
    (hguard : KeepsMirror s source h a) (hstep : h.step s a = some h') :
    MirrorInvariant s source h' [] := by
  obtain ⟨now, operation⟩ := a
  have hnow : MirrorInvariant s source { h with now } [] :=
    ⟨hinv.journaling, hinv.replay, hinv.order.congr rfl id rfl id rfl, hinv.unique, hinv.fresh,
      hinv.committed⟩
  have hfollow {sourceSerial : Option Nat} {applies : Prop} [Decidable applies]
      (hfollows : applies → SerialFollows s source h sourceSerial) :
      MirrorInvariant s source { h with now } (if applies then sourceSerial.toList else []) := by
    split
    · next happlies => exact hnow.follow (hfollows happlies)
    · exact hnow
  cases operation with
  | upsertRpslObject o origin guaranteed sourceSerial created =>
    obtain ⟨hfollows, hnone⟩ := hguard
    refine MirrorInvariant.upsert hkeep ?_ (fun hmem ↦ ?_) (fun hmem ↦ ?_) hstep
    · rw [pendingSerials_singleton]
      exact hfollow (fun happlies ↦ hfollows happlies.1 happlies.2)
    · rwa [if_pos hmem] at hnone
    · rwa [if_neg hmem] at hnone
  | updateRpkiStatus nowValid nowInvalid nowNotFound =>
    exact hnow.updateRpkiStatus hkeep hwrites hstep
  | updateScopefilterStatus nowInScope nowOutScopeAs nowOutScopePrefix =>
    exact hnow.updateScopefilterStatus hkeep hwrites hguard hstep
  | updateRoutePreferenceStatus nowVisible nowSuppressed =>
    exact (hnow.updateRoutePreferenceStatus hkeep hwrites hstep).1
  | deleteRpslObject origin arguments sourceSerial protect =>
    exact (hfollow hguard.2).delete hkeep hguard.1 hstep
  | suspendRpslObject pk => exact hnow.suspend hkeep hguard hstep
  | executeQuery => exact (hnow.flush hkeep hguard hstep).1
  | commit => exact hnow.commit hkeep hguard hstep
  | _ => exact hwrites.elim

/-- In every run, a mirror that replays the committed journal of the source has its visible
objects. -/
theorem mirroredContents_of_reaches (hinitial : InitialMirror source h)
    (hkeep : s.keepJournal source = true)
    (hreach : Reaches (DatabaseHandler.step s)
      (fun h a ↦ WritesObjects h a ∧ KeepsMirror s source h a) h h') :
    mirroredContents h'.committed source = visibleContents h'.committed.objects source :=
  (hreach.invariant (P := fun h ↦ MirrorInvariant s source h [])
    (fun hinv hguard hstep ↦ hinv.step hkeep hguard.1 hguard.2 hstep) hinitial.invariant).committed

end Run

section Examples

/-- A route object with an RPKI status. -/
def routeObject (rpkiStatus : RPKIStatus) : RPSLObject where
  rpslObjectClass := "route"
  pk := "192.0.2.0/24AS65530"
  source := "TEST"
  parsedData := [("route", ["192.0.2.0/24"]), ("mnt-by", ["TEST-MNT"])]
  renderRpslText _ := "route: 192.0.2.0/24"
  ipVersion := some 4
  ipFirst := some ⟨4, 0xC0000200, 32⟩
  ipLast := some ⟨4, 0xC00002FF, 32⟩
  ipPrefix := some ⟨4, 0xC0000200, 24⟩
  prefixLength := some 24
  asnFirst := some 65530
  asnLast := some 65530
  rpkiStatus := rpkiStatus
  scopefilterStatus := .inScope
  routePreferenceStatus := .visible

theorem newHandler_initialMirror : InitialMirror "TEST" newHandler where
  journaling := rfl
  committed := rfl
  buffer := rfl
  tracker := rfl
  objects := by simp [newHandler, emptyDatabase, KeyedTable.empty]
  journal := by simp [newHandler, emptyDatabase, KeyedTable.empty]
  unique := List.nodup_nil
  fresh := by simp [newHandler, emptyDatabase, KeyedTable.empty]

/-- The handler after one more action. -/
def DatabaseHandler.next (h : DatabaseHandler) (a : HandlerAction)
    (hstep : (h.step localSettings a).isSome) : DatabaseHandler :=
  (h.step localSettings a).get hstep

theorem DatabaseHandler.step_next (h : DatabaseHandler) (a : HandlerAction)
    (hstep : (h.step localSettings a).isSome) :
    h.step localSettings a = some (h.next a hstep) := (Option.some_get hstep).symm

/-- The handler with one committed route. -/
def routeHandler : DatabaseHandler :=
  (newHandler.next (upsertAction 0 (routeObject .valid)) rfl).next ⟨1, .commit⟩ rfl

/-- A mirror of one committed route has it. -/
theorem mirroredContents_routeHandler :
    mirroredContents routeHandler.committed "TEST" =
      visibleContents routeHandler.committed.objects "TEST" := by
  refine mirroredContents_of_reaches newHandler_initialMirror (s := localSettings) rfl ?_
  refine Reaches.tail (a := ⟨1, .commit⟩) ?_ ?_ (DatabaseHandler.step_next _ _ rfl)
  · refine (Reaches.refl newHandler).tail (a := upsertAction 0 (routeObject .valid)) ?_
      (DatabaseHandler.step_next _ _ rfl)
    refine ⟨trivial, fun _ _ hsync ↦ ?_, ?_⟩
    · cases hsync
    · rw [if_neg]
      · exact fun hfull ↦ absurd hfull (by decide)
      · exact List.not_mem_nil
  · refine ⟨trivial, fun b hb _ hhidden ↦ ?_⟩
    rw [List.mem_singleton.mp hb] at hhidden
    cases hhidden

/-- The handler after the route was replaced by one that is RPKI invalid. -/
def suppressedHandler : DatabaseHandler :=
  (routeHandler.next (upsertAction 2 (routeObject .invalid)) rfl).next ⟨3, .commit⟩ rfl

/-- A mirror keeps a route that was replaced by a suppressed one. -/
theorem mirroredContents_suppressedHandler :
    InitialMirror "TEST" newHandler ∧ localSettings.keepJournal "TEST" = true ∧
      Reaches (DatabaseHandler.step localSettings) WritesObjects newHandler suppressedHandler ∧
      mirroredContents suppressedHandler.committed "TEST" ≠
        visibleContents suppressedHandler.committed.objects "TEST" := by
  refine ⟨newHandler_initialMirror, rfl, ?_, fun hsame ↦ ?_⟩
  · refine Reaches.tail (a := ⟨3, .commit⟩) ?_ trivial (DatabaseHandler.step_next _ _ rfl)
    refine Reaches.tail (a := upsertAction 2 (routeObject .invalid)) ?_ trivial
      (DatabaseHandler.step_next _ _ rfl)
    refine Reaches.tail (a := ⟨1, .commit⟩) ?_ trivial (DatabaseHandler.step_next _ _ rfl)
    exact (Reaches.refl newHandler).tail (a := upsertAction 0 (routeObject .valid)) trivial
      (DatabaseHandler.step_next _ _ rfl)
  · have hroute := congrFun hsame ("route", "192.0.2.0/24AS65530")
    cases hroute

end Examples

end Irrd.Storage
