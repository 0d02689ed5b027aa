import Irrd.Base.Fallible
import Irrd.Server.EventStream

/-!
# Runs of the event stream

Exactly once delivery, over connections that keep their place.
-/

namespace Irrd.Server

open Irrd.Base Irrd.Rpsl Irrd.Storage

variable {collation : String → String → Bool} {env : Environment} {s t : EventStream}
  {journal entries : List RPSLDatabaseJournal} {f : AsyncEventStreamFollower} {serial after : Nat}

section Queries

@[simp] theorem globalSerials_append : globalSerials (journal ++ entries) =
    globalSerials journal ++ globalSerials entries := List.map_append

@[simp] theorem globalSerials_nil : globalSerials [] = [] := rfl

@[simp] theorem globalSerials_cons {e : RPSLDatabaseJournal} :
    globalSerials (e :: entries) = e.serialGlobal :: globalSerials entries := rfl

/-- A query from the serial after a position finds what is after the position. -/
theorem serialGlobalRange_perm :
    (globalSerials (serialGlobalRange collation journal (after + 1))).Perm
      (itemsAfter after (globalSerials journal)) := by
  have hsorted : (serialGlobalRange collation journal (after + 1)).Perm
      (journal.filter (fun e ↦ after + 1 ≤ e.serialGlobal)) := List.perm_insertionSort _ _
  refine (hsorted.map _).trans (List.Perm.of_eq ?_)
  unfold itemsAfter globalSerials
  rw [List.filter_map]
  rfl

theorem mem_serialGlobalRange {start : Nat} {e : RPSLDatabaseJournal}
    (h : e ∈ serialGlobalRange collation journal start) : e ∈ journal :=
  (List.mem_filter.mp ((List.mem_insertionSort _).mp h)).1

theorem le_of_maxSerialGlobal {m : Nat} (h : maxSerialGlobal journal = some m) :
    ∀ serial ∈ globalSerials journal, serial ≤ m := (List.max?_eq_some_iff.mp h).2

theorem mem_of_maxSerialGlobal {m : Nat} (h : maxSerialGlobal journal = some m) :
    m ∈ globalSerials journal := (List.max?_eq_some_iff.mp h).1

theorem exists_greatest {m : Nat} (h : m ∈ globalSerials journal) :
    ∃ greatest ∈ globalSerials journal, ∀ serial ∈ globalSerials journal, serial ≤ greatest := by
  rcases hmax : maxSerialGlobal journal with _ | greatest
  · rw [List.max?_eq_none_iff.mp hmax] at h
    cases h
  · exact ⟨greatest, mem_of_maxSerialGlobal hmax, le_of_maxSerialGlobal hmax⟩

theorem maxSerialGlobal_eq_none : maxSerialGlobal journal = none ↔ journal = [] := by
  simp [maxSerialGlobal, globalSerials]

end Queries

namespace EventStream

section Remaining

theorem upcoming_perm (hfailed : f.failed = false) (hafter : f.afterGlobalSerial = some after) :
    (upcoming collation journal f).Perm (globalSerials f.journalEntries ++
      itemsAfter (endPosition after (globalSerials f.journalEntries)) (globalSerials journal)) := by
  unfold upcoming
  rw [hfailed, hafter]
  exact serialGlobalRange_perm.append_left _

/-- A client that is not connected receives what is after the serial that it subscribes with. -/
theorem remaining_of_request (hfollower : s.follower = none)
    (hserial : s.requestedSerial = some serial) :
    (s.remaining collation).Perm (itemsAfter serial (globalSerials s.journal)) := by
  unfold remaining AsyncEventStreamFollower.create
  rw [hfollower, hserial]
  dsimp only
  rcases hmax : maxSerialGlobal s.journal with _ | m
  · rw [maxSerialGlobal_eq_none.mp hmax]
    exact List.Perm.refl _
  · by_cases hlt : m < serial
    · have hnone : itemsAfter serial (globalSerials s.journal) = [] :=
        itemsAfter_eq_nil (fun x hx ↦ (le_of_maxSerialGlobal hmax x hx).trans hlt.le)
      simp [hlt, hnone]
    · simp only [hlt, if_false]
      exact upcoming_perm rfl rfl

/-- A client that asks for no serial receives nothing of what the journal has. -/
theorem remaining_of_no_request (hfollower : s.follower = none)
    (hserial : s.requestedSerial = none) : s.remaining collation = [] := by
  unfold remaining AsyncEventStreamFollower.create
  rw [hfollower, hserial]
  dsimp only
  rcases hmax : maxSerialGlobal s.journal with _ | m
  · rfl
  · have hnone : itemsAfter m (globalSerials s.journal) = [] :=
      itemsAfter_eq_nil (le_of_maxSerialGlobal hmax)
    have hperm := @upcoming_perm collation s.journal ⟨some m, [], false⟩ m rfl rfl
    simp only [globalSerials_nil, endPosition_nil, hnone, List.append_nil] at hperm
    exact hperm.eq_nil

end Remaining

/-- The place of a client that is not connected: it has received each entry up to the serial that it
subscribes with. -/
structure Paused (s : EventStream) (start : Nat) : Prop where
  inFlight : s.inFlight = []
  place : ∃ serial, s.requestedSerial = some serial ∧ start ≤ serial ∧
    (serial = start ∨ ∃ m ∈ globalSerials s.journal, serial ≤ m) ∧
    (s.received ++ itemsAfter serial (globalSerials s.journal)).Perm
      (itemsAfter start (globalSerials s.journal))

/-- The place of a client with a follower: what is on its way or still to be sent makes up the rest
of the entries up to where the follower ends its query. -/
structure Connected (s : EventStream) (start : Nat) (f : AsyncEventStreamFollower) : Prop where
  running : f.failed = false
  entries : ∀ e ∈ f.journalEntries, e ∈ s.journal
  place : ∃ after, f.afterGlobalSerial = some after ∧ start ≤ after ∧
    (∃ m ∈ globalSerials s.journal, endPosition after (globalSerials f.journalEntries) ≤ m) ∧
    (s.received ++ (s.inFlight.map RPSLJournalMessage.serialGlobal ++
      (globalSerials f.journalEntries ++
        itemsAfter (endPosition after (globalSerials f.journalEntries))
          (globalSerials s.journal)))).Perm (itemsAfter start (globalSerials s.journal))

/-- The stream follows the journal without loss or repetition. -/
structure Following (env : Environment) (s : EventStream) : Prop where
  increasing : (globalSerials s.journal).Pairwise (· < ·)
  messages : ∀ message ∈ s.processed ++ s.inFlight, ∃ e ∈ s.journal,
    rpslJournalMessage env e = .ok message
  first : ∀ n ∈ s.firstRequest, s.startingPoint = some n
  place : match s.startingPoint, s.follower with
    | none, none => s.processed = [] ∧ s.inFlight = []
    | none, some _ => False
    | some start, none => Paused s start
    | some start, some f => Connected s start f

section Steps

/-- What is added is newer than any position inside the journal. -/
theorem itemsAfter_added {start m : Nat}
    (hincreasing : (globalSerials (journal ++ entries)).Pairwise (· < ·))
    (hm : m ∈ globalSerials journal) (hstart : start ≤ m) :
    itemsAfter start (globalSerials entries) = globalSerials entries := by
  rw [globalSerials_append] at hincreasing
  exact itemsAfter_eq_self (fun x hx ↦ hstart.trans_lt
    ((List.pairwise_append.mp hincreasing).2.2 m hm x hx))

theorem Following.commit (h : Following env s)
    (hincreasing : (globalSerials (s.journal ++ entries)).Pairwise (· < ·)) :
    Following env { s with journal := s.journal ++ entries } := by
  refine ⟨hincreasing, fun message hmessage ↦ ?_, h.first, ?_⟩
  · obtain ⟨e, he, hsent⟩ := h.messages message hmessage
    exact ⟨e, List.mem_append_left _ he, hsent⟩
  · have hplace := h.place
    rcases hstart : s.startingPoint with _ | start <;> rcases hfollower : s.follower with _ | f <;>
      rw [hstart, hfollower] at hplace
    · exact hplace
    · exact hplace
    · obtain ⟨hinFlight, serial, hserial, hle, hposition, hperm⟩ := hplace
      refine ⟨hinFlight, serial, hserial, hle, ?_, ?_⟩
      · refine hposition.imp_right (fun ⟨m, hm, hlast⟩ ↦ ⟨m, ?_, hlast⟩)
        rw [globalSerials_append]
        exact List.mem_append_left _ hm
      · have hadded : itemsAfter serial (globalSerials entries) =
            itemsAfter start (globalSerials entries) := by
          rcases hposition with rfl | ⟨m, hm, hlast⟩
          · rfl
          · rw [itemsAfter_added hincreasing hm hlast,
              itemsAfter_added hincreasing hm (hle.trans hlast)]
        show (s.received ++ itemsAfter serial (globalSerials (s.journal ++ entries))).Perm
          (itemsAfter start (globalSerials (s.journal ++ entries)))
        rw [globalSerials_append, itemsAfter_append, itemsAfter_append, hadded, ← List.append_assoc]
        exact hperm.append_right _
    · obtain ⟨hrunning, hentries, after, hafter, hle, ⟨m, hm, hlast⟩, hperm⟩ := hplace
      refine ⟨hrunning, fun e he ↦ List.mem_append_left _ (hentries e he), after, hafter, hle,
        ⟨m, ?_, hlast⟩, ?_⟩
      · show m ∈ globalSerials (s.journal ++ entries)
        rw [globalSerials_append]
        exact List.mem_append_left _ hm
      · show (s.received ++ (_ ++ (_ ++ itemsAfter _ (globalSerials (s.journal ++ entries))))).Perm
          (itemsAfter start (globalSerials (s.journal ++ entries)))
        rw [globalSerials_append, itemsAfter_append, itemsAfter_append,
          itemsAfter_added hincreasing hm hlast,
          itemsAfter_added hincreasing hm ((hle.trans le_endPosition).trans hlast)]
        simpa only [List.append_assoc] using hperm.append_right (globalSerials entries)

theorem Following.subscribe (h : Following env s) (hfollower : s.follower = none)
    (hkeeps : KeepsPlace env s .subscribe) : Following env s.subscribe := by
  have hplace := h.place
  rw [hfollower] at hplace
  unfold EventStream.subscribe
  rcases hserial : s.requestedSerial with _ | serial
  · -- a client without a serial has not processed anything, and starts at the end of the journal
    rcases hmax : maxSerialGlobal s.journal with _ | m
    · exact absurd (maxSerialGlobal_eq_none.mp hmax) (hkeeps hserial)
    · rcases hstart : s.startingPoint with _ | start
      · rw [hstart] at hplace
        obtain ⟨hprocessed, hinFlight⟩ := hplace
        have hnone : itemsAfter m (globalSerials s.journal) = [] :=
          itemsAfter_eq_nil (le_of_maxSerialGlobal hmax)
        simp only [AsyncEventStreamFollower.create, hmax]
        refine ⟨h.increasing, h.messages, fun n hn ↦ ?_, ?_⟩
        · have hfirst := h.first n hn
          rw [hstart] at hfirst
          cases hfirst
        · refine ⟨rfl, by simp, m, rfl, le_rfl, ⟨m, mem_of_maxSerialGlobal hmax, le_rfl⟩, ?_⟩
          simp [received, hprocessed, hinFlight, hnone]
      · rw [hstart] at hplace
        obtain ⟨serial, hrequest, -⟩ := hplace.place
        rw [hserial] at hrequest
        cases hrequest
  · rcases hstart : s.startingPoint with _ | start
    · -- without a starting point there is no serial to ask for
      rw [hstart] at hplace
      unfold requestedSerial received at hserial
      rw [hplace.1] at hserial
      have hfirst := h.first serial (by simpa using hserial)
      rw [hstart] at hfirst
      cases hfirst
    · rw [hstart] at hplace
      obtain ⟨hinFlight, serial', hrequest, hle, hposition, hperm⟩ := hplace
      rw [hserial] at hrequest
      cases hrequest
      rcases hmax : maxSerialGlobal s.journal with _ | m
      · simpa only [AsyncEventStreamFollower.create, hmax] using h
      · by_cases hlt : m < serial
        · simpa only [AsyncEventStreamFollower.create, hmax, hlt, if_true] using h
        · simp only [AsyncEventStreamFollower.create, hmax, hlt, if_false]
          refine ⟨h.increasing, h.messages, fun n hn ↦ ?_, ?_⟩
          · have hfirst := h.first n hn
            rw [hstart] at hfirst
            cases hfirst
            rfl
          · refine ⟨rfl, by simp, serial, rfl, hle,
              ⟨m, mem_of_maxSerialGlobal hmax, not_lt.mp hlt⟩, ?_⟩
            simpa [received, hinFlight] using hperm

/-- With a follower there is a starting point, which no step changes that keeps the follower. -/
theorem Following.connected (h : Following env s) (hfollower : s.follower = some f) :
    ∃ start, s.startingPoint = some start ∧ Connected s start f := by
  have hplace := h.place
  rw [hfollower] at hplace
  rcases hstart : s.startingPoint with _ | start
  · rw [hstart] at hplace
    exact hplace.elim
  · rw [hstart] at hplace
    exact ⟨start, rfl, hplace⟩

theorem Following.of_connected (h : Following env s) {start : Nat} {f' : AsyncEventStreamFollower}
    (hjournal : t.journal = s.journal) (hfirst : t.firstRequest = s.firstRequest)
    (hpoint : t.startingPoint = s.startingPoint) (hstart : s.startingPoint = some start)
    (hfollower : t.follower = some f')
    (hmessages : ∀ message ∈ t.processed ++ t.inFlight, ∃ e ∈ s.journal,
      rpslJournalMessage env e = .ok message)
    (hplace : Connected t start f') : Following env t := by
  refine ⟨hjournal ▸ h.increasing, hjournal ▸ hmessages, ?_, ?_⟩
  · rw [hfirst, hpoint]
    exact h.first
  · rw [hpoint, hstart, hfollower]
    exact hplace

theorem Following.poll (h : Following env s) (hfollower : s.follower = some f)
    (hentries : f.journalEntries = []) :
    Following env { s with follower := some (f.query collation s.journal) } := by
  obtain ⟨start, hstart, hrunning, -, after, hafter, hle, ⟨m, hm, hlast⟩, hperm⟩ :=
    h.connected hfollower
  refine h.of_connected rfl rfl rfl hstart rfl h.messages ?_
  have hquery : f.query collation s.journal =
      { f with journalEntries := serialGlobalRange collation s.journal (after + 1) } := by
    unfold AsyncEventStreamFollower.query
    rw [hafter]
  rw [hquery]
  have hfound := @serialGlobalRange_perm collation s.journal after
  obtain ⟨greatest, hmem, hgreatest⟩ := exists_greatest hm
  simp only [hentries, globalSerials_nil, endPosition_nil, List.nil_append] at hlast hperm
  refine ⟨hrunning, fun e he ↦ mem_serialGlobalRange he, after, hafter, hle,
    ⟨greatest, hmem, ?_⟩, ?_⟩
  · exact endPosition_le_iff.mpr ⟨hlast.trans (hgreatest m hm),
      fun x hx ↦ hgreatest x (mem_itemsAfter.mp (hfound.mem_iff.mp hx)).1⟩
  · rw [itemsAfter_endPosition hfound, List.append_nil]
    exact ((hfound.append_left _).append_left _).trans hperm

theorem serialGlobal_of_message {e : RPSLDatabaseJournal} {message : RPSLJournalMessage}
    (h : rpslJournalMessage env e = .ok message) : message.serialGlobal = e.serialGlobal := by
  unfold rpslJournalMessage at h
  obtain ⟨rpslObj, -, h⟩ := bind_eq_ok_iff.mp h
  cases h
  rfl

theorem Following.send (h : Following env s) (hfollower : s.follower = some f)
    (hkeeps : KeepsPlace env s .send) (hentries : f.journalEntries ≠ []) :
    Following env { s with
      follower := some (f.sendNext env).1
      inFlight := s.inFlight ++ (f.sendNext env).2 } := by
  obtain ⟨start, hstart, hrunning, hjournal, after, hafter, hle, hbound, hperm⟩ :=
    h.connected hfollower
  obtain ⟨e, entries, hcons⟩ := List.exists_cons_of_ne_nil hentries
  rcases hsent : rpslJournalMessage env e with error | message
  · have hread := hkeeps f hfollower e (by simp [hcons])
    rw [hsent] at hread
    cases hread
  · have hserial := serialGlobal_of_message hsent
    have hnext : f.sendNext env = ({ f with
        afterGlobalSerial := some (max e.serialGlobal after)
        journalEntries := entries }, [message]) := by
      unfold AsyncEventStreamFollower.sendNext
      rw [hcons]
      simp [hsent, hafter]
    rw [hnext]
    rw [hcons] at hjournal hbound hperm
    simp only [globalSerials_cons, endPosition_cons, max_comm after] at hbound hperm
    refine h.of_connected rfl rfl rfl hstart rfl (fun other hother ↦ ?_) ?_
    · rcases List.mem_append.mp hother with hother | hother
      · exact h.messages other (List.mem_append_left _ hother)
      · rcases List.mem_append.mp hother with hother | hother
        · exact h.messages other (List.mem_append_right _ hother)
        · rw [List.mem_singleton.mp hother]
          exact ⟨e, hjournal e List.mem_cons_self, hsent⟩
    · refine ⟨hrunning, fun other hother ↦ hjournal other (List.mem_cons_of_mem _ hother),
        max e.serialGlobal after, rfl, hle.trans (le_max_right _ _), hbound, ?_⟩
      simpa [hserial, received] using hperm

theorem Following.process (h : Following env s) {message : RPSLJournalMessage}
    {inFlight : List RPSLJournalMessage} (hcons : s.inFlight = message :: inFlight) :
    Following env { s with inFlight, processed := s.processed ++ [message] } := by
  rcases hfollower : s.follower with _ | f
  · have hplace := h.place
    rw [hfollower] at hplace
    rcases hstart : s.startingPoint with _ | start
    · rw [hstart] at hplace
      rw [hplace.2] at hcons
      cases hcons
    · rw [hstart] at hplace
      rw [hplace.inFlight] at hcons
      cases hcons
  · obtain ⟨start, hstart, hrunning, hjournal, after, hafter, hle, hbound, hperm⟩ :=
      h.connected hfollower
    refine h.of_connected rfl rfl rfl hstart rfl (fun other hother ↦ ?_) ?_
    · apply h.messages
      rw [hcons]
      simpa using hother
    · refine ⟨hrunning, hjournal, after, hafter, hle, hbound, ?_⟩
      rw [hcons] at hperm
      simpa [received] using hperm

/-- A connected client goes on from its starting point, or from an entry after it. -/
theorem Following.requested (h : Following env s) {start : Nat} (hplace : Connected s start f)
    (hstart : s.startingPoint = some start) (hserial : s.requestedSerial = some serial) :
    start ≤ serial ∧
      (serial = start ∨ serial ∈ s.received ∧ serial ∈ globalSerials s.journal) := by
  unfold requestedSerial at hserial
  rcases hlast : s.received.getLast? with _ | last
  · rw [hlast, Option.none_or] at hserial
    have hfirst := h.first serial hserial
    rw [hstart] at hfirst
    cases hfirst
    exact ⟨le_rfl, .inl rfl⟩
  · rw [hlast] at hserial
    cases hserial
    have hmem := List.mem_of_getLast? hlast
    obtain ⟨-, -, after, -, -, -, hperm⟩ := hplace
    have hnewer := mem_itemsAfter.mp (hperm.mem_iff.mp (List.mem_append_left _ hmem))
    exact ⟨hnewer.2.le, .inr ⟨hmem, hnewer.1⟩⟩

/-- A client may go on from a serial just if it separates what was processed from what was not. -/
theorem Following.separates_iff (h : Following env s) (hfollower : s.follower = some f)
    {start : Nat}
    (hstart : s.startingPoint = some start) (hserial : s.requestedSerial = some serial) :
    (s.received ++ itemsAfter serial (globalSerials s.journal)).Perm
        (itemsAfter start (globalSerials s.journal)) ↔
      Separates serial s.received s.underway := by
  obtain ⟨start', hstart', hplace⟩ := h.connected hfollower
  rw [hstart] at hstart'
  cases hstart'
  obtain ⟨hstartLe, hrequested⟩ := h.requested hplace hstart hserial
  obtain ⟨hrunning, hjournal, after, hafter, hle, hbound, hperm⟩ := hplace
  have hnodup : (globalSerials s.journal).Nodup := h.increasing.imp (fun hlt ↦ hlt.ne)
  have hunderway : s.underway = s.inFlight.map RPSLJournalMessage.serialGlobal ++
      globalSerials f.journalEntries := by
    unfold underway
    rw [hfollower]
    rfl
  rw [perm_itemsAfter_iff hnodup hstartLe hperm, ← List.append_assoc, ← hunderway]
  refine ⟨fun hs ↦ ⟨hs.received_le, fun x hx ↦ hs.lt_pending x (List.mem_append_left _ hx)⟩,
    fun hs ↦ ⟨hs.received_le, fun x hx ↦ ?_⟩⟩
  rcases List.mem_append.mp hx with hx | hx
  · exact hs.lt_pending x hx
  · -- the serial is not newer than the query, as what is newer is still to come
    refine lt_of_le_of_lt ?_ (mem_itemsAfter.mp hx).2
    rcases hrequested with rfl | ⟨hmem, hentry⟩
    · exact hle.trans le_endPosition
    · by_contra hlt
      have hlater := mem_itemsAfter.mpr ⟨hentry, not_le.mp hlt⟩
      exact (List.nodup_append.mp (hperm.nodup_iff.mpr (hnodup.filter _))).2.2 serial hmem serial
        (List.mem_append_right _ (List.mem_append_right _ hlater)) rfl

theorem Following.disconnect (h : Following env s) (hfollower : s.follower = some f)
    (hkeeps : KeepsPlace env s .disconnect) : Following env s.disconnect := by
  obtain ⟨start, hstart, hplace⟩ := h.connected hfollower
  refine ⟨h.increasing, fun message hmessage ↦ ?_, ?_, ?_⟩
  · exact h.messages message
      (List.mem_append_left _ (by simpa [EventStream.disconnect] using hmessage))
  · intro n hn
    have hfirst : s.firstRequest = some n := hn
    have hrequested : s.requestedSerial ≠ none := by
      unfold requestedSerial
      simp [hfirst]
    show (if s.requestedSerial = none then none else s.startingPoint) = some n
    rw [if_neg hrequested]
    exact h.first n hn
  · rcases hserial : s.requestedSerial with _ | serial
    · have hprocessed : s.processed = [] := by
        unfold requestedSerial received at hserial
        simpa using (Option.or_eq_none_iff.mp hserial).1
      simpa [EventStream.disconnect, hserial] using hprocessed
    · simp only [EventStream.disconnect, hserial, reduceCtorEq, if_false, hstart]
      obtain ⟨hle, hrequested⟩ := h.requested hplace hstart hserial
      exact ⟨rfl, serial, hserial, hle, hrequested.imp_right (fun hmem ↦ ⟨serial, hmem.2, le_rfl⟩),
        (h.separates_iff hfollower hstart hserial).mpr (hkeeps serial hserial)⟩

theorem Following.step (h : Following env s) {action : EventStreamStep}
    (hkeeps : KeepsPlace env s action) (hstep : s.step collation env action = some t) :
    Following env t := by
  cases action with
  | commit entries =>
    simp only [EventStream.step, Option.ite_none_right_eq_some] at hstep
    obtain ⟨hincreasing, hstep⟩ := hstep
    exact Option.some_inj.mp hstep ▸ h.commit hincreasing
  | subscribe =>
    simp only [EventStream.step, Option.ite_none_right_eq_some, Option.isNone_iff_eq_none] at hstep
    obtain ⟨hfollower, hstep⟩ := hstep
    exact Option.some_inj.mp hstep ▸ h.subscribe hfollower hkeeps
  | poll =>
    rcases hfollower : s.follower with _ | f
    · simp [EventStream.step, hfollower] at hstep
    · simp only [EventStream.step, hfollower, Option.ite_none_right_eq_some] at hstep
      obtain ⟨⟨-, hentries⟩, hstep⟩ := hstep
      exact Option.some_inj.mp hstep ▸ h.poll hfollower hentries
  | send =>
    rcases hfollower : s.follower with _ | f
    · simp [EventStream.step, hfollower] at hstep
    · simp only [EventStream.step, hfollower, Option.ite_none_right_eq_some] at hstep
      obtain ⟨⟨-, hentries⟩, hstep⟩ := hstep
      exact Option.some_inj.mp hstep ▸ h.send hfollower hkeeps hentries
  | process =>
    rcases hinFlight : s.inFlight with _ | ⟨message, inFlight⟩
    · simp [EventStream.step, hinFlight] at hstep
    · simp only [EventStream.step, hinFlight] at hstep
      exact Option.some_inj.mp hstep ▸ h.process hinFlight
  | disconnect =>
    simp only [EventStream.step, Option.ite_none_right_eq_some] at hstep
    obtain ⟨hfollower, hstep⟩ := hstep
    obtain ⟨f, hfollower⟩ := Option.isSome_iff_exists.mp hfollower
    exact Option.some_inj.mp hstep ▸ h.disconnect hfollower hkeeps

end Steps

theorem following_start (firstRequest : Option Nat) : Following env (start firstRequest) := by
  refine ⟨List.Pairwise.nil, fun message h ↦ (by cases h), fun n hn ↦ hn, ?_⟩
  cases firstRequest with
  | none => exact ⟨rfl, rfl⟩
  | some n => exact ⟨rfl, n, rfl, le_rfl, .inl rfl, List.Perm.refl _⟩

theorem Following.deliversOnce (h : Following env s) : DeliversOnce collation env s := by
  refine ⟨fun message hmessage ↦ h.messages message (List.mem_append_left _ hmessage), ?_⟩
  have hplace := h.place
  rcases hfollower : s.follower with _ | f
  · rw [hfollower] at hplace
    rcases hstart : s.startingPoint with _ | start <;> rw [hstart] at hplace
    · have hrequest : s.requestedSerial = none := by
        rcases hfirst : s.firstRequest with _ | n
        · simp [requestedSerial, received, hplace.1, hfirst]
        · have hpoint := h.first n hfirst
          rw [hstart] at hpoint
          cases hpoint
      simp [received, hplace.1, remaining_of_no_request hfollower hrequest]
    · obtain ⟨-, serial, hserial, -, -, hperm⟩ := hplace
      exact ((remaining_of_request hfollower hserial).append_left _).trans hperm
  · obtain ⟨start, hstart, hrunning, -, after, hafter, -, -, hperm⟩ := h.connected hfollower
    rw [hstart]
    dsimp only
    unfold remaining
    rw [hfollower]
    exact (((upcoming_perm hrunning hafter).append_left _).append_left _).trans hperm

/-- Over connections that keep their place, every entry is received exactly once. -/
theorem deliversOnce_of_keepsPlace {firstRequest : Option Nat}
    (h : Reaches (step collation env) (KeepsPlace env) (start firstRequest) s) :
    DeliversOnce collation env s := by
  have hfollowing : Following env s :=
    h.invariant (fun hs hg hstep ↦ hs.step hg hstep) (following_start firstRequest)
  exact hfollowing.deliversOnce

section Examples

/-- A journal entry for a person. -/
def personEntry (source : String) (serialGlobal serialNrtm : Nat) : RPSLDatabaseJournal :=
  ⟨serialGlobal, "P-TEST", source, .authChange, serialNrtm, .addOrUpdate, "person",
    "person: P\nnic-hdl: P-TEST\nsource: " ++ source ++ "\n", 0⟩

/-- The steps of a client that receives and processes one message, and disconnects. -/
def oneMessage : List EventStreamStep := [.subscribe, .poll, .send, .process, .disconnect]

/-- Two entries of one source are received over two connections. -/
theorem deliversOnce_oneSource : ∃ s, s.received = [1, 2] ∧
    DeliversOnce (fun a b ↦ a ≤ b) plainEnvironment s := by
  have hrun : ((.commit [personEntry "A" 1 7, personEntry "A" 2 8] ::
        (oneMessage ++ oneMessage)).foldlM
      (fun s a ↦ if KeepsPlace plainEnvironment s a then
        step (fun a b ↦ a ≤ b) plainEnvironment s a else none) (start (some 0))).map received =
      some [1, 2] := by decide +kernel
  obtain ⟨s, hrun, hreceived⟩ := Option.map_eq_some_iff.mp hrun
  exact ⟨s, hreceived, deliversOnce_of_keepsPlace (Reaches.of_foldlM _ hrun)⟩

/-- A client that disconnects after the entry of one source does not receive the older entry of
another. -/
theorem not_deliversOnce_twoSources : ∃ s,
    Reaches (step (fun a b ↦ a ≤ b) plainEnvironment) (fun _ _ ↦ True) (start (some 0)) s ∧
    s.received = [2] ∧ s.requestedSerial = some 2 ∧ globalSerials s.journal = [1, 2] ∧
    ¬ DeliversOnce (fun a b ↦ a ≤ b) plainEnvironment s := by
  have hrun : ((.commit [personEntry "B" 1 7, personEntry "A" 2 8] :: oneMessage).foldlM
      (fun s a ↦ if True then step (fun a b ↦ a ≤ b) plainEnvironment s a else none)
      (start (some 0))).map (fun s ↦ (s.received, s.requestedSerial, globalSerials s.journal,
        s.startingPoint, s.remaining (fun a b ↦ a ≤ b))) =
      some ([2], some 2, [1, 2], some 0, []) := by decide +kernel
  obtain ⟨s, hrun, hresult⟩ := Option.map_eq_some_iff.mp hrun
  simp only [Prod.mk.injEq] at hresult
  obtain ⟨hreceived, hserial, hjournal, hpoint, hremaining⟩ := hresult
  refine ⟨s, Reaches.of_foldlM _ hrun, hreceived, hserial, hjournal, fun h ↦ ?_⟩
  have honce := h.once
  rw [hpoint, hreceived, hremaining, hjournal] at honce
  exact absurd honce.length_eq (by decide)

end Examples

end EventStream

end Irrd.Server
