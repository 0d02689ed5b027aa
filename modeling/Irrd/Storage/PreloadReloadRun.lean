import Mathlib.Algebra.Ring.Nat
import Mathlib.Data.List.Basic
import Irrd.Storage.PreloadReload

/-!
# Runs of reloads

Every request to reload the store is answered, as long as `perform_reload` leaves it to threads that
are yet to read the database.
-/

namespace Irrd.Storage

open Irrd.Base

variable {t : PreloadUpdater} {id : Nat} {k : PreloadKind} {newer events : List ReloadEvent}
  {stage : UpdaterStage}

section Threads

/-- What a step of a thread may do. -/
inductive PreloadUpdater.Moves (t : PreloadUpdater) (id : Nat) :
    UpdaterStage → List ReloadEvent → Prop
  | acquire (h : t.stage = .waiting) : Moves t id (.test .routes) []
  | testSet {k : PreloadKind} (h : t.stage = .test k) (hflag : t.flags k = true) :
      Moves t id (.read k) []
  | testUnset {k : PreloadKind} (h : t.stage = .test k) (hflag : t.flags k = false) :
      Moves t id (.after k) []
  | read {k : PreloadKind} (h : t.stage = .read k) : Moves t id (.store k) [.read id k]
  | store {k : PreloadKind} (h : t.stage = .store k) : Moves t id (.after k) [.store id k]
  | signal (h : t.stage = .signal) : Moves t id .release [.signal id]
  | release (h : t.stage = .release) : Moves t id .released []
  | die (h : t.stage = .released) : Moves t id .dead []

theorem threadStep_cases {s s' : PreloadStoreManager} (h : s.threadStep id = some s') :
    ∃ t stage events, s.threads[id]? = some t ∧ t.Moves id stage events ∧
      s' = s.moveThread id stage events := by
  obtain ⟨t, ht, h⟩ := Option.bind_eq_some_iff.mp h
  refine ⟨t, ?_⟩
  cases hstage : t.stage with
  | waiting =>
    simp only [hstage, Option.ite_none_right_eq_some, Option.some.injEq] at h
    exact ⟨_, _, ht, .acquire hstage, h.2.symm⟩
  | test k =>
    simp only [hstage, Option.some.injEq] at h
    cases hflag : t.flags k with
    | true =>
      rw [if_pos hflag] at h
      exact ⟨_, _, ht, .testSet hstage hflag, h.symm⟩
    | false =>
      rw [if_neg (by simp [hflag])] at h
      exact ⟨_, _, ht, .testUnset hstage hflag, h.symm⟩
  | read k =>
    simp only [hstage, Option.some.injEq] at h
    exact ⟨_, _, ht, .read hstage, h.symm⟩
  | store k =>
    simp only [hstage, Option.some.injEq] at h
    exact ⟨_, _, ht, .store hstage, h.symm⟩
  | signal =>
    simp only [hstage, Option.some.injEq] at h
    exact ⟨_, _, ht, .signal hstage, h.symm⟩
  | release =>
    simp only [hstage, Option.some.injEq] at h
    exact ⟨_, _, ht, .release hstage, h.symm⟩
  | released =>
    simp only [hstage, Option.some.injEq] at h
    exact ⟨_, _, ht, .die hstage, h.symm⟩
  | dead => simp [hstage] at h

@[simp] theorem rank_after (k : PreloadKind) :
    (UpdaterStage.after k).rank = 3 * k.index + 4 := by
  cases k <;> rfl

theorem index_le (k : PreloadKind) : k.index ≤ 2 := by cases k <;> decide

theorem index_inj {k k' : PreloadKind} (h : k.index = k'.index) : k = k' := by
  revert h
  cases k <;> cases k' <;> decide

/-- A thread has read the data of a kind, and is to store it or to notify the workers. -/
def PreloadUpdater.Publishing (t : PreloadUpdater) (id : Nat) (k : PreloadKind)
    (newer : List ReloadEvent) : Prop :=
  t.stage.rank = 3 * k.index + 3 ∧ List.Sublist [.read id k] newer ∨
    3 * k.index + 4 ≤ t.stage.rank ∧ t.stage.rank ≤ 10 ∧
      List.Sublist [.store id k, .read id k] newer

/-- A thread reads the data of a kind, or is publishing what it has read. -/
def PreloadUpdater.Promises (t : PreloadUpdater) (id : Nat) (k : PreloadKind)
    (newer : List ReloadEvent) : Prop :=
  t.stage.rank ≤ 3 * k.index + 1 ∧ t.flags k = true ∨ t.stage.rank = 3 * k.index + 2 ∨
    t.Publishing id k newer

theorem PreloadUpdater.Publishing.mono {more : List ReloadEvent} (h : t.Publishing id k newer)
    (hsub : newer.Sublist more) : t.Publishing id k more :=
  h.imp (fun h ↦ ⟨h.1, h.2.trans hsub⟩) (fun h ↦ ⟨h.1, h.2.1, h.2.2.trans hsub⟩)

theorem Answered.mono {more : List ReloadEvent} (h : Answered newer k) (hsub : newer.Sublist more) :
    Answered more k := by
  obtain ⟨id, hid⟩ := h
  exact ⟨id, hid.trans hsub⟩

/-- What a thread is publishing stays so, or is published. -/
theorem PreloadUpdater.Publishing.move (h : t.Publishing id k newer)
    (hmove : t.Moves id stage events) :
    Answered (events ++ newer) k ∨
      PreloadUpdater.Publishing { t with stage } id k (events ++ newer) := by
  have hindex := index_le k
  unfold PreloadUpdater.Publishing at h ⊢
  cases hmove with
  | acquire hstage =>
    rw [hstage] at h
    simp only [UpdaterStage.rank] at h
    omega
  | @testSet k' hstage hflag =>
    rw [hstage] at h
    simp only [UpdaterStage.rank] at h
    have hindex' := index_le k'
    rcases h with ⟨hrank, -⟩ | ⟨hlow, hhigh, hsub⟩
    · omega
    · refine .inr (.inr ⟨?_, ?_, hsub⟩) <;> simp only [UpdaterStage.rank] <;> omega
  | @testUnset k' hstage hflag =>
    rw [hstage] at h
    simp only [UpdaterStage.rank] at h
    have hindex' := index_le k'
    rcases h with ⟨hrank, -⟩ | ⟨hlow, hhigh, hsub⟩
    · omega
    · refine .inr (.inr ⟨?_, ?_, hsub⟩) <;> simp only [rank_after] <;> omega
  | @read k' hstage =>
    rw [hstage] at h
    simp only [UpdaterStage.rank] at h
    have hindex' := index_le k'
    rcases h with ⟨hrank, -⟩ | ⟨hlow, hhigh, hsub⟩
    · omega
    · refine .inr (.inr ⟨?_, ?_, hsub.trans (List.sublist_cons_self _ _)⟩) <;>
        simp only [UpdaterStage.rank] <;> omega
  | @store k' hstage =>
    rw [hstage] at h
    simp only [UpdaterStage.rank] at h
    have hindex' := index_le k'
    rcases h with ⟨hrank, hsub⟩ | ⟨hlow, hhigh, hsub⟩
    · obtain rfl := index_inj (show k'.index = k.index by omega)
      refine .inr (.inr ⟨?_, ?_, hsub.cons_cons _⟩) <;> simp only [rank_after] <;> omega
    · refine .inr (.inr ⟨?_, ?_, hsub.trans (List.sublist_cons_self _ _)⟩) <;>
        simp only [rank_after] <;> omega
  | signal hstage =>
    rw [hstage] at h
    simp only [UpdaterStage.rank] at h
    rcases h with ⟨hrank, -⟩ | ⟨hlow, hhigh, hsub⟩
    · omega
    · exact .inl ⟨id, hsub.cons_cons _⟩
  | release hstage =>
    rw [hstage] at h
    simp only [UpdaterStage.rank] at h
    omega
  | die hstage =>
    rw [hstage] at h
    simp only [UpdaterStage.rank] at h
    omega

/-- What a thread promises it keeps promising, or has done. -/
theorem PreloadUpdater.Promises.move (h : t.Promises id k newer)
    (hmove : t.Moves id stage events) :
    Answered (events ++ newer) k ∨
      PreloadUpdater.Promises { t with stage } id k (events ++ newer) := by
  have hindex := index_le k
  rcases h with ⟨hrank, hflag⟩ | hrank | hpublishing
  · unfold PreloadUpdater.Promises
    cases hmove with
    | acquire hstage => exact .inr (.inl ⟨by simp [UpdaterStage.rank, PreloadKind.index], hflag⟩)
    | @testSet k' hstage hflag' =>
      rw [hstage] at hrank
      simp only [UpdaterStage.rank] at hrank ⊢
      by_cases hsame : k'.index = k.index
      · exact .inr (.inr (.inl (by omega)))
      · exact .inr (.inl ⟨by omega, hflag⟩)
    | @testUnset k' hstage hflag' =>
      rw [hstage] at hrank
      simp only [UpdaterStage.rank] at hrank
      rw [rank_after]
      have hne : k'.index ≠ k.index := by
        intro hsame
        rw [index_inj hsame, hflag] at hflag'
        cases hflag'
      exact .inr (.inl ⟨by omega, hflag⟩)
    | @read k' hstage =>
      rw [hstage] at hrank
      simp only [UpdaterStage.rank] at hrank ⊢
      exact .inr (.inl ⟨by omega, hflag⟩)
    | @store k' hstage =>
      rw [hstage] at hrank
      simp only [UpdaterStage.rank] at hrank
      rw [rank_after]
      exact .inr (.inl ⟨by omega, hflag⟩)
    | signal hstage =>
      rw [hstage] at hrank
      simp only [UpdaterStage.rank] at hrank
      omega
    | release hstage =>
      rw [hstage] at hrank
      simp only [UpdaterStage.rank] at hrank
      omega
    | die hstage =>
      rw [hstage] at hrank
      simp only [UpdaterStage.rank] at hrank
      omega
  · -- at this rank the thread is about to read the data of the kind
    cases hmove with
    | @read k' hstage =>
      rw [hstage] at hrank
      simp only [UpdaterStage.rank] at hrank
      obtain rfl := index_inj (show k'.index = k.index by omega)
      exact .inr (.inr (.inr (.inl ⟨rfl, List.singleton_sublist.mpr List.mem_cons_self⟩)))
    | _ hstage =>
      rw [hstage] at hrank
      simp only [UpdaterStage.rank] at hrank
      omega
  · exact (hpublishing.move hmove).imp_right (fun h ↦ .inr (.inr h))

end Threads

/-- The kinds of data that the call in progress concerns. -/
def ManagerStage.kinds : ManagerStage → List PreloadKind
  | .idle => []
  | .flagging kinds _ => kinds
  | .removing kinds _ => kinds

namespace PreloadStoreManager

variable {s s' : PreloadStoreManager} {message : String} {kinds : List PreloadKind}

/-- The flags of the listed threads are set, other than those that are still to be. -/
def Flagged (s : PreloadStoreManager) (pending : List (Nat × PreloadKind))
    (kinds : List PreloadKind) : Prop :=
  ∀ id ∈ s.listed, ∀ k ∈ kinds, (id, k) ∈ pending ∨ ∀ t ∈ s.threads[id]?, t.flags k = true

/-- What holds in every state: flags are set as the manager has said, what a thread has read it is
publishing, and every request is answered, promised by a thread, or in progress. -/
structure Reloading (s : PreloadStoreManager) : Prop where
  listed : ∀ id ∈ s.listed, id < s.threads.length
  flags : match s.stage with
    | .idle => True
    | .flagging kinds pending => s.Flagged pending kinds
    | .removing kinds _ => s.Flagged [] kinds
  publishing : ∀ newer older, s.events = newer ++ older → ∀ id k, .read id k ∈ newer →
    Answered newer k ∨ ∃ t ∈ s.threads[id]?, PreloadUpdater.Publishing t id k newer
  promised : ∀ newer kinds older, s.events = newer ++ .request kinds :: older → ∀ k ∈ kinds,
    Answered newer k ∨ (∃ id, ∃ t ∈ s.threads[id]?, PreloadUpdater.Promises t id k newer) ∨
      k ∈ s.stage.kinds

theorem reloading_start : start.Reloading := by
  refine ⟨fun id h ↦ (by cases h), trivial, fun newer older h id k hread ↦ ?_,
    fun newer kinds older h ↦ ?_⟩
  · rw [(List.append_eq_nil_iff.mp h.symm).1] at hread
    cases hread
  · cases (List.append_eq_nil_iff.mp h.symm).2

section Threads

theorem getElem?_moveThread (id id' : Nat) (stage : UpdaterStage) (events : List ReloadEvent) :
    (s.moveThread id stage events).threads[id']? =
      if id = id' then s.threads[id']?.map (fun t ↦ { t with stage }) else s.threads[id']? := by
  unfold moveThread
  rw [List.getElem?_modify]
  split
  · rfl
  · simp

/-- The events before a step are those after it, less those of the step. -/
theorem split_of_moves (hmove : t.Moves id stage events) {log older : List ReloadEvent}
    (h : events ++ log = newer ++ older) :
    newer = [] ∧ events ≠ [] ∨ ∃ newer', newer = events ++ newer' ∧ log = newer' ++ older := by
  have hlength : events = [] ∨ ∃ e, events = [e] := by
    cases hmove <;> first | exact .inl rfl | exact .inr ⟨_, rfl⟩
  rcases hlength with rfl | ⟨e, rfl⟩
  · exact .inr ⟨newer, rfl, h⟩
  · rcases List.cons_eq_append_iff.mp h with ⟨hnil, -⟩ | ⟨newer', hnewer, hlog⟩
    · exact .inl ⟨hnil, by simp⟩
    · exact .inr ⟨newer', hnewer, hlog⟩

theorem not_request_of_moves (hmove : t.Moves id stage events) :
    .request kinds ∉ events := by
  cases hmove <;> simp

/-- A thread only reads to publish. -/
theorem publishing_of_moves (hmove : t.Moves id stage events) (newer : List ReloadEvent)
    {id' : Nat}
    (hread : .read id' k ∈ events) :
    id' = id ∧ PreloadUpdater.Publishing { t with stage } id k (events ++ newer) := by
  cases hmove with
  | @read k' hstage =>
    simp only [List.mem_singleton, ReloadEvent.read.injEq] at hread
    obtain ⟨rfl, rfl⟩ := hread
    exact ⟨rfl, .inl ⟨rfl, List.singleton_sublist.mpr List.mem_cons_self⟩⟩
  | _ => simp at hread

theorem Reloading.moveThread (h : s.Reloading) (ht : s.threads[id]? = some t)
    (hmove : t.Moves id stage events) : (s.moveThread id stage events).Reloading := by
  have hself : (s.moveThread id stage events).threads[id]? = some { t with stage } := by
    rw [getElem?_moveThread, if_pos rfl, ht]
    rfl
  have hother {id' : Nat} (hne : id ≠ id') :
      (s.moveThread id stage events).threads[id']? = s.threads[id']? := by
    rw [getElem?_moveThread, if_neg hne]
  have hflagged {pending : List (Nat × PreloadKind)} {kinds : List PreloadKind}
      (hflags : s.Flagged pending kinds) :
      (s.moveThread id stage events).Flagged pending kinds := by
    refine fun id' hid' k hk ↦ (hflags id' hid' k hk).imp_right (fun hset t' ht' ↦ ?_)
    by_cases hid : id = id'
    · subst hid
      rw [hself] at ht'
      cases ht'
      exact hset t ht
    · rw [hother hid] at ht'
      exact hset t' ht'
  refine ⟨fun id' hid' ↦ ?_, ?_, fun newer older hevents id' k hread ↦ ?_,
    fun newer kinds older hevents k hk ↦ ?_⟩
  · show id' < (s.threads.modify id _).length
    rw [List.length_modify]
    exact h.listed id' hid'
  · have hflags := h.flags
    show match s.stage with
      | .idle => True
      | .flagging kinds pending => (s.moveThread id stage events).Flagged pending kinds
      | .removing kinds _ => (s.moveThread id stage events).Flagged [] kinds
    cases hstage : s.stage <;> rw [hstage] at hflags
    · trivial
    · exact hflagged hflags
    · exact hflagged hflags
  · rcases split_of_moves hmove hevents with ⟨rfl, -⟩ | ⟨newer', rfl, hlog⟩
    · cases hread
    rcases List.mem_append.mp hread with hread | hread
    · obtain ⟨rfl, hpublishing⟩ := publishing_of_moves hmove newer' hread
      exact .inr ⟨_, hself, hpublishing⟩
    · rcases h.publishing newer' older hlog id' k hread with hanswered | ⟨t', ht', hpublishing⟩
      · exact .inl (hanswered.mono (List.sublist_append_right _ _))
      · by_cases hid : id = id'
        · subst hid
          rw [ht] at ht'
          cases ht'
          exact (hpublishing.move hmove).imp_right (fun hp ↦ ⟨_, hself, hp⟩)
        · exact .inr ⟨t', (hother hid).trans ht', hpublishing.mono (List.sublist_append_right _ _)⟩
  · rcases split_of_moves hmove hevents with ⟨rfl, hne⟩ | ⟨newer', rfl, hlog⟩
    · obtain ⟨e, rest, rfl⟩ := List.exists_cons_of_ne_nil hne
      have hfirst : e = .request kinds := (List.cons.inj hevents).1
      subst hfirst
      exact absurd List.mem_cons_self (not_request_of_moves hmove)
    · rcases h.promised newer' kinds older hlog k hk with
        hanswered | ⟨id', t', ht', hpromise⟩ | hbusy
      · exact .inl (hanswered.mono (List.sublist_append_right _ _))
      · by_cases hid : id = id'
        · subst hid
          rw [ht] at ht'
          cases ht'
          exact (hpromise.move hmove).imp_right (fun hp ↦ .inl ⟨id, _, hself, hp⟩)
        · refine .inr (.inl ⟨id', t', (hother hid).trans ht', ?_⟩)
          exact hpromise.imp_right (fun hp ↦ hp.imp_right
            (fun hp ↦ hp.mono (List.sublist_append_right _ _)))
      · exact .inr (.inr hbusy)

end Threads

section Manager

/-- What threads promise is kept by a manager that sets flags and starts threads. -/
theorem Reloading.of_threads (h : s.Reloading) (hevents : s'.events = s.events)
    (hlisted : ∀ id ∈ s'.listed, id < s'.threads.length)
    (hflags : match s'.stage with
      | .idle => True
      | .flagging kinds pending => s'.Flagged pending kinds
      | .removing kinds _ => s'.Flagged [] kinds)
    (hthreads : ∀ (id : Nat) (t : PreloadUpdater), s.threads[id]? = some t → ∃ t' : PreloadUpdater,
      s'.threads[id]? = some t' ∧ t'.stage = t.stage ∧ ∀ k, t.flags k = true → t'.flags k = true)
    (hkinds : ∀ k ∈ s.stage.kinds, k ∈ s'.stage.kinds ∨
      ∀ newer kinds older, s.events = newer ++ .request kinds :: older → Answered newer k ∨
        ∃ id, ∃ t ∈ s'.threads[id]?, PreloadUpdater.Promises t id k newer) : s'.Reloading := by
  have hpublishing {id : Nat} {t t' : PreloadUpdater} {k : PreloadKind} {newer : List ReloadEvent}
      (hstage : t'.stage = t.stage) (hp : t.Publishing id k newer) : t'.Publishing id k newer := by
    unfold PreloadUpdater.Publishing at hp ⊢
    rwa [hstage]
  refine ⟨hlisted, hflags, fun newer older hsplit id k hread ↦ ?_,
    fun newer kinds older hsplit k hk ↦ ?_⟩
  · rw [hevents] at hsplit
    rcases h.publishing newer older hsplit id k hread with hanswered | ⟨t, ht, hp⟩
    · exact .inl hanswered
    · obtain ⟨t', ht', hstage, -⟩ := hthreads id t ht
      exact .inr ⟨t', ht', hpublishing hstage hp⟩
  · rw [hevents] at hsplit
    rcases h.promised newer kinds older hsplit k hk with hanswered | ⟨id, t, ht, hp⟩ | hbusy
    · exact .inl hanswered
    · obtain ⟨t', ht', hstage, hset⟩ := hthreads id t ht
      refine .inr (.inl ⟨id, t', ht', ?_⟩)
      unfold PreloadUpdater.Promises at hp ⊢
      rw [hstage]
      exact hp.imp (fun hp ↦ ⟨hp.1, hset k hp.2⟩) (fun hp ↦ hp.imp_right (hpublishing hstage))
    · rcases hkinds k hbusy with hbusy | hdone
      · exact .inr (.inr hbusy)
      · exact (hdone newer kinds older hsplit).imp_right .inl

theorem Reloading.setFlag (h : s.Reloading) {pending : List (Nat × PreloadKind)}
    (hstage : s.stage = .flagging kinds ((id, k) :: pending)) :
    Reloading { s with
      threads := s.threads.modify id (fun t ↦ { t with flags := Function.update t.flags k true })
      stage := .flagging kinds pending } := by
  have hflags := h.flags
  rw [hstage] at hflags
  refine h.of_threads rfl (fun id' hid' ↦ ?_) (fun id' hid' k' hk' ↦ ?_) (fun id' t ht ↦ ?_)
    (fun k' hk' ↦ ?_)
  · show id' < (s.threads.modify id _).length
    rw [List.length_modify]
    exact h.listed id' hid'
  · -- the flag is one that was pending, or was set already
    rcases hflags id' hid' k' hk' with hpending | hset
    · rcases List.mem_cons.mp hpending with hsame | hpending
      · cases hsame
        refine .inr (fun t ht ↦ ?_)
        simp only [List.getElem?_modify, if_pos, Option.mem_def, Option.map_eq_map,
          Option.map_eq_some_iff] at ht
        obtain ⟨t', -, rfl⟩ := ht
        simp
      · exact .inl hpending
    · refine .inr (fun t ht ↦ ?_)
      simp only [List.getElem?_modify, Option.mem_def, Option.map_eq_map,
        Option.map_eq_some_iff] at ht
      obtain ⟨t', ht', rfl⟩ := ht
      have hflag := hset t' ht'
      split
      · simp only [Function.update_apply]
        split
        · rfl
        · exact hflag
      · exact hflag
  · simp only [List.getElem?_modify, Option.map_eq_map, Option.map_eq_some_iff]
    refine ⟨_, ⟨t, ht, rfl⟩, ?_, fun k' hset ↦ ?_⟩
    · split <;> rfl
    · split
      · simp only [Function.update_apply]
        split
        · rfl
        · exact hset
      · exact hset
  · rw [hstage] at hk'
    exact .inl hk'

theorem Reloading.startRemoving (h : s.Reloading) (hstage : s.stage = .flagging kinds []) :
    Reloading { s with stage := .removing kinds 0 } := by
  have hflags := h.flags
  rw [hstage] at hflags
  refine h.of_threads rfl h.listed hflags (fun id t ht ↦ ⟨t, ht, rfl, fun _ h ↦ h⟩) (fun k hk ↦ ?_)
  rw [hstage] at hk
  exact .inl hk

theorem Reloading.removeDead (h : s.Reloading) {position : Nat}
    (hstage : s.stage = .removing kinds position) (id : Nat) :
    Reloading { s with
      listed := if s.isAlive id then s.listed else s.listed.erase id
      stage := .removing kinds (position + 1) } := by
  have hflags := h.flags
  rw [hstage] at hflags
  have hsub : ∀ id' ∈ (if s.isAlive id then s.listed else s.listed.erase id), id' ∈ s.listed := by
    intro id' hid'
    split at hid'
    · exact hid'
    · exact List.mem_of_mem_erase hid'
  refine h.of_threads rfl (fun id' hid' ↦ h.listed id' (hsub id' hid'))
    (fun id' hid' k hk ↦ hflags id' (hsub id' hid') k hk) (fun id t ht ↦ ⟨t, ht, rfl, fun _ h ↦ h⟩)
    (fun k hk ↦ ?_)
  rw [hstage] at hk
  exact .inl hk

theorem Reloading.startThread (h : s.Reloading) {position : Nat}
    (hstage : s.stage = .removing kinds position) : (s.startThread kinds).Reloading := by
  refine h.of_threads rfl (fun id hid ↦ ?_) trivial (fun id t ht ↦ ?_) (fun k hk ↦ ?_)
  · show id < (s.threads ++ [_]).length
    rw [List.length_append, List.length_singleton]
    rcases List.mem_append.mp hid with hid | hid
    · exact Nat.lt_succ_of_lt (h.listed id hid)
    · rw [List.mem_singleton.mp hid]
      exact Nat.lt_succ_self _
  · refine ⟨t, ?_, rfl, fun _ h ↦ h⟩
    obtain ⟨hlt, -⟩ := List.getElem?_eq_some_iff.mp ht
    exact (List.getElem?_append_left hlt).trans ht
  · rw [hstage] at hk
    refine .inr (fun newer _ older _ ↦ .inr ⟨s.threads.length, ⟨.waiting, (· ∈ kinds)⟩, ?_, ?_⟩)
    · exact List.getElem?_concat_length
    · exact .inl ⟨Nat.zero_le _, decide_eq_true hk⟩

/-- What happened since the last request happened since any of them. -/
theorem sinceRequest_prefix {newer older : List ReloadEvent}
    (h : s.events = newer ++ .request kinds :: older) : s.sinceRequest <+: newer := by
  unfold sinceRequest
  rw [h, List.takeWhile_append]
  split
  · next hall =>
    rw [List.takeWhile_cons_of_neg (by simp)]
    exact (List.append_nil newer).symm ▸ List.prefix_refl newer
  · exact List.takeWhile_prefix _

theorem Reloading.leave (h : s.Reloading) {position : Nat}
    (hstage : s.stage = .removing kinds position)
    (hreaders : ∀ k ∈ kinds, (∃ id ∈ s.listed, s.IsYetToRead id k) ∨
      ∃ e ∈ s.sinceRequest, e.reads k = true) : Reloading { s with stage := .idle } := by
  have hflags := h.flags
  rw [hstage] at hflags
  refine h.of_threads rfl h.listed trivial (fun id t ht ↦ ⟨t, ht, rfl, fun _ h ↦ h⟩) (fun k hk ↦ ?_)
  rw [hstage] at hk
  refine .inr (fun newer _ older hsplit ↦ ?_)
  rcases hreaders k hk with ⟨id, hid, t, ht, hrank⟩ | ⟨e, hread, hkind⟩
  · have hflag : t.flags k = true := by
      rcases hflags id hid k hk with hnil | hset
      · cases hnil
      · exact hset t ht
    refine .inr ⟨id, t, ht, ?_⟩
    rcases Nat.lt_or_eq_of_le hrank with hlt | heq
    · exact .inl ⟨Nat.le_of_lt_succ hlt, hflag⟩
    · exact .inr (.inl heq)
  · obtain ⟨id, rfl⟩ : ∃ id, e = .read id k := by
      cases e with
      | read id k' => exact ⟨id, by simpa [ReloadEvent.reads] using hkind⟩
      | _ => cases hkind
    have hprefix := sinceRequest_prefix hsplit
    obtain ⟨rest, hrest⟩ : s.sinceRequest <+: s.events := List.takeWhile_prefix _
    rcases h.publishing s.sinceRequest rest hrest.symm id k hread with hanswered | ⟨t, ht, hp⟩
    · exact .inl (hanswered.mono hprefix.sublist)
    · exact .inr ⟨id, t, ht, .inr (.inr (hp.mono hprefix.sublist))⟩

theorem Reloading.performReload (h : s.Reloading) (hidle : s.stage = .idle) (message : String) :
    (s.performReload message).Reloading := by
  unfold PreloadStoreManager.performReload
  dsimp only
  split
  · exact h
  · refine ⟨h.listed, fun id hid k hk ↦ .inl ?_, fun newer older hsplit id k hread ↦ ?_,
      fun newer kinds older hsplit k hk ↦ ?_⟩
    · exact List.mem_flatMap.mpr ⟨id, hid, List.mem_map_of_mem hk⟩
    · rcases List.cons_eq_append_iff.mp hsplit with ⟨rfl, -⟩ | ⟨newer', rfl, hevents⟩
      · cases hread
      · rcases h.publishing newer' older hevents id k (by simpa using hread) with
          hanswered | ⟨t, ht, hp⟩
        · exact .inl (hanswered.mono (List.sublist_cons_self _ _))
        · exact .inr ⟨t, ht, hp.mono (List.sublist_cons_self _ _)⟩
    · rcases List.cons_eq_append_iff.mp hsplit with ⟨rfl, hfirst⟩ | ⟨newer', rfl, hevents⟩
      · cases hfirst
        exact .inr (.inr hk)
      · rcases h.promised newer' kinds older hevents k hk with hanswered | ⟨id, t, ht, hp⟩ | hbusy
        · exact .inl (hanswered.mono (List.sublist_cons_self _ _))
        · refine .inr (.inl ⟨id, t, ht, hp.imp_right (fun hp ↦ hp.imp_right (fun hp ↦ ?_))⟩)
          exact hp.mono (List.sublist_cons_self _ _)
        · rw [hidle] at hbusy
          cases hbusy

end Manager

theorem Reloading.step (h : s.Reloading) {action : ReloadStep} (hleaves : s.LeavesToReaders action)
    (hstep : s.step action = some s') : s'.Reloading := by
  cases action with
  | performReload message =>
    simp only [PreloadStoreManager.step, Option.ite_none_right_eq_some, Option.some.injEq] at hstep
    exact hstep.2 ▸ h.performReload hstep.1 message
  | thread id =>
    obtain ⟨t, stage, events, ht, hmove, rfl⟩ := threadStep_cases hstep
    exact h.moveThread ht hmove
  | manager =>
    simp only [PreloadStoreManager.step, managerStep] at hstep
    unfold LeavesToReaders at hleaves
    cases hstage : s.stage with
    | idle => simp [hstage] at hstep
    | flagging kinds pending =>
      simp only [hstage] at hstep
      cases pending with
      | nil => exact Option.some_inj.mp hstep ▸ h.startRemoving hstage
      | cons first pending =>
        obtain ⟨id, k⟩ := first
        exact Option.some_inj.mp hstep ▸ h.setFlag hstage
    | removing kinds position =>
      simp only [hstage] at hstep hleaves
      rcases hlisted : s.listed[position]? with _ | id
      · simp only [hlisted, Option.some.injEq] at hstep
        subst hstep
        split
        · next hmany =>
          exact h.leave hstage (hleaves (List.getElem?_eq_none_iff.mp hlisted) hmany)
        · exact h.startThread hstage
      · simp only [hlisted, Option.some.injEq] at hstep
        exact hstep ▸ h.removeDead hstage id

section Progress

/-- The stages that the threads have still to go through. -/
def stagesLeft (s : PreloadStoreManager) : Nat :=
  (s.threads.map (fun t ↦ 13 - t.stage.rank)).sum

theorem sum_map_modify {A : Type} (f : A → A) (measure : A → Nat) {items : List A} {i : Nat} {a : A}
    (h : items[i]? = some a) :
    ((items.modify i f).map measure).sum + measure a = (items.map measure).sum + measure (f a) := by
  induction items generalizing i with
  | nil => cases h
  | cons item items ih =>
    cases i with
    | zero =>
      cases h
      simp only [List.modify_zero_cons, List.map_cons, List.sum_cons]
      omega
    | succ i =>
      have hrest := ih (by simpa using h)
      simp only [List.modify_succ_cons, List.map_cons, List.sum_cons]
      omega

theorem rank_lt_of_moves (hmove : t.Moves id stage events) :
    t.stage.rank < stage.rank ∧ stage.rank ≤ 13 := by
  cases hmove with
  | @testSet k h hflag | @read k h =>
    have hindex := index_le k
    rw [h]
    simp only [UpdaterStage.rank]
    omega
  | @testUnset k h hflag | @store k h =>
    have hindex := index_le k
    rw [h, rank_after]
    simp only [UpdaterStage.rank]
    omega
  | acquire h | signal h | release h | die h => simp [h, UpdaterStage.rank, PreloadKind.index]

/-- A thread goes on, unless all are dead. -/
theorem exists_threadStep (halive : ∃ t ∈ s.threads, t.stage ≠ .dead) :
    ∃ id s', s.threadStep id = some s' := by
  have hstep {t : PreloadUpdater} (ht : t ∈ s.threads) (hdead : t.stage ≠ .dead)
      (hlock : t.stage = .waiting → s.lockFree = true) : ∃ id s', s.threadStep id = some s' := by
    obtain ⟨id, hid⟩ := List.mem_iff_getElem?.mp ht
    refine ⟨id, ?_⟩
    unfold threadStep
    rw [hid]
    cases hstage : t.stage with
    | waiting => simp [hstage, hlock hstage]
    | dead => exact absurd hstage hdead
    | _ => simp [hstage]
  by_cases hlocked : ∃ t ∈ s.threads, t.stage.holdsLock = true
  · obtain ⟨t, ht, hholds⟩ := hlocked
    refine hstep ht (fun hdead ↦ ?_) (fun hwaiting ↦ ?_)
    · rw [hdead] at hholds
      cases hholds
    · rw [hwaiting] at hholds
      cases hholds
  · obtain ⟨t, ht, hdead⟩ := halive
    refine hstep ht hdead (fun _ ↦ ?_)
    unfold lockFree
    exact List.all_eq_true.mpr (fun t ht ↦ by
      simpa using fun hholds ↦ hlocked ⟨t, ht, hholds⟩)

theorem stagesLeft_threadStep (h : s.threadStep id = some s') :
    s'.stagesLeft < s.stagesLeft ∧ s'.stage = s.stage := by
  obtain ⟨t, stage, events, ht, hmove, rfl⟩ := threadStep_cases h
  have hrank := rank_lt_of_moves hmove
  have hsum := sum_map_modify (fun t : PreloadUpdater ↦ { t with stage })
    (fun t ↦ 13 - t.stage.rank) ht
  refine ⟨?_, rfl⟩
  show ((s.threads.modify id (fun t ↦ { t with stage })).map _).sum < _
  unfold stagesLeft
  dsimp only at hsum
  omega

/-- `perform_reload` ends. -/
theorem exists_idle (s : PreloadStoreManager) :
    ∃ s', Reaches step (fun _ a ↦ a.Continues) s s' ∧ s'.stage = .idle := by
  have hremoving (n : Nat) {s : PreloadStoreManager} {kinds : List PreloadKind} {position : Nat}
      (hstage : s.stage = .removing kinds position) (hn : s.listed.length - position = n) :
      ∃ s', Reaches step (fun _ a ↦ a.Continues) s s' ∧ s'.stage = .idle := by
    induction n using Nat.strongRecOn generalizing s position with
    | ind n ih =>
      rcases hlisted : s.listed[position]? with _ | id
      · have hstep : s.step .manager = some
            (if 1 < s.listed.length then { s with stage := .idle } else s.startThread kinds) := by
          simp [PreloadStoreManager.step, managerStep, hstage, hlisted]
        refine ⟨_, (Reaches.refl s).tail (a := .manager) trivial hstep, ?_⟩
        split <;> rfl
      · have hstep : s.step .manager = some { s with
            listed := if s.isAlive id then s.listed else s.listed.erase id
            stage := .removing kinds (position + 1) } := by
          simp [PreloadStoreManager.step, managerStep, hstage, hlisted]
        have hlt : position < s.listed.length := (List.getElem?_eq_some_iff.mp hlisted).1
        have hlength : (if s.isAlive id then s.listed else s.listed.erase id).length ≤
            s.listed.length := by
          split
          · exact le_refl _
          · exact List.length_erase_le
        obtain ⟨s', hreaches, hidle⟩ := ih
          ((if s.isAlive id then s.listed else s.listed.erase id).length - (position + 1))
            (by omega)
          (s := { s with
            listed := if s.isAlive id then s.listed else s.listed.erase id
            stage := .removing kinds (position + 1) }) rfl rfl
        exact ⟨s', ((Reaches.refl s).tail (a := .manager) trivial hstep).trans hreaches, hidle⟩
  have hflagging (pending : List (Nat × PreloadKind)) {s : PreloadStoreManager}
      {kinds : List PreloadKind} (hstage : s.stage = .flagging kinds pending) :
      ∃ s', Reaches step (fun _ a ↦ a.Continues) s s' ∧ s'.stage = .idle := by
    induction pending generalizing s with
    | nil =>
      have hstep : s.step .manager = some { s with stage := .removing kinds 0 } := by
        simp [PreloadStoreManager.step, managerStep, hstage]
      obtain ⟨s', hreaches, hidle⟩ :=
        hremoving _ (s := { s with stage := .removing kinds 0 }) rfl rfl
      exact ⟨s', ((Reaches.refl s).tail (a := .manager) trivial hstep).trans hreaches, hidle⟩
    | cons first pending ih =>
      obtain ⟨id, k⟩ := first
      have hstep : s.step .manager = some { s with
          threads := s.threads.modify id
            (fun t ↦ { t with flags := Function.update t.flags k true })
          stage := .flagging kinds pending } := by
        simp [PreloadStoreManager.step, managerStep, hstage]
      obtain ⟨s', hreaches, hidle⟩ := @ih { s with
          threads := s.threads.modify id
            (fun t ↦ { t with flags := Function.update t.flags k true })
          stage := .flagging kinds pending } rfl
      exact ⟨s', ((Reaches.refl s).tail (a := .manager) trivial hstep).trans hreaches, hidle⟩
  cases hstage : s.stage with
  | idle => exact ⟨s, Reaches.refl s, hstage⟩
  | flagging kinds pending => exact hflagging pending hstage
  | removing kinds position => exact hremoving _ hstage rfl

/-- Without further requests, a state is reached where nothing is left to do. -/
theorem exists_quiescent (s : PreloadStoreManager) :
    ∃ s', Reaches step (fun _ a ↦ a.Continues) s s' ∧ s'.Quiescent := by
  have hthreads (n : Nat) {s : PreloadStoreManager} (hidle : s.stage = .idle)
      (hn : s.stagesLeft = n) :
      ∃ s', Reaches step (fun _ a ↦ a.Continues) s s' ∧ s'.Quiescent := by
    induction n using Nat.strongRecOn generalizing s with
    | ind n ih =>
      by_cases halive : ∃ t ∈ s.threads, t.stage ≠ .dead
      · obtain ⟨id, s', hstep⟩ := exists_threadStep halive
        obtain ⟨hless, hstage⟩ := stagesLeft_threadStep hstep
        obtain ⟨s'', hreaches, hquiescent⟩ := ih _ (hn ▸ hless) (hstage.trans hidle) rfl
        have hthread : s.step (.thread id) = some s' := hstep
        exact ⟨s'', ((Reaches.refl s).tail (a := .thread id) trivial hthread).trans hreaches,
          hquiescent⟩
      · refine ⟨s, Reaches.refl s, hidle, fun t ht ↦ ?_⟩
        by_contra hdead
        exact halive ⟨t, ht, hdead⟩
  obtain ⟨s', hreaches, hidle⟩ := exists_idle s
  obtain ⟨s'', hreaches', hquiescent⟩ := hthreads _ hidle rfl
  exact ⟨s'', hreaches.trans hreaches', hquiescent⟩

end Progress

/-- Where nothing is left to do, every request is answered. -/
theorem Reloading.allAnswered (h : s.Reloading) (hquiescent : s.Quiescent) : s.AllAnswered := by
  intro newer kinds older hsplit k hk
  rcases h.promised newer kinds older hsplit k hk with hanswered | ⟨id, t, ht, hp⟩ | hbusy
  · exact hanswered
  · have hindex := index_le k
    have hdead := hquiescent.dead t (List.mem_of_getElem? ht)
    unfold PreloadUpdater.Promises PreloadUpdater.Publishing at hp
    rw [hdead] at hp
    simp only [UpdaterStage.rank] at hp
    omega
  · rw [hquiescent.idle] at hbusy
    cases hbusy

/-- No request is dropped: the threads and the manager can finish, and once they have, every request
is answered. -/
theorem noRequestDropped_of_leavesToReaders (h : Reaches step LeavesToReaders start s) :
    (∃ s', Reaches step (fun _ a ↦ a.Continues) s s' ∧ s'.Quiescent) ∧
      (s.Quiescent → s.AllAnswered) := by
  have hreloading : s.Reloading :=
    h.invariant (fun hs hg hstep ↦ hs.step hg hstep) reloading_start
  exact ⟨exists_quiescent s, hreloading.allAnswered⟩

section Examples

/-- A request for routes, handled by a manager with some threads. -/
def routeRequest (managerSteps : Nat) : List ReloadStep :=
  .performReload "route" :: List.replicate managerSteps .manager

/-- Steps of one thread. -/
def threadSteps (id steps : Nat) : List ReloadStep := List.replicate steps (.thread id)

/-- Three requests, the last of which is made while one thread has the lock and another waits. -/
def waitingRun : List ReloadStep :=
  routeRequest 2 ++ routeRequest 5 ++ threadSteps 0 1 ++ routeRequest 8 ++ threadSteps 0 10 ++
    threadSteps 1 11

/-- Three requests, the last of which is made while one thread is about to die and the other has
read all data. -/
def releasedRun : List ReloadStep :=
  routeRequest 2 ++ routeRequest 5 ++ threadSteps 0 10 ++ threadSteps 1 8 ++ routeRequest 8 ++
    threadSteps 1 3 ++ threadSteps 0 1

/-- The last request is left to the thread that waits for the lock. -/
theorem allAnswered_waiting : ∃ s : PreloadStoreManager, s.threads.length = 2 ∧
    s.Quiescent ∧ s.AllAnswered := by
  have hrun : (waitingRun.foldlM
      (fun (s : PreloadStoreManager) a ↦ if s.LeavesToReaders a then step s a else none) start).map
      (fun s ↦ (s.stage, s.threads.map PreloadUpdater.stage)) = some (.idle, [.dead, .dead]) := by
    decide +kernel
  obtain ⟨s, hrun, hresult⟩ := Option.map_eq_some_iff.mp hrun
  simp only [Prod.mk.injEq] at hresult
  obtain ⟨hidle, hdead⟩ := hresult
  have hquiescent : s.Quiescent := by
    refine ⟨hidle, fun t ht ↦ ?_⟩
    have hmem := List.mem_map_of_mem (f := PreloadUpdater.stage) ht
    rw [hdead] at hmem
    simpa using hmem
  exact ⟨s, by simpa using congrArg List.length hdead, hquiescent,
    (noRequestDropped_of_leavesToReaders (Reaches.of_foldlM _ hrun)).2 hquiescent⟩

/-- The last request is left to threads that have read the data before. -/
theorem not_allAnswered_released : ∃ s,
    Reaches step (fun _ _ ↦ True) start s ∧ s.Quiescent ∧ ¬ s.AllAnswered := by
  have hrun : (releasedRun.foldlM
      (fun (s : PreloadStoreManager) a ↦ if True then step s a else none) start).map
      (fun s ↦ (s.stage, s.threads.map PreloadUpdater.stage, s.events.take 2)) =
        some (.idle, [.dead, .dead], [.signal 1, .request [.routes, .routeSets]]) := by
    decide +kernel
  obtain ⟨s, hrun, hresult⟩ := Option.map_eq_some_iff.mp hrun
  simp only [Prod.mk.injEq] at hresult
  obtain ⟨hidle, hdead, hevents⟩ := hresult
  refine ⟨s, Reaches.of_foldlM _ hrun, ⟨hidle, fun t ht ↦ ?_⟩, fun h ↦ ?_⟩
  · have hmem := List.mem_map_of_mem (f := PreloadUpdater.stage) ht
    rw [hdead] at hmem
    simpa using hmem
  · have hsplit : s.events = [.signal 1] ++ .request [.routes, .routeSets] :: s.events.drop 2 := by
      conv_lhs => rw [← List.take_append_drop 2 s.events, hevents]
      rfl
    obtain ⟨id, hsub⟩ := h _ _ _ hsplit .routes List.mem_cons_self
    exact absurd hsub.length_le (by simp)

end Examples

end PreloadStoreManager

end Irrd.Storage
