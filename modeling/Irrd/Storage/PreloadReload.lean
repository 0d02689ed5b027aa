import Irrd.Base.Reaches
import Irrd.Utils.Validators

/-!
# Reloads of the preloaded store

The manager of the store and the updater threads it starts, step by step. Source:
`irrd/storage/preload.py`. Threads do not fail. A thread is alive from its start until it has died,
some time after it released the lock.
-/

namespace Irrd.Storage

open Irrd.Base Irrd.Utils

/-- The kinds of data that the store has, in the order in which they are updated. -/
inductive PreloadKind
  | routes
  | asSets
  | routeSets
  deriving DecidableEq

namespace PreloadKind

/-- All kinds. -/
def all : List PreloadKind := [.routes, .asSets, .routeSets]

/-- The place of a kind in the order of updates. -/
def index : PreloadKind → Nat
  | .routes => 0
  | .asSets => 1
  | .routeSets => 2

/-- Object classes with which the data of a kind changes. -/
def objectClasses : PreloadKind → List String
  | .routes => ["route", "route6"]
  | .asSets => ["as-set", "aut-num"]
  | .routeSets => ["route-set", "route", "route6"]

end PreloadKind

/-- `REDIS_PRELOAD_ALL_MESSAGE`. -/
def preloadAllMessage : String := "unknown-classes-changed-preload-all"

/-- The kinds that a message concerns, `irrd/storage/preload.py:312–321`. -/
def concernedKinds (message : String) : List PreloadKind :=
  PreloadKind.all.filter (fun k ↦
    message = preloadAllMessage ∨ ∃ c ∈ splitAt ',' message, c ∈ k.objectClasses)

/-- Where an updater thread is: it waits for the lock, tests the flag of a kind, is to read the
database or to publish what it read, signals that the store is updated, releases the lock, is about
to die, or is dead. -/
inductive UpdaterStage
  | waiting
  | test (k : PreloadKind)
  | read (k : PreloadKind)
  | store (k : PreloadKind)
  | signal
  | release
  | released
  | dead
  deriving DecidableEq

namespace UpdaterStage

/-- What follows after the update of a kind, `irrd/storage/preload.py:491–496`. -/
def after : PreloadKind → UpdaterStage
  | .routes => .test .asSets
  | .asSets => .test .routeSets
  | .routeSets => .signal

/-- The place of a stage in the run of a thread. -/
def rank : UpdaterStage → Nat
  | .waiting => 0
  | .test k => 3 * k.index + 1
  | .read k => 3 * k.index + 2
  | .store k => 3 * k.index + 3
  | .signal => 10
  | .release => 11
  | .released => 12
  | .dead => 13

/-- Whether a thread at a stage holds the lock. -/
def holdsLock : UpdaterStage → Bool
  | .waiting | .released | .dead => false
  | _ => true

end UpdaterStage

/-- `PreloadUpdater`. -/
structure PreloadUpdater where
  stage : UpdaterStage
  flags : PreloadKind → Bool

/-- What is recorded of a run: requests with the kinds they concern, and when a thread starts to
read the database, stores what it read, and notifies the workers. -/
inductive ReloadEvent
  | request (kinds : List PreloadKind)
  | read (thread : Nat) (k : PreloadKind)
  | store (thread : Nat) (k : PreloadKind)
  | signal (thread : Nat)
  deriving DecidableEq

/-- Whether a thread starts to read the data of a kind. -/
def ReloadEvent.reads (k : PreloadKind) : ReloadEvent → Bool
  | .read _ k' => k' = k
  | _ => false

/-- Where the manager is in `perform_reload`: it sets the flags of its threads, one after the other,
or goes through its threads to remove dead ones. -/
inductive ManagerStage
  | idle
  | flagging (kinds : List PreloadKind) (pending : List (Nat × PreloadKind))
  | removing (kinds : List PreloadKind) (position : Nat)
  deriving DecidableEq

/-- `PreloadStoreManager` with the threads it has started, those of them that it lists, and what
happened so far, the last first. -/
structure PreloadStoreManager where
  threads : List PreloadUpdater
  listed : List Nat
  stage : ManagerStage
  events : List ReloadEvent

/-- What happens next. -/
inductive ReloadStep
  | performReload (message : String)
  | manager
  | thread (id : Nat)

/-- A step that makes no request. -/
def ReloadStep.Continues : ReloadStep → Prop
  | .performReload _ => False
  | _ => True

namespace PreloadStoreManager

variable (s : PreloadStoreManager)

/-- Before the first request. -/
def start : PreloadStoreManager := ⟨[], [], .idle, []⟩

/-- The lock is free. -/
def lockFree : Bool := s.threads.all (fun t ↦ !t.stage.holdsLock)

/-- `is_alive`. -/
def isAlive (id : Nat) : Bool := s.threads[id]?.any (fun t ↦ t.stage ≠ .dead)

/-- A thread goes on to another stage. -/
def moveThread (id : Nat) (stage : UpdaterStage) (events : List ReloadEvent) :
    PreloadStoreManager :=
  { s with
    threads := s.threads.modify id (fun t ↦ { t with stage })
    events := events ++ s.events }

/-- A step of an updater thread, `irrd/storage/preload.py:472–512`. -/
def threadStep (id : Nat) : Option PreloadStoreManager :=
  s.threads[id]?.bind (fun t ↦
    match t.stage with
    | .waiting => if s.lockFree then some (s.moveThread id (.test .routes) []) else none
    | .test k => some (s.moveThread id (if t.flags k then .read k else .after k) [])
    | .read k => some (s.moveThread id (.store k) [.read id k])
    | .store k => some (s.moveThread id (.after k) [.store id k])
    | .signal => some (s.moveThread id .release [.signal id])
    | .release => some (s.moveThread id .released [])
    | .released => some (s.moveThread id .dead [])
    | .dead => none)

/-- A new thread with its flags. -/
def startThread (kinds : List PreloadKind) : PreloadStoreManager :=
  { s with
    threads := s.threads ++ [⟨.waiting, (· ∈ kinds)⟩]
    listed := s.listed ++ [s.threads.length]
    stage := .idle }

/-- A step of `perform_reload`, `irrd/storage/preload.py:326–343` and `416–423`. Threads are removed
from the list that the loop goes through, so that the one after a dead thread is passed over. -/
def managerStep : Option PreloadStoreManager :=
  match s.stage with
  | .idle => none
  | .flagging kinds [] => some { s with stage := .removing kinds 0 }
  | .flagging kinds ((id, k) :: pending) =>
    some { s with
      threads := s.threads.modify id (fun t ↦ { t with flags := Function.update t.flags k true })
      stage := .flagging kinds pending }
  | .removing kinds position =>
    match s.listed[position]? with
    | some id =>
      some { s with
        listed := if s.isAlive id then s.listed else s.listed.erase id
        stage := .removing kinds (position + 1) }
    | none =>
      some (if 1 < s.listed.length then { s with stage := .idle } else s.startThread kinds)

/-- A request, unless it concerns no kind of data, `irrd/storage/preload.py:323–335`. -/
def performReload (message : String) : PreloadStoreManager :=
  let kinds := concernedKinds message
  if kinds = [] then s
  else
    { s with
      stage := .flagging kinds (s.listed.flatMap (fun id ↦ kinds.map (fun k ↦ (id, k))))
      events := .request kinds :: s.events }

/-- One step. Requests are handled one after the other. -/
def step : ReloadStep → Option PreloadStoreManager
  | .performReload message => if s.stage = .idle then some (s.performReload message) else none
  | .manager => s.managerStep
  | .thread id => s.threadStep id

/-- Nothing is left to do. -/
structure Quiescent : Prop where
  idle : s.stage = .idle
  dead : ∀ t ∈ s.threads, t.stage = .dead

end PreloadStoreManager

/-- A thread has read the data of a kind, stored it, and notified the workers. -/
def Answered (events : List ReloadEvent) (k : PreloadKind) : Prop :=
  ∃ id, List.Sublist [.signal id, .store id k, .read id k] events

namespace PreloadStoreManager

variable (s : PreloadStoreManager)

/-- Every request is answered after it was made, for each kind that it concerns. -/
def AllAnswered : Prop := ∀ newer kinds older, s.events = newer ++ .request kinds :: older →
  ∀ k ∈ kinds, Answered newer k

/-- A thread is yet to read the data of a kind, unless its flag is not set. -/
def IsYetToRead (id : Nat) (k : PreloadKind) : Prop :=
  ∃ t ∈ s.threads[id]?, t.stage.rank ≤ 3 * k.index + 2

/-- What happened since the last request, the last first. -/
def sinceRequest : List ReloadEvent :=
  s.events.takeWhile (fun | .request _ => false | _ => true)

/-- `perform_reload` leaves no kind of data to threads that have read it before: where it starts no
thread, one of those it lists is yet to read the data, or a thread has read it since the request. -/
def LeavesToReaders : ReloadStep → Prop
  | .manager => match s.stage with
    | .removing kinds position => s.listed.length ≤ position → 1 < s.listed.length →
        ∀ k ∈ kinds, (∃ id ∈ s.listed, s.IsYetToRead id k) ∨ ∃ e ∈ s.sinceRequest, e.reads k = true
    | _ => True
  | _ => True

instance (id : Nat) (k : PreloadKind) : Decidable (s.IsYetToRead id k) :=
  inferInstanceAs (Decidable (∃ t ∈ s.threads[id]?, _))

instance : DecidablePred s.LeavesToReaders
  | .performReload _ => .isTrue trivial
  | .thread _ => .isTrue trivial
  | .manager =>
    match hstage : s.stage with
    | .removing kinds position =>
      decidable_of_iff (s.listed.length ≤ position → 1 < s.listed.length → ∀ k ∈ kinds,
        (∃ id ∈ s.listed, s.IsYetToRead id k) ∨ ∃ e ∈ s.sinceRequest, e.reads k = true)
        (by simp [LeavesToReaders, hstage])
    | .idle => .isTrue (by simp [LeavesToReaders, hstage])
    | .flagging _ _ => .isTrue (by simp [LeavesToReaders, hstage])

end PreloadStoreManager

end Irrd.Storage
