import Mathlib.Data.Finset.Dedup
import Mathlib.Data.Rat.Defs
import Irrd.Base.Reaches
import Irrd.Mirroring.StatusRunners

/-!
# Mirror scheduler

Which processes the main process starts, and when it notices a change of the scope filter. Source:
`irrd/mirroring/scheduler.py`. Preload signalling is left out.
-/

namespace Irrd.Mirroring

open Irrd.Base Irrd.Conf Irrd.Scopefilter Irrd.Storage Irrd.Utils

/-- `irrd/conf/defaults.py:8–11`. -/
def defaultSourceImportTimer : Int := 300
def defaultSourceExportTimerNrtm4 : Int := 60
def defaultSourceImportTimerNrtm4 : Int := 60
def defaultSourceExportTimer : Int := 3600

/-- The settings of a source that decide what is scheduled for it. -/
structure SourceSchedule where
  importSource : List String
  nrtm4ClientNotificationFileUrl : Option String
  nrtm4ClientInitialPublicKey : Option String
  importTimer : Option Int
  exportDestination : Option String
  exportDestinationUnfiltered : Option String
  exportTimer : Option Int
  nrtm4ServerPrivateKey : Option String

/-- The settings of the scheduler and of what it starts. The lists of the scope filter are as
written, and empty without its section. -/
structure SchedulerSettings where
  settings : Settings
  readonlyStandby : Bool
  roaImportTimer : Int
  routePreferenceUpdateTimer : Int
  scopefilterPrefixes : List String
  scopefilterAsns : List (Nat ⊕ String)
  sourceSchedule : String → SourceSchedule

/-- `irrd/mirroring/scheduler.py:140–144`. -/
def SchedulerSettings.scopefilterExcluded (c : SchedulerSettings) : Finset String :=
  ((c.settings.sources.filter (fun (_, source) ↦ source.scopefilterExcluded)).map
    Prod.fst).toFinset

/-- The scope filter, as the scheduler compares it. -/
@[ext]
structure ScopefilterConfiguration where
  prefixes : List String
  asns : List (Nat ⊕ String)
  excluded : Finset String
  deriving DecidableEq

def SchedulerSettings.scopefilterConfiguration (c : SchedulerSettings) :
    ScopefilterConfiguration :=
  ⟨c.scopefilterPrefixes, c.scopefilterAsns, c.scopefilterExcluded⟩

/-- What the scheduler runs in a process of its own. -/
inductive RunnerClass
  | roaImportRunner
  | routePreferenceUpdateRunner
  | scopeFilterUpdateRunner
  | rpslMirrorImportUpdateRunner
  | sourceExportRunner
  | nrtm4Server
  deriving DecidableEq

/-- `__name__`. -/
def RunnerClass.name : RunnerClass → String
  | .roaImportRunner => "ROAImportRunner"
  | .routePreferenceUpdateRunner => "RoutePreferenceUpdateRunner"
  | .scopeFilterUpdateRunner => "ScopeFilterUpdateRunner"
  | .rpslMirrorImportUpdateRunner => "RPSLMirrorImportUpdateRunner"
  | .sourceExportRunner => "SourceExportRunner"
  | .nrtm4Server => "NRTM4Server"

/-- `ScheduledTaskProcess`, with the settings at its start. -/
structure ScheduledTaskProcess where
  runner : RunnerClass
  source : Option String
  settings : SchedulerSettings
  isAlive : Bool

/-- `MirrorScheduler`, `irrd/mirroring/scheduler.py:55–68`. -/
structure MirrorScheduler where
  processes : String → Option ScheduledTaskProcess
  lastStartedTime : String → Int
  previousScopefilterPrefixes : Option (List String)
  previousScopefilterAsns : Option (List (Nat ⊕ String))
  previousScopefilterExcluded : Option (Finset String)

namespace MirrorScheduler

variable (m : MirrorScheduler) (c : SchedulerSettings) (now : ℚ)

/-- `__init__`. -/
def new : MirrorScheduler := ⟨fun _ ↦ none, fun _ ↦ 0, none, none, none⟩

/-- `_check_scopefilter_change`, `irrd/mirroring/scheduler.py:130–157`. -/
def checkScopefilterChange : MirrorScheduler × Bool :=
  if !c.settings.scopefilter then (m, false)
  else
    let currentPrefixes := c.scopefilterPrefixes
    let currentAsns := c.scopefilterAsns
    let currentExclusions := c.scopefilterExcluded
    if m.previousScopefilterPrefixes ≠ some currentPrefixes ∨
        m.previousScopefilterAsns ≠ some currentAsns ∨
        m.previousScopefilterExcluded ≠ some currentExclusions then
      ({ m with
        previousScopefilterPrefixes := some currentPrefixes
        previousScopefilterAsns := some currentAsns
        previousScopefilterExcluded := some currentExclusions }, true)
    else (m, false)

/-- The name under which a process is kept, `irrd/mirroring/scheduler.py:160–162`. -/
def processName (runner : RunnerClass) (source : Option String) : String :=
  match source with
  | some source => if source = "" then runner.name else runner.name ++ "-" ++ source
  | none => runner.name

/-- `run_if_relevant`, `irrd/mirroring/scheduler.py:159–180`; a time in seconds is truncated when
it is kept. -/
def runIfRelevant (source : Option String) (runner : RunnerClass) (timer : Int)
    (allowMultiple : Bool) : MirrorScheduler × Bool :=
  let name := processName runner source
  let hasExpired := ((m.lastStartedTime name + timer : Int) : ℚ) < now
  if ¬ hasExpired ∨ ((m.processes name).isSome ∧ allowMultiple = false) then (m, false)
  else
    ({ m with
      processes := Function.update m.processes name (some ⟨runner, source, c, true⟩)
      lastStartedTime := Function.update m.lastStartedTime name now.floor }, true)

/-- One source, `irrd/mirroring/scheduler.py:92–128`. -/
def runSource (source : String) : MirrorScheduler × Bool :=
  let schedule := c.sourceSchedule source
  let isMirror := schedule.importSource ≠ [] ∨ isSet (c.settings.source source).nrtmHost ∨
    isSet schedule.nrtm4ClientNotificationFileUrl
  let defaultImportTimer :=
    if isSet schedule.nrtm4ClientInitialPublicKey then defaultSourceImportTimerNrtm4
    else defaultSourceImportTimer
  let importTimer := schedule.importTimer.getD defaultImportTimer
  let (m, startedImport) :=
    if isMirror then
      m.runIfRelevant c now (some source) .rpslMirrorImportUpdateRunner importTimer false
    else (m, false)
  let runsRpslExport :=
    isSet schedule.exportDestination ∨ isSet schedule.exportDestinationUnfiltered
  let exportTimer := schedule.exportTimer.getD defaultSourceExportTimer
  let (m, startedExport) :=
    if runsRpslExport then
      m.runIfRelevant c now (some source) .sourceExportRunner exportTimer false
    else (m, false)
  -- What starting an export has returned is replaced here.
  let (m, startedExport) :=
    if isSet schedule.nrtm4ServerPrivateKey then
      m.runIfRelevant c now (some source) .nrtm4Server defaultSourceExportTimerNrtm4 true
    else (m, startedExport)
  (m, startedImport || startedExport)

/-- `irrd/mirroring/scheduler.py:30`. -/
def maxSimultaneousRuns : Nat := 1

/-- The sources, until enough of them have started something. -/
def runSources : MirrorScheduler :=
  (c.settings.sources.foldl (fun (m, sourcesStarted) (source, _) ↦
    if sourcesStarted ≥ maxSimultaneousRuns then (m, sourcesStarted)
    else
      let (m, started) := m.runSource c now source
      (m, if started then sourcesStarted + 1 else sourcesStarted)) (m, 0)).1

/-- `irrd/mirroring/scheduler.py:88–89`. -/
def runScopefilter : MirrorScheduler :=
  let (m, changed) := m.checkScopefilterChange c
  if changed then (m.runIfRelevant c now none .scopeFilterUpdateRunner 0 false).1 else m

/-- `run`, `irrd/mirroring/scheduler.py:70–128`. -/
def run : MirrorScheduler :=
  if c.readonlyStandby then m
  else
    let m :=
      if isSet c.settings.roaSource then
        (m.runIfRelevant c now none .roaImportRunner c.roaImportTimer false).1
      else m
    let m :=
      if c.settings.sources.any (fun (_, source) ↦ source.routeObjectPreference.any (· ≠ 0)) then
        (m.runIfRelevant c now none .routePreferenceUpdateRunner
          c.routePreferenceUpdateTimer false).1
      else m
    (m.runScopefilter c now).runSources c now

/-- `update_process_state`, `irrd/mirroring/scheduler.py:191–207`. -/
def updateProcessState : MirrorScheduler :=
  { m with processes := fun name ↦ (m.processes name).filter (fun process ↦ process.isAlive) }

end MirrorScheduler

end Irrd.Mirroring
