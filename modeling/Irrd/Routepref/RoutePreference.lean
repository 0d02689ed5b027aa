import Irrd.Conf.Settings
import Irrd.Storage.Models

/-!
# Route object preference

Which route objects have to become visible or suppressed, from the preferences of their
sources and the routes they overlap with. Source: `irrd/routepref/routepref.py`.
-/

namespace Irrd.Routepref

open Irrd.Conf Irrd.Storage Irrd.Utils

/-- An entry of the validator's tree. -/
structure KnownRoute where
  ipPrefix : IP
  pk : Nat
  preference : Nat
  status : RoutePreferenceStatus
  deriving DecidableEq

/-- `RoutePreferenceValidator`, `irrd/routepref/routepref.py:18–61`. The tree is the list of its
entries: entries of one prefix share a node in the source. -/
structure RoutePreferenceValidator where
  sourcePreferences : List (String × Nat)
  maxPreference : Option Nat
  tree : List KnownRoute
  excludedCurrentlySuppressed : List Nat

/-- The preferences of sources that have one. -/
def preferencesOfSources (s : Settings) : List (String × Nat) :=
  s.sources.filterMap (fun (name, own) ↦ own.routeObjectPreference.map (name, ·))

/-- `__init__` and `_build_tree`, `irrd/routepref/routepref.py:29–61`. A route object always has
a prefix. -/
def RoutePreferenceValidator.new (s : Settings) (rows : List RPSLDatabaseObject) :
    RoutePreferenceValidator where
  sourcePreferences := preferencesOfSources s
  maxPreference := ((preferencesOfSources s).map Prod.snd).max?
  tree := rows.filterMap (fun row ↦
    match (preferencesOfSources s).lookup row.source, row.ipPrefix with
    | some preference, some ipPrefix =>
      some ⟨ipPrefix, row.pk, preference, row.routePreferenceStatus⟩
    | _, _ => none)
  excludedCurrentlySuppressed := rows.filterMap (fun row ↦
    if ((preferencesOfSources s).lookup row.source).isNone ∧ row.routePreferenceStatus ≠ .visible
      then some row.pk
    else none)

namespace RoutePreferenceValidator

variable (v : RoutePreferenceValidator)

/-- `search_covered` and `search_covering` of the tree. -/
def overlapping (ipPrefix : IP) : List KnownRoute :=
  v.tree.filter (fun r ↦ ipPrefix.contains r.ipPrefix || r.ipPrefix.contains ipPrefix)

/-- `_evaluate_route`, `irrd/routepref/routepref.py:91–105`. -/
def evaluateRoute (route : KnownRoute) : RoutePreferenceStatus :=
  if some route.preference = v.maxPreference then .visible
  else if (v.overlapping route.ipPrefix).any (fun r ↦ route.preference < r.preference) then
    .suppressed
  else .visible

/-- `validate_known_routes`, `irrd/routepref/routepref.py:63–88`: the routes to make visible and
the routes to suppress. -/
def validateKnownRoutes : List Nat × List Nat :=
  if v.sourcePreferences = [] then ([], [])
  else
    let changed := v.tree.filter (fun r ↦ v.evaluateRoute r ≠ r.status)
    ((changed.filter (fun r ↦ v.evaluateRoute r = .visible)).map KnownRoute.pk,
      (changed.filter (fun r ↦ v.evaluateRoute r = .suppressed)).map KnownRoute.pk)

end RoutePreferenceValidator

/-- `MAX_FILTER_PREFIX_LEN`. -/
def maxFilterPrefixLen : Nat := 5000

/-- `build_validator`, `irrd/routepref/routepref.py:108–130`. -/
def buildValidator (s : Settings) (rows : List RPSLDatabaseObject) (filterPrefixes : List IP) :
    RoutePreferenceValidator :=
  let routes := rows.filter (fun row ↦ row.objectClass = "route" ∨ row.objectClass = "route6")
  if filterPrefixes = [] then .new s routes
  else .new s (filterPrefixes.flatMap (fun ip ↦ routes.filter (fun row ↦
    row.ipPrefix.any (fun p ↦ p.contains ip || p.strictlyInside ip))))

/-- `enrich_pks`, `irrd/routepref/routepref.py:174–193`. -/
def enrichPks (rows : List RPSLDatabaseObject) (pks : List Nat) : List RPSLDatabaseObject :=
  rows.filter (fun row ↦ row.pk ∈ pks)

/-- The evaluation in `update_route_preference_status`, `irrd/routepref/routepref.py:133–158`:
the rows to become visible and the rows to be suppressed, or nothing where no source has a
preference. -/
def changedRoutes (s : Settings) (rows : List RPSLDatabaseObject) (filterPrefixes : List IP) :
    Option (List RPSLDatabaseObject × List RPSLDatabaseObject) :=
  if s.sources.any (fun (_, own) ↦ own.routeObjectPreference.any (· ≠ 0)) then
    let filterPrefixes := if maxFilterPrefixLen < filterPrefixes.length then [] else filterPrefixes
    let validator := buildValidator s rows filterPrefixes
    let (toBeVisible, toBeSuppressed) := validator.validateKnownRoutes
    some (enrichPks rows (toBeVisible ++ validator.excludedCurrentlySuppressed),
      enrichPks rows toBeSuppressed)
  else none

section Changes

variable {s : Settings} {rows nowVisible nowSuppressed : List RPSLDatabaseObject}
  {filterPrefixes : List IP}

/-- Entries of the tree and excluded routes are rows with these statuses. -/
theorem new_rows (s : Settings) (rows : List RPSLDatabaseObject) :
    (∀ r ∈ (RoutePreferenceValidator.new s rows).tree, ∃ row ∈ rows, row.pk = r.pk ∧
        row.routePreferenceStatus = r.status) ∧
      ∀ pk ∈ (RoutePreferenceValidator.new s rows).excludedCurrentlySuppressed,
        ∃ row ∈ rows, row.pk = pk ∧ row.routePreferenceStatus = .suppressed := by
  refine ⟨fun r hr ↦ ?_, fun pk hpk ↦ ?_⟩
  · obtain ⟨row, hrow, hentry⟩ := List.mem_filterMap.mp hr
    split at hentry
    · cases hentry
      exact ⟨row, hrow, rfl, rfl⟩
    · cases hentry
  · obtain ⟨row, hrow, hentry⟩ := List.mem_filterMap.mp hpk
    split at hentry
    · next hexcluded =>
      cases hentry
      refine ⟨row, hrow, rfl, ?_⟩
      cases hstatus : row.routePreferenceStatus with
      | visible => exact absurd hstatus hexcluded.2
      | suppressed => rfl
    · cases hentry

/-- A route whose status has to change has the other one. -/
theorem validateKnownRoutes_status (s : Settings) (rows : List RPSLDatabaseObject) :
    (∀ pk ∈ (RoutePreferenceValidator.new s rows).validateKnownRoutes.1,
        ∃ row ∈ rows, row.pk = pk ∧ row.routePreferenceStatus = .suppressed) ∧
      ∀ pk ∈ (RoutePreferenceValidator.new s rows).validateKnownRoutes.2,
        ∃ row ∈ rows, row.pk = pk ∧ row.routePreferenceStatus = .visible := by
  obtain ⟨htree, -⟩ := new_rows s rows
  generalize RoutePreferenceValidator.new s rows = v at htree
  have hchange {status : RoutePreferenceStatus} {pk : Nat}
      (hpk : pk ∈ ((v.tree.filter (fun r ↦ v.evaluateRoute r ≠ r.status)).filter (fun r ↦
        v.evaluateRoute r = status)).map KnownRoute.pk) :
      ∃ row ∈ rows, row.pk = pk ∧ row.routePreferenceStatus ≠ status := by
    obtain ⟨r, hr, rfl⟩ := List.mem_map.mp hpk
    obtain ⟨hr, hevaluated⟩ := List.mem_filter.mp hr
    obtain ⟨hr, hdiffers⟩ := List.mem_filter.mp hr
    obtain ⟨row, hrow, hpk, hstatus⟩ := htree r hr
    refine ⟨row, hrow, hpk, ?_⟩
    rw [hstatus, ← of_decide_eq_true hevaluated]
    exact fun he ↦ of_decide_eq_true hdiffers he.symm
  unfold RoutePreferenceValidator.validateKnownRoutes
  split
  · exact ⟨fun _ hpk ↦ (List.not_mem_nil hpk).elim, fun _ hpk ↦ (List.not_mem_nil hpk).elim⟩
  · refine ⟨fun pk hpk ↦ ?_, fun pk hpk ↦ ?_⟩
    · obtain ⟨row, hrow, hrowPk, hstatus⟩ := hchange hpk
      refine ⟨row, hrow, hrowPk, ?_⟩
      cases h : row.routePreferenceStatus with
      | visible => exact absurd h hstatus
      | suppressed => rfl
    · obtain ⟨row, hrow, hrowPk, hstatus⟩ := hchange hpk
      refine ⟨row, hrow, hrowPk, ?_⟩
      cases h : row.routePreferenceStatus with
      | visible => rfl
      | suppressed => exact absurd h hstatus

theorem buildValidator_rows (s : Settings) (rows : List RPSLDatabaseObject)
    (filterPrefixes : List IP) : ∃ loaded, loaded ⊆ rows ∧
      buildValidator s rows filterPrefixes = RoutePreferenceValidator.new s loaded := by
  unfold buildValidator
  dsimp only
  split
  · exact ⟨_, List.filter_sublist.subset, rfl⟩
  · refine ⟨_, fun row hrow ↦ ?_, rfl⟩
    obtain ⟨ip, -, hrow⟩ := List.mem_flatMap.mp hrow
    exact (List.mem_filter.mp (List.mem_filter.mp hrow).1).1

/-- The changed routes are some of the rows, in their order. -/
theorem changedRoutes_sublist
    (hchanged : changedRoutes s rows filterPrefixes = some (nowVisible, nowSuppressed)) :
    nowVisible.Sublist rows ∧ nowSuppressed.Sublist rows := by
  unfold changedRoutes at hchanged
  split at hchanged
  · cases hchanged
    exact ⟨List.filter_sublist, List.filter_sublist⟩
  · cases hchanged

/-- Each route that has to become visible is suppressed, and the other way around. -/
theorem changedRoutes_status (hunique : (rows.map RPSLDatabaseObject.pk).Nodup)
    (hchanged : changedRoutes s rows filterPrefixes = some (nowVisible, nowSuppressed)) :
    (∀ row ∈ nowVisible, row.routePreferenceStatus = .suppressed) ∧
      ∀ row ∈ nowSuppressed, row.routePreferenceStatus = .visible := by
  unfold changedRoutes at hchanged
  split at hchanged
  · generalize (if maxFilterPrefixLen < filterPrefixes.length then [] else filterPrefixes) =
      prefixes at hchanged
    obtain ⟨loaded, hloaded, hvalidator⟩ := buildValidator_rows s rows prefixes
    obtain ⟨hvisible, hsuppressed⟩ := validateKnownRoutes_status s loaded
    obtain ⟨-, hexcluded⟩ := new_rows s loaded
    have hstatus {row : RPSLDatabaseObject} {status : RoutePreferenceStatus} (hrow : row ∈ rows)
        (hknown : ∃ row' ∈ loaded, row'.pk = row.pk ∧ row'.routePreferenceStatus = status) :
        row.routePreferenceStatus = status := by
      obtain ⟨row', hrow', hpk, hstatus⟩ := hknown
      rw [← hstatus, List.inj_on_of_nodup_map hunique (hloaded hrow') hrow hpk]
    simp only [hvalidator, Option.some.injEq, Prod.mk.injEq] at hchanged
    obtain ⟨rfl, rfl⟩ := hchanged
    refine ⟨fun row hrow ↦ ?_, fun row hrow ↦ ?_⟩
    · obtain ⟨hrow, hpk⟩ := List.mem_filter.mp hrow
      rcases List.mem_append.mp (of_decide_eq_true hpk) with hpk | hpk
      · exact hstatus hrow (hvisible row.pk hpk)
      · exact hstatus hrow (hexcluded row.pk hpk)
    · obtain ⟨hrow, hpk⟩ := List.mem_filter.mp hrow
      exact hstatus hrow (hsuppressed row.pk (of_decide_eq_true hpk))
  · cases hchanged

end Changes

end Irrd.Routepref
