import Irrd.Routepref.RoutePreference

/-!
# Evaluated routes

Which routes an evaluation of route preferences changes: it suppresses a route that it loaded
exactly if it also loaded an overlapping route with a higher preference.
-/

namespace Irrd.Routepref

open Irrd.Conf Irrd.Storage Irrd.Utils

/-- Whether an object is a route. -/
def IsRoute (c : ObjectColumns) : Prop := c.objectClass = "route" ∨ c.objectClass = "route6"

instance (c : ObjectColumns) : Decidable (IsRoute c) := inferInstanceAs (Decidable (_ ∨ _))

/-- One prefix contains the other. -/
def overlaps (p q : IP) : Bool := p.contains q || q.contains p

/-- The preference of the source of an object. -/
def preference (s : Settings) (c : ObjectColumns) : Option Nat :=
  (preferencesOfSources s).lookup c.source

/-- A route with a higher preference, and a prefix that overlaps. -/
def Outranks (s : Settings) (other c : ObjectColumns) : Prop :=
  IsRoute other ∧ (∃ n ∈ preference s c, ∃ m ∈ preference s other, n < m) ∧
    ∃ p ∈ c.ipPrefix, ∃ q ∈ other.ipPrefix, overlaps p q = true

/-- One of the objects outranks this one. -/
def Outranked (s : Settings) (objects : List ObjectColumns) (c : ObjectColumns) : Prop :=
  ∃ other ∈ objects, Outranks s other c

/-- An object whose prefix overlaps one of these. -/
def Near (prefixes : List IP) (c : ObjectColumns) : Prop :=
  ∃ q ∈ c.ipPrefix, ∃ p ∈ prefixes, overlaps p q = true

instance (prefixes : List IP) (c : ObjectColumns) : Decidable (Near prefixes c) :=
  inferInstanceAs (Decidable (∃ q ∈ c.ipPrefix, ∃ p ∈ prefixes, overlaps p q = true))

theorem overlaps_comm (p q : IP) : overlaps p q = overlaps q p := Bool.or_comm ..

theorem contains_refl (p : IP) : p.contains p = true := by simp [IP.contains]

theorem overlaps_refl (p : IP) : overlaps p p = true := by simp [overlaps, contains_refl]

/-- The operators of a query for any less or more specific prefix. -/
theorem contains_or_strictlyInside (p q : IP) :
    (q.contains p || q.strictlyInside p) = overlaps p q := by
  rw [Bool.eq_iff_iff]
  simp only [overlaps, IP.strictlyInside, IP.contains, Bool.or_eq_true, decide_eq_true_eq]
  constructor
  · rintro (hq | ⟨hp, -⟩)
    · exact Or.inr hq
    · exact Or.inl hp
  · rintro (⟨hversion, hlength, hbits⟩ | hq)
    · by_cases hlonger : p.prefixlen < q.prefixlen
      · exact Or.inr ⟨⟨hversion, hlength, hbits⟩, hlonger⟩
      · have hsame : p.prefixlen = q.prefixlen := by omega
        exact Or.inl ⟨hversion.symm, hsame.ge, hsame ▸ hbits.symm⟩
    · exact Or.inl hq

section Validator

variable {s : Settings} {rows : List RPSLDatabaseObject}

theorem mem_tree {r : KnownRoute} : r ∈ (RoutePreferenceValidator.new s rows).tree ↔
    ∃ row ∈ rows, ∃ n ∈ preference s row.toObjectColumns, ∃ p ∈ row.ipPrefix,
      r = ⟨p, row.pk, n, row.routePreferenceStatus⟩ := by
  simp only [RoutePreferenceValidator.new, List.mem_filterMap]
  refine exists_congr (fun row ↦ and_congr_right (fun _ ↦ ?_))
  unfold preference
  cases (preferencesOfSources s).lookup row.source with
  | none => simp
  | some n =>
    cases row.ipPrefix with
    | none => simp
    | some p => simp [eq_comm]

theorem mem_excludedCurrentlySuppressed {pk : Nat} :
    pk ∈ (RoutePreferenceValidator.new s rows).excludedCurrentlySuppressed ↔
      ∃ row ∈ rows, preference s row.toObjectColumns = none ∧
        row.routePreferenceStatus = .suppressed ∧ row.pk = pk := by
  simp only [RoutePreferenceValidator.new, List.mem_filterMap]
  refine exists_congr (fun row ↦ and_congr_right (fun _ ↦ ?_))
  unfold preference
  cases (preferencesOfSources s).lookup row.source <;>
    cases row.routePreferenceStatus <;> simp

/-- No preference is above the highest one. -/
theorem preference_le_max {source : String} {n m : Nat}
    (hn : n ∈ (preferencesOfSources s).lookup source)
    (hm : some m = ((preferencesOfSources s).map Prod.snd).max?) : n ≤ m := by
  have hmem : n ∈ (preferencesOfSources s).map Prod.snd := by
    obtain ⟨before, after, hsources, -⟩ := List.lookup_eq_some_iff.mp hn
    rw [hsources]
    simp
  exact (List.max?_eq_some_iff.mp hm.symm).2 n hmem

/-- A route in the tree is suppressed exactly if one with a higher preference overlaps. -/
theorem evaluateRoute_eq_suppressed {r : KnownRoute} :
    (RoutePreferenceValidator.new s rows).evaluateRoute r = .suppressed ↔
      ∃ r' ∈ (RoutePreferenceValidator.new s rows).tree, r.preference < r'.preference ∧
        overlaps r.ipPrefix r'.ipPrefix = true := by
  unfold RoutePreferenceValidator.evaluateRoute RoutePreferenceValidator.overlapping
  split
  · next hmax =>
    refine ⟨fun hne ↦ (by cases hne), ?_⟩
    rintro ⟨r', hr', hlt, -⟩
    obtain ⟨row, -, n, hn, p, -, rfl⟩ := mem_tree.mp hr'
    have hle := preference_le_max hn hmax
    simp only at hlt
    omega
  · split
    · next hany =>
      refine ⟨fun _ ↦ ?_, fun _ ↦ rfl⟩
      obtain ⟨r', hr', hlt⟩ := List.any_eq_true.mp hany
      obtain ⟨hr', hoverlaps⟩ := List.mem_filter.mp hr'
      exact ⟨r', hr', of_decide_eq_true hlt, hoverlaps⟩
    · next hnone =>
      refine ⟨fun hne ↦ (by cases hne), ?_⟩
      rintro ⟨r', hr', hlt, hoverlaps⟩
      refine absurd (List.any_eq_true.mpr ⟨r', ?_, decide_eq_true hlt⟩) hnone
      exact List.mem_filter.mpr ⟨hr', hoverlaps⟩

/-- Pks of routes whose status changes: their entries are evaluated to the other one. -/
theorem mem_validateKnownRoutes {pk : Nat} :
    (pk ∈ (RoutePreferenceValidator.new s rows).validateKnownRoutes.1 ↔
      ∃ r ∈ (RoutePreferenceValidator.new s rows).tree, r.pk = pk ∧ r.status = .suppressed ∧
        (RoutePreferenceValidator.new s rows).evaluateRoute r = .visible) ∧
      (pk ∈ (RoutePreferenceValidator.new s rows).validateKnownRoutes.2 ↔
        ∃ r ∈ (RoutePreferenceValidator.new s rows).tree, r.pk = pk ∧ r.status = .visible ∧
          (RoutePreferenceValidator.new s rows).evaluateRoute r = .suppressed) := by
  have hnone : (RoutePreferenceValidator.new s rows).sourcePreferences = [] →
      ∀ r, r ∉ (RoutePreferenceValidator.new s rows).tree := by
    intro hempty r hr
    obtain ⟨row, -, n, hn, -⟩ := mem_tree.mp hr
    have hsources : preferencesOfSources s = [] := hempty
    simp [preference, hsources] at hn
  generalize RoutePreferenceValidator.new s rows = v at hnone ⊢
  unfold RoutePreferenceValidator.validateKnownRoutes
  split
  · next hempty => simp [hnone hempty]
  · simp only [List.mem_map, List.mem_filter, decide_eq_true_eq]
    refine ⟨exists_congr (fun r ↦ ?_), exists_congr (fun r ↦ ?_)⟩ <;>
      cases r.status <;> cases v.evaluateRoute r <;> simp

/-- A loaded route with a preference is suppressed exactly if a loaded route outranks it. -/
theorem evaluateRoute_row (hroutes : ∀ row ∈ rows, IsRoute row.toObjectColumns)
    {row : RPSLDatabaseObject} {n : Nat} {p : IP} (hn : n ∈ preference s row.toObjectColumns)
    (hp : p ∈ row.ipPrefix) (status : RoutePreferenceStatus) :
    (RoutePreferenceValidator.new s rows).evaluateRoute ⟨p, row.pk, n, status⟩ = .suppressed ↔
      Outranked s (rows.map RPSLDatabaseObject.toObjectColumns) row.toObjectColumns := by
  rw [evaluateRoute_eq_suppressed]
  constructor
  · rintro ⟨r', hr', hlt, hoverlaps⟩
    obtain ⟨other, hother, m, hm, q, hq, rfl⟩ := mem_tree.mp hr'
    exact ⟨other.toObjectColumns, List.mem_map_of_mem hother, hroutes other hother,
      ⟨n, hn, m, hm, hlt⟩, p, hp, q, hq, hoverlaps⟩
  · rintro ⟨c, hc, -, ⟨n', hn', m, hm, hlt⟩, p', hp', q, hq, hoverlaps⟩
    obtain ⟨other, hother, rfl⟩ := List.mem_map.mp hc
    cases Option.mem_unique hn hn'
    cases Option.mem_unique hp hp'
    exact ⟨_, mem_tree.mpr ⟨other, hother, m, hm, q, hq, rfl⟩, hlt, hoverlaps⟩

end Validator

section Changes

variable {s : Settings} {rows nowVisible nowSuppressed : List RPSLDatabaseObject}
  {filterPrefixes : List IP}

/-- The prefixes that restrict an evaluation: not too many. -/
def restriction (filterPrefixes : List IP) : List IP :=
  if maxFilterPrefixLen < filterPrefixes.length then [] else filterPrefixes

/-- Whether an evaluation loads an object: any route, or one near the prefixes. -/
def Loaded (filterPrefixes : List IP) (c : ObjectColumns) : Prop :=
  IsRoute c ∧ (restriction filterPrefixes = [] ∨ Near (restriction filterPrefixes) c)

instance (filterPrefixes : List IP) (c : ObjectColumns) : Decidable (Loaded filterPrefixes c) :=
  inferInstanceAs (Decidable (_ ∧ _))

/-- The objects that an evaluation loads. -/
def loadedObjects (filterPrefixes : List IP) (objects : List ObjectColumns) : List ObjectColumns :=
  objects.filter (fun c ↦ Loaded filterPrefixes c)

theorem exists_buildValidator (s : Settings) (rows : List RPSLDatabaseObject)
    (filterPrefixes : List IP) : ∃ loaded,
      buildValidator s rows (restriction filterPrefixes) = RoutePreferenceValidator.new s loaded ∧
        ∀ row, row ∈ loaded ↔ row ∈ rows ∧ Loaded filterPrefixes row.toObjectColumns := by
  unfold buildValidator Loaded
  dsimp only
  split
  · next hall => exact ⟨_, rfl, fun row ↦ by simp [hall, IsRoute]⟩
  · next hsome =>
    refine ⟨_, rfl, fun row ↦ ?_⟩
    simp only [List.mem_flatMap, List.mem_filter, contains_or_strictlyInside, hsome, false_or,
      decide_eq_true_eq, Near, IsRoute]
    constructor
    · rintro ⟨p, hp, ⟨hrow, hroute⟩, hnear⟩
      obtain ⟨q, hq, hoverlaps⟩ := (Option.any_eq_true _ _).mp hnear
      exact ⟨hrow, hroute, q, hq, p, hp, hoverlaps⟩
    · rintro ⟨hrow, hroute, q, hq, p, hp, hoverlaps⟩
      exact ⟨p, hp, ⟨hrow, hroute⟩, by simp [Option.mem_def.mp hq, hoverlaps]⟩

/-- Which rows an evaluation changes. -/
theorem mem_changedRoutes (hunique : (rows.map RPSLDatabaseObject.pk).Nodup)
    (hprefixes : ∀ row ∈ rows, IsRoute row.toObjectColumns → row.ipPrefix ≠ none)
    (hchanged : changedRoutes s rows filterPrefixes = some (nowVisible, nowSuppressed))
    (row : RPSLDatabaseObject) :
    (row ∈ nowVisible ↔ row ∈ rows ∧ Loaded filterPrefixes row.toObjectColumns ∧
        row.routePreferenceStatus = .suppressed ∧ ¬ Outranked s (loadedObjects filterPrefixes
          (rows.map RPSLDatabaseObject.toObjectColumns)) row.toObjectColumns) ∧
      (row ∈ nowSuppressed ↔ row ∈ rows ∧ Loaded filterPrefixes row.toObjectColumns ∧
        row.routePreferenceStatus = .visible ∧ Outranked s (loadedObjects filterPrefixes
          (rows.map RPSLDatabaseObject.toObjectColumns)) row.toObjectColumns) := by
  unfold changedRoutes at hchanged
  split at hchanged
  · obtain ⟨loaded, hvalidator, hloaded⟩ := exists_buildValidator s rows filterPrefixes
    have hroutes (other : RPSLDatabaseObject) (hother : other ∈ loaded) :
        IsRoute other.toObjectColumns := ((hloaded other).mp hother).2.1
    have houtranked : Outranked s (loaded.map RPSLDatabaseObject.toObjectColumns)
        row.toObjectColumns ↔ Outranked s (loadedObjects filterPrefixes
          (rows.map RPSLDatabaseObject.toObjectColumns)) row.toObjectColumns := by
      have hmem (c : ObjectColumns) : c ∈ loaded.map RPSLDatabaseObject.toObjectColumns ↔
          c ∈ loadedObjects filterPrefixes (rows.map RPSLDatabaseObject.toObjectColumns) := by
        simp only [loadedObjects, List.mem_filter, List.mem_map, decide_eq_true_eq, hloaded]
        constructor
        · rintro ⟨other, ⟨hother, hload⟩, rfl⟩
          exact ⟨⟨other, hother, rfl⟩, hload⟩
        · rintro ⟨⟨other, hother, rfl⟩, hload⟩
          exact ⟨other, ⟨hother, hload⟩, rfl⟩
      unfold Outranked
      simp only [hmem]
    -- Entries for the key of this row are its own.
    have hown (hrow : row ∈ rows) (other : RPSLDatabaseObject) (hother : other ∈ loaded)
        (hpk : other.pk = row.pk) : other = row :=
      List.inj_on_of_nodup_map hunique ((hloaded other).mp hother).1 hrow hpk
    have htree (hrow : row ∈ rows) (status evaluated : RoutePreferenceStatus) :
        (∃ r ∈ (RoutePreferenceValidator.new s loaded).tree, r.pk = row.pk ∧ r.status = status ∧
            (RoutePreferenceValidator.new s loaded).evaluateRoute r = evaluated) ↔
          row ∈ loaded ∧ preference s row.toObjectColumns ≠ none ∧
            row.routePreferenceStatus = status ∧
              (evaluated = .suppressed ↔ Outranked s (loadedObjects filterPrefixes
                (rows.map RPSLDatabaseObject.toObjectColumns)) row.toObjectColumns) := by
      constructor
      · rintro ⟨r, hr, hpk, hstatus, hevaluated⟩
        obtain ⟨other, hother, n, hn, p, hp, rfl⟩ := mem_tree.mp hr
        obtain rfl := hown hrow other hother hpk
        refine ⟨hother, Option.ne_none_iff_exists'.mpr ⟨n, hn⟩, hstatus, ?_⟩
        rw [← hevaluated, evaluateRoute_row hroutes hn hp, houtranked]
      · rintro ⟨hload, hsome, hstatus, hevaluated⟩
        obtain ⟨n, hn⟩ := Option.ne_none_iff_exists'.mp hsome
        obtain ⟨p, hp⟩ := Option.ne_none_iff_exists'.mp (hprefixes row hrow (hroutes row hload))
        refine ⟨_, mem_tree.mpr ⟨row, hload, n, hn, p, hp, rfl⟩, rfl, hstatus, ?_⟩
        have hsame := (evaluateRoute_row hroutes hn hp row.routePreferenceStatus).trans
          (houtranked.trans hevaluated.symm)
        revert hsame
        generalize RoutePreferenceValidator.evaluateRoute _ _ = found
        cases found <;> cases evaluated <;> simp
    have hexcluded (hrow : row ∈ rows) :
        row.pk ∈ (RoutePreferenceValidator.new s loaded).excludedCurrentlySuppressed ↔
          row ∈ loaded ∧ preference s row.toObjectColumns = none ∧
            row.routePreferenceStatus = .suppressed := by
      rw [mem_excludedCurrentlySuppressed]
      constructor
      · rintro ⟨other, hother, hnone, hstatus, hpk⟩
        obtain rfl := hown hrow other hother hpk
        exact ⟨hother, hnone, hstatus⟩
      · rintro ⟨hload, hnone, hstatus⟩
        exact ⟨row, hload, hnone, hstatus, rfl⟩
    have hranked : Outranked s (loadedObjects filterPrefixes
        (rows.map RPSLDatabaseObject.toObjectColumns)) row.toObjectColumns →
          preference s row.toObjectColumns ≠ none := by
      rintro ⟨other, -, -, ⟨n, hn, -⟩, -⟩
      exact Option.ne_none_iff_exists'.mpr ⟨n, hn⟩
    have hvalidator : buildValidator s rows (if maxFilterPrefixLen < filterPrefixes.length then []
        else filterPrefixes) = RoutePreferenceValidator.new s loaded := hvalidator
    simp only [hvalidator, Option.some.injEq, Prod.mk.injEq] at hchanged
    obtain ⟨rfl, rfl⟩ := hchanged
    unfold enrichPks
    simp only [List.mem_filter, decide_eq_true_eq, List.mem_append, mem_validateKnownRoutes.1,
      mem_validateKnownRoutes.2]
    refine ⟨and_congr_right (fun hrow ↦ ?_), and_congr_right (fun hrow ↦ ?_)⟩
    · rw [htree hrow, hexcluded hrow, hloaded]
      constructor
      · rintro (⟨⟨-, hload⟩, -, hstatus, hevaluated⟩ | ⟨⟨-, hload⟩, hnone, hstatus⟩)
        · exact ⟨hload, hstatus, fun hoverlapped ↦ by cases hevaluated.mpr hoverlapped⟩
        · exact ⟨hload, hstatus, fun hoverlapped ↦ hranked hoverlapped hnone⟩
      · rintro ⟨hload, hstatus, hvisible⟩
        by_cases hnone : preference s row.toObjectColumns = none
        · exact Or.inr ⟨⟨hrow, hload⟩, hnone, hstatus⟩
        · exact Or.inl ⟨⟨hrow, hload⟩, hnone, hstatus, by simp [hvisible]⟩
    · rw [htree hrow, hloaded]
      constructor
      · rintro ⟨⟨-, hload⟩, -, hstatus, hevaluated⟩
        exact ⟨hload, hstatus, hevaluated.mp rfl⟩
      · rintro ⟨hload, hstatus, hoverlapped⟩
        exact ⟨⟨hrow, hload⟩, hranked hoverlapped, hstatus, by simp [hoverlapped]⟩
  · cases hchanged

end Changes

section FullEvaluation

variable {s : Settings} {rows : List RPSLDatabaseObject} {objects objects' : List ObjectColumns}
  {c c' : ObjectColumns}

/-- A full evaluation of route preferences changes nothing. -/
def FullyEvaluated (s : Settings) (rows : List RPSLDatabaseObject) : Prop :=
  changedRoutes s rows [] = some ([], [])

/-- Some source has a preference. -/
def HasPreference (s : Settings) : Prop :=
  s.sources.any (fun (_, own) ↦ own.routeObjectPreference.any (· ≠ 0)) = true

theorem exists_changedRoutes (hpreference : HasPreference s) (rows : List RPSLDatabaseObject)
    (filterPrefixes : List IP) : ∃ nowVisible nowSuppressed,
      changedRoutes s rows filterPrefixes = some (nowVisible, nowSuppressed) := by
  unfold HasPreference at hpreference
  unfold changedRoutes
  rw [if_pos hpreference]
  exact ⟨_, _, rfl⟩

/-- What outranking depends on. -/
def rankKey (c : ObjectColumns) : String × String × Option IP :=
  (c.objectClass, c.source, c.ipPrefix)

theorem Outranks.congr {other other' : ObjectColumns} (hother : rankKey other = rankKey other')
    (hc : rankKey c = rankKey c') (houtranks : Outranks s other c) : Outranks s other' c' := by
  simp only [rankKey, Prod.mk.injEq] at hother hc
  unfold Outranks IsRoute preference at houtranks ⊢
  rwa [hother.1, hother.2.1, hother.2.2, hc.2.1, hc.2.2] at houtranks

/-- Objects outrank by their keys. -/
theorem Outranked.congr (hobjects : ∀ other ∈ objects, ∃ other' ∈ objects',
    rankKey other = rankKey other') (hc : rankKey c = rankKey c')
    (houtranked : Outranked s objects c) : Outranked s objects' c' := by
  obtain ⟨other, hother, houtranks⟩ := houtranked
  obtain ⟨other', hother', hkey⟩ := hobjects other hother
  exact ⟨other', hother', houtranks.congr hkey hc⟩

theorem outranked_loadedObjects : Outranked s (loadedObjects [] objects) c ↔
    Outranked s objects c := by
  constructor
  · rintro ⟨other, hother, houtranks⟩
    exact ⟨other, (List.mem_filter.mp hother).1, houtranks⟩
  · rintro ⟨other, hother, houtranks⟩
    refine ⟨other, List.mem_filter.mpr ⟨hother, decide_eq_true ⟨houtranks.1, Or.inl ?_⟩⟩, houtranks⟩
    rfl

/-- Every route has the status that a full evaluation gives: suppressed if it is outranked. -/
theorem fullyEvaluated_iff (hpreference : HasPreference s)
    (hunique : (rows.map RPSLDatabaseObject.pk).Nodup)
    (hprefixes : ∀ row ∈ rows, IsRoute row.toObjectColumns → row.ipPrefix ≠ none) :
    FullyEvaluated s rows ↔ ∀ row ∈ rows, IsRoute row.toObjectColumns →
      (row.routePreferenceStatus = .suppressed ↔
        Outranked s (rows.map RPSLDatabaseObject.toObjectColumns) row.toObjectColumns) := by
  obtain ⟨nowVisible, nowSuppressed, hchanged⟩ := exists_changedRoutes hpreference rows []
  have hmem := mem_changedRoutes hunique hprefixes hchanged
  have hloaded (c : ObjectColumns) : Loaded [] c ↔ IsRoute c := and_iff_left (Or.inl rfl)
  simp only [hloaded, outranked_loadedObjects] at hmem
  unfold FullyEvaluated
  rw [hchanged, Option.some_inj, Prod.mk.injEq, List.eq_nil_iff_forall_not_mem,
    List.eq_nil_iff_forall_not_mem]
  constructor
  · rintro ⟨hvisible, hsuppressed⟩ row hrow hroute
    constructor
    · intro hstatus
      by_contra hnot
      exact hvisible row ((hmem row).1.mpr ⟨hrow, hroute, hstatus, hnot⟩)
    · intro houtranked
      cases hstatus : row.routePreferenceStatus with
      | suppressed => rfl
      | visible =>
        exact absurd ((hmem row).2.mpr ⟨hrow, hroute, hstatus, houtranked⟩) (hsuppressed row)
  · intro hstatuses
    refine ⟨fun row hrow ↦ ?_, fun row hrow ↦ ?_⟩
    · obtain ⟨hrow, hroute, hstatus, hnot⟩ := (hmem row).1.mp hrow
      exact hnot ((hstatuses row hrow hroute).mp hstatus)
    · obtain ⟨hrow, hroute, hstatus, houtranked⟩ := (hmem row).2.mp hrow
      rw [(hstatuses row hrow hroute).mpr houtranked] at hstatus
      cases hstatus

end FullEvaluation

end Irrd.Routepref
