import Mathlib.Data.List.Nodup
import Irrd.Base.LruCache
import Irrd.Updates.WritePaths

/-!
# Suspension

Suspending a maintainer moves the objects that have no other active maintainer to another table.
Source: `irrd/updates/suspension.py`. A `ValueError` or another exception has no result. Keys are
stored in upper case.
-/

namespace Irrd.Updates

open Irrd.Base Irrd.Conf Irrd.Mirroring Irrd.Rpsl Irrd.Scopefilter Irrd.Storage

/-- The order in which a query returns rows. What a query asks for depends on the collation, and
leaves open the order of rows with the same addresses, AS numbers and primary key. -/
structure RowOrder (A : Type) where
  order : List A → List A
  perm : ∀ rows, (order rows).Perm rows

section Queries

variable (source : String)

/-- The values of `mnt-by`. -/
def mntBy (row : RPSLDatabaseObject) : List String := (row.parsedData.lookup "mnt-by").getD []

/-- A row of the source that lists a mntner. -/
def isMaintainedBy (mntner : String) (row : RPSLDatabaseObject) : Bool :=
  row.source = source ∧ mntner ∈ mntBy row

/-- The row of a mntner of the source. -/
def isMntner (mntner : String) (row : RPSLDatabaseObject) : Bool :=
  row.objectClass = "mntner" ∧ row.source = source ∧ row.rpslPk = mntner

/-- `mntner_active`, `irrd/updates/suspension.py:39–47`, without its cache. -/
def mntnerActive (rows : List RPSLDatabaseObject) (mntner : String) : Bool :=
  rows.any (isMntner source mntner)

/-- The mntners that a row lists, other than one. -/
def otherMntners (mntner : String) (row : RPSLDatabaseObject) : List String :=
  (mntBy row).dedup.filter (· ≠ mntner)

end Queries

section Suspend

variable (s : Settings) (source mntner : String)

/-- The loop of `suspend_for_mntner`: the handler, the cache of `mntner_active` and the rows that
have been suspended. -/
structure SuspensionLoop where
  handler : DatabaseHandler
  cache : LruCache String Bool
  suspended : List RPSLDatabaseObject

/-- The size of the cache. -/
def mntnerCacheSize : Nat := 50

/-- One row, `irrd/updates/suspension.py:66–82`. -/
def suspendRow (t : SuspensionLoop) (row : RPSLDatabaseObject) : Option SuspensionLoop :=
  if row ∈ t.suspended then some t
  else do
    let _ ← row.parsedData.lookup "mnt-by"
    let (active, cache) := LruCache.fetchAll mntnerCacheSize
      (mntnerActive source t.handler.working.objects.rows) t.cache (otherMntners mntner row)
    if row.rpslPk ≠ mntner ∧ active.any Prod.snd then return { t with cache }
    else
      let handler ← t.handler.suspendRpslObject s row.pk
      return ⟨handler, cache, t.suspended ++ [row]⟩

/-- `suspend_for_mntner`, `irrd/updates/suspension.py:16–83`. Its first query flushes the buffer. -/
def suspendForMntner (authoritative : String → Bool) (rowOrder : RowOrder RPSLDatabaseObject)
    (h : DatabaseHandler) : Option (DatabaseHandler × List RPSLDatabaseObject) :=
  if authoritative source then do
    let h ← h.flushRpslObjectWritingBuffer s
    let rows := h.working.objects.rows
    let query1Result := rowOrder.order (rows.filter (isMaintainedBy source mntner))
    let query2Result := rows.filter (isMntner source mntner)
    if query2Result = [] then none
    else
      let t ← (query1Result ++ query2Result).foldlM (suspendRow s source mntner) ⟨h, [], []⟩
      return (t.handler, t.suspended)
  else none

end Suspend

section Rows

/-- The row of `rpsl_objects_suspended` for a row, with a row key and a time. -/
def suspendedRow (now pk : Nat) (row : RPSLDatabaseObject) : RPSLDatabaseObjectSuspended :=
  ⟨pk, row.rpslPk, row.source, row.objectClass, row.objectText, mntBy row, now, row.created,
    row.updated⟩

/-- What the suspension of a row does. -/
structure RowSuspended (s : Settings) (h h' : DatabaseHandler) (row : RPSLDatabaseObject) :
    Prop where
  objects : h'.working.objects.rows = h.working.objects.rows.filter (· ≠ row)
  suspended : h'.working.suspended = h.working.suspended ++ [suspendedRow h.now h.nextPk row]
  nextPk : h'.nextPk = h.nextPk + 1
  now : h'.now = h.now
  buffer : h'.rpslUpsertBuffer = []
  numbers : ∀ source, NumbersEntries s source h → NumbersEntries s source h'

variable {s : Settings} {h : DatabaseHandler} {row : RPSLDatabaseObject}

/-- Recording an operation leaves the suspended rows alone. -/
theorem suspended_recordOperation {op : Operation} {h' : DatabaseHandler}
    (hrecord : h.recordOperation s op = some h') : h'.working.suspended = h.working.suspended := by
  unfold DatabaseHandler.recordOperation at hrecord
  dsimp only at hrecord
  split at hrecord
  · split at hrecord
    · cases hrecord
    · obtain ⟨journal, -, rfl⟩ := Option.map_eq_some_iff.mp hrecord
      rfl
  · cases hrecord
    rfl

/-- A row with a list of mntners can be suspended where its source can record it. -/
theorem suspendRpslObject_spec (hbuffer : h.rpslUpsertBuffer = [])
    (hunique : h.working.objects.PksUnique) (hrow : row ∈ h.working.objects.rows)
    (hmntBy : (row.parsedData.lookup "mnt-by").isSome)
    (hnumbers : s.keepJournal row.source = true → NumbersEntries s row.source h) :
    ∃ h', h.suspendRpslObject s row.pk = some h' ∧ RowSuspended s h h' row := by
  have hsame : ∀ r ∈ h.working.objects.rows, r.pk = row.pk ↔ r = row :=
    fun r hr ↦ ⟨fun hpk ↦ hunique.eq_of_pk hr hrow hpk, fun hr ↦ hr ▸ rfl⟩
  have hfound : h.working.objects.rows.filter (fun r ↦ r.pk = row.pk) = [row] := by
    have hnodup : h.working.objects.rows.Nodup := hunique.of_map
    have hfilter : h.working.objects.rows.filter (fun r ↦ r.pk = row.pk) =
        h.working.objects.rows.filter (· = row) :=
      List.filter_congr (fun r hr ↦ decide_eq_decide.mpr (hsame r hr))
    rw [hfilter, List.filter_eq, List.count_eq_one_of_mem hnodup hrow]
    rfl
  have hobjects : h.working.objects.rows.filter (fun r ↦ !(decide (r.pk = row.pk))) =
      h.working.objects.rows.filter (· ≠ row) := by
    refine List.filter_congr (fun r hr ↦ ?_)
    simp [hsame r hr]
  obtain ⟨mntners, hmntners⟩ := Option.isSome_iff_exists.mp hmntBy
  have hmntBy : mntBy row = mntners := by
    unfold mntBy
    rw [hmntners, Option.getD_some]
  unfold DatabaseHandler.suspendRpslObject DatabaseHandler.flushRpslObjectWritingBuffer
  rw [if_pos hbuffer]
  simp only [Option.bind_eq_bind, Option.bind_some]
  split
  · next hnone => simp [hfound] at hnone
  · next row' hrow' =>
    obtain rfl : row = row' := List.singleton_inj.mp (hfound.symm.trans hrow')
    rw [hmntners, Option.bind_some]
    -- The record is made in the database without the row and with the suspended one.
    generalize hmoved : ({ h.removeObjects (fun r ↦ r.pk = row.pk) with
      nextPk := _, working := _ } : DatabaseHandler) = h₁
    have hsame₁ : SameSerials h h₁ := by
      rw [← hmoved]
      exact ⟨rfl, rfl, rfl, rfl, rfl, rfl, rfl⟩
    obtain ⟨h₂, hop⟩ := Option.isSome_iff_exists.mp (recordOperation_isSome (s := s) (h := h₁)
      ⟨.delete, row.rpslPk, row.source, row.objectClass, row.objectText, .suspension, none⟩
      (fun hkeep ↦ (hnumbers hkeep).same hsame₁))
    have hframe := (recordOperation_eq_some hop).1
    have hsuspended := suspended_recordOperation hop
    rw [hop, Option.bind_some]
    refine ⟨_, rfl, ?_, ?_, ?_, ?_, ?_, ?_⟩
    · show h₂.working.objects.rows = _
      rw [hframe.objects, ← hmoved]
      exact hobjects
    · show h₂.working.suspended = _
      rw [hsuspended, ← hmoved, suspendedRow, hmntBy]
      rfl
    · show h₂.nextPk = _
      rw [hframe.nextPk, ← hmoved]
      rfl
    · show h₂.now = _
      rw [hframe.now, ← hmoved]
      rfl
    · show h₂.rpslUpsertBuffer = _
      rw [hframe.buffer, ← hmoved]
      exact hbuffer
    · intro source hsource
      exact ((hsource.same hsame₁).record hop).same (sameSerials_objectModified ..)
  · next hnone hmany => exact absurd hfound (hmany row)

end Rows

section Loop

/-- A mntner of the source that lists the suspended one and has no other active mntner. -/
def MaintainedAlone (source mntner : String) (rows : List RPSLDatabaseObject) (m : String) : Prop :=
  m ≠ mntner ∧ ∃ row ∈ rows, isMntner source m row = true ∧ mntner ∈ mntBy row ∧
    ∀ m' ∈ otherMntners mntner row, mntnerActive source rows m' = false

instance (source mntner : String) (rows : List RPSLDatabaseObject) (m : String) :
    Decidable (MaintainedAlone source mntner rows m) :=
  inferInstanceAs (Decidable (m ≠ mntner ∧ ∃ row ∈ rows, isMntner source m row = true ∧
    mntner ∈ mntBy row ∧ ∀ m' ∈ otherMntners mntner row, mntnerActive source rows m' = false))

/-- No object under another key has active mntners besides the suspended one that are all maintained
by it alone. -/
def KeepsMaintainers (source mntner : String) (rows : List RPSLDatabaseObject) : Prop :=
  ∀ row ∈ rows, isMaintainedBy source mntner row = true → row.rpslPk ≠ mntner →
    (∃ m ∈ otherMntners mntner row, mntnerActive source rows m = true) →
      ∃ m ∈ otherMntners mntner row, mntnerActive source rows m = true ∧
        ¬ MaintainedAlone source mntner rows m

/-- What holds while the loop runs over rows of a database. What the cache says was so before, and
what it denies has not become so again. -/
structure LoopInvariant (s : Settings) (source mntner : String) (h₀ : DatabaseHandler)
    (done : List RPSLDatabaseObject) (t : SuspensionLoop) : Prop where
  objects : t.handler.working.objects.rows =
    h₀.working.objects.rows.filter (fun row ↦ row ∉ t.suspended)
  moved : t.handler.working.suspended = h₀.working.suspended ++
    t.suspended.mapIdx (fun i row ↦ suspendedRow h₀.now (h₀.nextPk + i) row)
  nextPk : t.handler.nextPk = h₀.nextPk + t.suspended.length
  now : t.handler.now = h₀.now
  buffer : t.handler.rpslUpsertBuffer = []
  numbers : s.keepJournal source = true → NumbersEntries s source t.handler
  cache : ∀ e ∈ t.cache,
    (e.2 = true → mntnerActive source h₀.working.objects.rows e.1 = true) ∧
      (e.2 = false → mntnerActive source t.handler.working.objects.rows e.1 = false)
  within : ∀ row ∈ t.suspended, row ∈ done
  nodup : t.suspended.Nodup
  kept : ∀ row ∈ done, row ∉ t.suspended → row.rpslPk ≠ mntner ∧
    ∃ m ∈ otherMntners mntner row, mntnerActive source h₀.working.objects.rows m = true
  gone : ∀ row ∈ t.suspended, row.rpslPk ≠ mntner → ∀ m ∈ otherMntners mntner row,
    mntnerActive source t.handler.working.objects.rows m = false
  alone : KeepsMaintainers source mntner h₀.working.objects.rows → ∀ row ∈ t.suspended,
    row.objectClass = "mntner" → row.rpslPk ≠ mntner →
      MaintainedAlone source mntner h₀.working.objects.rows row.rpslPk

variable {s : Settings} {source mntner : String} {h₀ : DatabaseHandler}
  {done : List RPSLDatabaseObject} {t : SuspensionLoop} {row : RPSLDatabaseObject}

/-- Fewer rows have fewer active mntners. -/
theorem mntnerActive_filter {rows : List RPSLDatabaseObject} {p : RPSLDatabaseObject → Bool}
    {m : String} (hinactive : mntnerActive source rows m = false) :
    mntnerActive source (rows.filter p) m = false := by
  unfold mntnerActive at hinactive ⊢
  rw [List.any_eq_false] at hinactive ⊢
  exact fun r hr ↦ hinactive r (List.mem_of_mem_filter hr)

/-- A mntner that is no longer active has been suspended. -/
theorem LoopInvariant.suspended_of_inactive (hinv : LoopInvariant s source mntner h₀ done t)
    {m : String} (hbefore : mntnerActive source h₀.working.objects.rows m = true)
    (hnow : mntnerActive source t.handler.working.objects.rows m = false) :
    ∃ row ∈ t.suspended, isMntner source m row = true := by
  obtain ⟨row, hrow, hmntner⟩ := List.any_eq_true.mp hbefore
  refine ⟨row, ?_, hmntner⟩
  by_contra hkept
  have hmem : row ∈ t.handler.working.objects.rows := by
    rw [hinv.objects]
    exact List.mem_filter.mpr ⟨hrow, by simpa using hkept⟩
  rw [mntnerActive, List.any_eq_false] at hnow
  exact hnow row hmem hmntner

/-- What the results for the other mntners of a row say. -/
theorem LoopInvariant.fetched (hinv : LoopInvariant s source mntner h₀ done t)
    {results : List (String × Bool)} {cache : LruCache String Bool}
    (hfetch : LruCache.fetchAll mntnerCacheSize
      (mntnerActive source t.handler.working.objects.rows) t.cache (otherMntners mntner row) =
        (results, cache)) :
    (results.any Prod.snd = true → ∃ m ∈ otherMntners mntner row,
        mntnerActive source h₀.working.objects.rows m = true) ∧
      (results.any Prod.snd = false → ∀ m ∈ otherMntners mntner row,
        mntnerActive source t.handler.working.objects.rows m = false) ∧
      ∀ e ∈ cache, (e.2 = true → mntnerActive source h₀.working.objects.rows e.1 = true) ∧
        (e.2 = false → mntnerActive source t.handler.working.objects.rows e.1 = false) := by
  have hfresh (m : String) :
      (mntnerActive source t.handler.working.objects.rows m = true →
          mntnerActive source h₀.working.objects.rows m = true) ∧
        (mntnerActive source t.handler.working.objects.rows m = false →
          mntnerActive source t.handler.working.objects.rows m = false) := by
    refine ⟨fun hactive ↦ ?_, id⟩
    by_contra hbefore
    rw [hinv.objects, mntnerActive_filter (Bool.not_eq_true _ ▸ hbefore)] at hactive
    cases hactive
  obtain ⟨hkeys, hresults, hcache⟩ := LruCache.fetchAll_holds mntnerCacheSize
    (P := fun m active ↦ (active = true → mntnerActive source h₀.working.objects.rows m = true) ∧
      (active = false → mntnerActive source t.handler.working.objects.rows m = false))
    (otherMntners mntner row) hinv.cache (fun m _ ↦ hfresh m)
  rw [hfetch] at hkeys hresults hcache
  refine ⟨fun hany ↦ ?_, fun hnone m hm ↦ ?_, hcache⟩
  · obtain ⟨e, he, hactive⟩ := List.any_eq_true.mp hany
    exact ⟨e.1, hkeys ▸ List.mem_map_of_mem he, (hresults e he).1 hactive⟩
  · rw [← hkeys] at hm
    obtain ⟨e, he, rfl⟩ := List.mem_map.mp hm
    rw [List.any_eq_false] at hnone
    exact (hresults e he).2 (Bool.not_eq_true _ ▸ hnone e he)

/-- A row that was suspended before is left out. -/
theorem LoopInvariant.skip (hinv : LoopInvariant s source mntner h₀ done t)
    (hmem : row ∈ t.suspended) : LoopInvariant s source mntner h₀ (done ++ [row]) t := by
  refine { hinv with
    within := fun r hr ↦ List.mem_append_left _ (hinv.within r hr)
    kept := fun r hr hkept ↦ ?_ }
  rcases List.mem_append.mp hr with hr | hr
  · exact hinv.kept r hr hkept
  · exact absurd (List.mem_singleton.mp hr ▸ hmem) hkept

/-- A row with another active mntner stays. -/
theorem LoopInvariant.keep (hinv : LoopInvariant s source mntner h₀ done t)
    {cache : LruCache String Bool} (hne : row.rpslPk ≠ mntner)
    (hactive : ∃ m ∈ otherMntners mntner row,
      mntnerActive source h₀.working.objects.rows m = true)
    (hcache : ∀ e ∈ cache,
      (e.2 = true → mntnerActive source h₀.working.objects.rows e.1 = true) ∧
        (e.2 = false → mntnerActive source t.handler.working.objects.rows e.1 = false)) :
    LoopInvariant s source mntner h₀ (done ++ [row]) { t with cache } := by
  refine { hinv with
    cache := hcache
    within := fun r hr ↦ List.mem_append_left _ (hinv.within r hr)
    kept := fun r hr hkept ↦ ?_ }
  rcases List.mem_append.mp hr with hr | hr
  · exact hinv.kept r hr hkept
  · rw [List.mem_singleton.mp hr]
    exact ⟨hne, hactive⟩

/-- A row without another active mntner, or under the key of the suspended one, is suspended. -/
theorem LoopInvariant.suspend (hinv : LoopInvariant s source mntner h₀ done t)
    {handler : DatabaseHandler} {cache : LruCache String Bool}
    (hmem : row ∉ t.suspended) (hrow : row ∈ h₀.working.objects.rows)
    (hlists : row.rpslPk ≠ mntner → mntner ∈ mntBy row) (hsource : row.source = source)
    (hinactive : row.rpslPk ≠ mntner → ∀ m ∈ otherMntners mntner row,
      mntnerActive source t.handler.working.objects.rows m = false)
    (hcache : ∀ e ∈ cache,
      (e.2 = true → mntnerActive source h₀.working.objects.rows e.1 = true) ∧
        (e.2 = false → mntnerActive source t.handler.working.objects.rows e.1 = false))
    (hsuspended : RowSuspended s t.handler handler row) :
    LoopInvariant s source mntner h₀ (done ++ [row]) ⟨handler, cache, t.suspended ++ [row]⟩ := by
  have hstill {m : String} (h : mntnerActive source t.handler.working.objects.rows m = false) :
      mntnerActive source handler.working.objects.rows m = false := by
    rw [hsuspended.objects]
    exact mntnerActive_filter h
  refine ⟨?_, ?_, ?_, hsuspended.now.trans hinv.now, hsuspended.buffer,
    fun hkeep ↦ hsuspended.numbers source (hinv.numbers hkeep), ?_, ?_, ?_, ?_, ?_, ?_⟩
  · show handler.working.objects.rows = _
    rw [hsuspended.objects, hinv.objects, List.filter_filter]
    refine List.filter_congr (fun r _ ↦ ?_)
    by_cases hr : r = row <;> simp [hr, hmem]
  · show handler.working.suspended = _
    rw [hsuspended.suspended, hinv.moved, hinv.now, hinv.nextPk, List.mapIdx_append,
      List.append_assoc]
    simp
  · show handler.nextPk = _
    rw [hsuspended.nextPk, hinv.nextPk, List.length_append]
    rfl
  · exact fun e he ↦ ⟨(hcache e he).1, fun hfalse ↦ hstill ((hcache e he).2 hfalse)⟩
  · intro r hr
    rcases List.mem_append.mp hr with hr | hr
    · exact List.mem_append_left _ (hinv.within r hr)
    · exact List.mem_append_right _ hr
  · exact List.nodup_append.mpr ⟨hinv.nodup, List.nodup_singleton row, fun r hr r' hr' ↦ by
      rw [List.mem_singleton.mp hr']
      exact fun h ↦ hmem (h ▸ hr)⟩
  · intro r hr hkept
    rcases List.mem_append.mp hr with hr | hr
    · exact hinv.kept r hr (fun h ↦ hkept (List.mem_append_left _ h))
    · exact absurd (List.mem_append_right _ hr) hkept
  · intro r hr hne m hm
    rcases List.mem_append.mp hr with hr | hr
    · exact hstill (hinv.gone r hr hne m hm)
    · obtain rfl := List.mem_singleton.mp hr
      exact hstill (hinactive hne m hm)
  · intro hkeeps r hr hclass hne
    rcases List.mem_append.mp hr with hr | hr
    · exact hinv.alone hkeeps r hr hclass hne
    · obtain rfl := List.mem_singleton.mp hr
      -- Its other mntners were suspended before, so the suspended mntner maintains them alone.
      have hall : ∀ m ∈ otherMntners mntner r,
          mntnerActive source h₀.working.objects.rows m = true →
            MaintainedAlone source mntner h₀.working.objects.rows m := by
        intro m hm hbefore
        obtain ⟨r', hr', hmntner⟩ := hinv.suspended_of_inactive hbefore (hinactive hne m hm)
        obtain ⟨hclass', -, rfl⟩ := of_decide_eq_true hmntner
        have hother := of_decide_eq_true (List.mem_filter.mp hm).2
        exact hinv.alone hkeeps r' hr' hclass' hother
      refine ⟨hne, r, hrow, decide_eq_true ⟨hclass, hsource, rfl⟩, hlists hne, fun m hm ↦ ?_⟩
      by_contra hbefore
      obtain ⟨m', hm', hactive, hnotAlone⟩ := hkeeps r hrow
        (decide_eq_true ⟨hsource, hlists hne⟩) hne ⟨m, hm, Bool.not_eq_false _ ▸ hbefore⟩
      exact hnotAlone (hall m' hm' hactive)

/-- The loop body succeeds on every row with a list of mntners. -/
theorem LoopInvariant.step (hinv : LoopInvariant s source mntner h₀ done t)
    (hunique : h₀.working.objects.PksUnique) (hrow : row ∈ h₀.working.objects.rows)
    (hmntBy : (row.parsedData.lookup "mnt-by").isSome)
    (hlists : row.rpslPk ≠ mntner → mntner ∈ mntBy row) (hsource : row.source = source) :
    ∃ t', suspendRow s source mntner t row = some t' ∧
      LoopInvariant s source mntner h₀ (done ++ [row]) t' := by
  unfold suspendRow
  by_cases hmem : row ∈ t.suspended
  · rw [if_pos hmem]
    exact ⟨t, rfl, hinv.skip hmem⟩
  rw [if_neg hmem]
  obtain ⟨mntners, hmntners⟩ := Option.isSome_iff_exists.mp hmntBy
  rw [hmntners]
  simp only [Option.bind_eq_bind, Option.bind_some]
  generalize hfetch : LruCache.fetchAll mntnerCacheSize
    (mntnerActive source t.handler.working.objects.rows) t.cache (otherMntners mntner row) = fetched
  obtain ⟨results, cache⟩ := fetched
  obtain ⟨hactive, hinactive, hcache⟩ := hinv.fetched hfetch
  dsimp only
  split
  · next hkeep => exact ⟨_, rfl, hinv.keep hkeep.1 (hactive hkeep.2) hcache⟩
  · next hsuspend =>
    have hmemNow : row ∈ t.handler.working.objects.rows := by
      rw [hinv.objects]
      exact List.mem_filter.mpr ⟨hrow, by simpa using hmem⟩
    have huniqueNow : t.handler.working.objects.PksUnique := by
      unfold ObjectTable.PksUnique
      rw [hinv.objects]
      exact hunique.sublist (List.filter_sublist.map _)
    obtain ⟨handler, hresult, hsuspended⟩ := suspendRpslObject_spec (s := s) hinv.buffer huniqueNow
      hmemNow hmntBy (hsource ▸ hinv.numbers)
    rw [hresult, Option.bind_some]
    refine ⟨_, rfl, hinv.suspend hmem hrow hlists hsource (fun hne ↦ hinactive ?_) hcache
      hsuspended⟩
    by_contra hany
    exact hsuspend ⟨hne, Bool.not_eq_false _ ▸ hany⟩

/-- Before any row, the invariant only speaks about the cache. -/
theorem LoopInvariant.start (hbuffer : h₀.rpslUpsertBuffer = [])
    (hnumbers : s.keepJournal source = true → NumbersEntries s source h₀)
    {cache : LruCache String Bool}
    (hcache : ∀ e ∈ cache,
      (e.2 = true → mntnerActive source h₀.working.objects.rows e.1 = true) ∧
        (e.2 = false → mntnerActive source h₀.working.objects.rows e.1 = false)) :
    LoopInvariant s source mntner h₀ [] ⟨h₀, cache, []⟩ where
  objects := by simp
  moved := by simp
  nextPk := rfl
  now := rfl
  buffer := hbuffer
  numbers := hnumbers
  cache := hcache
  within := by simp
  nodup := List.nodup_nil
  kept := by simp
  gone := by simp
  alone := by simp

/-- A row with a mntner that is active at its turn stays. -/
theorem LoopInvariant.suspendRow_keep (hinv : LoopInvariant s source mntner h₀ done t)
    (hne : row.rpslPk ≠ mntner) (hmntBy : (row.parsedData.lookup "mnt-by").isSome)
    (hmem : row ∉ t.suspended) {m : String} (hm : m ∈ otherMntners mntner row)
    (hactive : mntnerActive source t.handler.working.objects.rows m = true) :
    ∃ cache, (∀ e ∈ cache,
        (e.2 = true → mntnerActive source h₀.working.objects.rows e.1 = true) ∧
          (e.2 = false → mntnerActive source t.handler.working.objects.rows e.1 = false)) ∧
      suspendRow s source mntner t row = some { t with cache } := by
  obtain ⟨mntners, hmntners⟩ := Option.isSome_iff_exists.mp hmntBy
  generalize hfetch : LruCache.fetchAll mntnerCacheSize
    (mntnerActive source t.handler.working.objects.rows) t.cache (otherMntners mntner row) = fetched
  obtain ⟨results, cache⟩ := fetched
  obtain ⟨-, hinactive, hcache⟩ := hinv.fetched hfetch
  refine ⟨cache, hcache, ?_⟩
  have hany : results.any Prod.snd = true := by
    by_contra hnone
    rw [hinactive (Bool.not_eq_true _ ▸ hnone) m hm] at hactive
    cases hactive
  unfold suspendRow
  rw [if_neg hmem, hmntners]
  simp only [Option.bind_eq_bind, Option.bind_some, hfetch]
  rw [if_pos ⟨hne, hany⟩]
  rfl

/-- The loop over rows that list the suspended mntner, or are its own. -/
theorem LoopInvariant.run {rows : List RPSLDatabaseObject}
    (hinv : LoopInvariant s source mntner h₀ done t) (hunique : h₀.working.objects.PksUnique)
    (hrows : ∀ row ∈ rows, row ∈ h₀.working.objects.rows ∧
      (row.parsedData.lookup "mnt-by").isSome ∧
      (row.rpslPk ≠ mntner → mntner ∈ mntBy row) ∧ row.source = source) :
    ∃ t', rows.foldlM (suspendRow s source mntner) t = some t' ∧
      LoopInvariant s source mntner h₀ (done ++ rows) t' := by
  induction rows generalizing done t with
  | nil => exact ⟨t, rfl, by rwa [List.append_nil]⟩
  | cons row rows ih =>
    obtain ⟨hrow, hmntBy, hlists, hsource⟩ := hrows row List.mem_cons_self
    obtain ⟨t₁, hstep, hinv₁⟩ := hinv.step hunique hrow hmntBy hlists hsource
    obtain ⟨t', hrest, hinv'⟩ := ih hinv₁ (fun r hr ↦ hrows r (List.mem_cons_of_mem row hr))
    refine ⟨t', ?_, by rwa [List.append_assoc] at hinv'⟩
    rw [List.foldlM_cons, hstep]
    exact hrest

end Loop

section Selection

/-- What a suspension is for: it removes only objects of its source, the mntner itself and those
that list it and no mntner that is active afterwards, and the objects that list it and stay
have another active mntner. -/
structure SuspendsRight (source mntner : String) (before after : List RPSLDatabaseObject) :
    Prop where
  unchanged : after.Sublist before
  onlySource : ∀ row ∈ before, row ∉ after → row.source = source
  removed : ∀ row ∈ before, row ∉ after → isMntner source mntner row = true ∨
    mntner ∈ mntBy row ∧ ∀ m ∈ otherMntners mntner row, mntnerActive source after m = false
  kept : ∀ row ∈ after, isMaintainedBy source mntner row = true →
    ∃ m ∈ otherMntners mntner row, mntnerActive source after m = true
  mntner : mntnerActive source after mntner = false

/-- Objects that list the suspended mntner and have other active mntners have one that is not
maintained by it alone; under its own key, objects of other classes have none of these. -/
structure Separated (source mntner : String) (rows : List RPSLDatabaseObject) : Prop where
  keeps : KeepsMaintainers source mntner rows
  sameKey : ∀ row ∈ rows, isMaintainedBy source mntner row = true → row.rpslPk = mntner →
    row.objectClass ≠ "mntner" → ∀ m ∈ otherMntners mntner row,
      mntnerActive source rows m = true → MaintainedAlone source mntner rows m

variable {s : Settings} {source mntner : String} {h h₀ : DatabaseHandler}
  {done : List RPSLDatabaseObject} {t : SuspensionLoop} {row : RPSLDatabaseObject}

/-- The rows that the loop runs over, in some order. -/
structure Queried (source mntner : String) (rows done : List RPSLDatabaseObject) : Prop where
  mem_iff : ∀ row, row ∈ done ↔ row ∈ rows ∧
    (isMaintainedBy source mntner row = true ∨ isMntner source mntner row = true)

/-- What is suspended, where the objects keep maintainers: the mntner itself, and objects that list
it and are under its key or had no other active mntner. -/
theorem LoopInvariant.mem_suspended_iff (hinv : LoopInvariant s source mntner h₀ done t)
    (hqueried : Queried source mntner h₀.working.objects.rows done)
    (hkeeps : KeepsMaintainers source mntner h₀.working.objects.rows) :
    row ∈ t.suspended ↔ row ∈ h₀.working.objects.rows ∧
      (isMntner source mntner row = true ∨ isMaintainedBy source mntner row = true ∧
        (row.rpslPk = mntner ∨ ∀ m ∈ otherMntners mntner row,
          mntnerActive source h₀.working.objects.rows m = false)) := by
  constructor
  · intro hmem
    obtain ⟨hrow, hcases⟩ := (hqueried.mem_iff row).mp (hinv.within row hmem)
    refine ⟨hrow, ?_⟩
    rcases hcases with hmaintained | hmntner
    · refine Or.inr ⟨hmaintained, ?_⟩
      by_cases hkey : row.rpslPk = mntner
      · exact Or.inl hkey
      · refine Or.inr (fun m hm ↦ ?_)
        by_contra hactive
        obtain ⟨m', hm', hactive', hnotAlone⟩ := hkeeps row hrow hmaintained hkey
          ⟨m, hm, Bool.not_eq_false _ ▸ hactive⟩
        obtain ⟨r, hr, hmntner⟩ := hinv.suspended_of_inactive hactive'
          (hinv.gone row hmem hkey m' hm')
        obtain ⟨hclass, -, rfl⟩ := of_decide_eq_true hmntner
        exact hnotAlone (hinv.alone hkeeps r hr hclass
          (of_decide_eq_true (List.mem_filter.mp hm').2))
    · exact Or.inl hmntner
  · rintro ⟨hrow, hcases⟩
    by_contra hkept
    have hdone : row ∈ done := by
      refine (hqueried.mem_iff row).mpr ⟨hrow, ?_⟩
      rcases hcases with hmntner | hmaintained
      · exact Or.inr hmntner
      · exact Or.inl hmaintained.1
    obtain ⟨hne, m, hm, hactive⟩ := hinv.kept row hdone hkept
    rcases hcases with hmntner | ⟨-, hkey | hnone⟩
    · exact hne (of_decide_eq_true hmntner).2.2
    · exact hne hkey
    · rw [hnone m hm] at hactive
      cases hactive

/-- A mntner that the suspended one maintains alone is suspended too. -/
theorem LoopInvariant.inactive_of_alone (hinv : LoopInvariant s source mntner h₀ done t)
    {m : String} {row : RPSLDatabaseObject} (hrow : row ∈ h₀.working.objects.rows)
    (hmntner : isMntner source m row = true) (hsuspended : row ∈ t.suspended) :
    mntnerActive source t.handler.working.objects.rows m = false := by
  obtain ⟨hclass, hsource, hkey⟩ := of_decide_eq_true hmntner
  unfold mntnerActive
  rw [hinv.objects, List.any_eq_false]
  intro r hr hmntner'
  obtain ⟨hr, hkept⟩ := List.mem_filter.mp hr
  obtain ⟨hclass', hsource', hkey'⟩ := of_decide_eq_true hmntner'
  have hsame : r = row := by
    refine List.inj_on_of_nodup_map h₀.working.objects.nodup hr hrow ?_
    show (⟨r.rpslPk, r.source, r.objectClass⟩ : ObjectKey) =
        ⟨row.rpslPk, row.source, row.objectClass⟩
    rw [hclass, hsource, hkey, hclass', hsource', hkey']
  rw [hsame] at hkept
  exact of_decide_eq_true hkept hsuspended

/-- No mntner becomes active. -/
theorem LoopInvariant.active_before (hinv : LoopInvariant s source mntner h₀ done t) {m : String}
    (hactive : mntnerActive source t.handler.working.objects.rows m = true) :
    mntnerActive source h₀.working.objects.rows m = true := by
  by_contra hbefore
  rw [hinv.objects, mntnerActive_filter (Bool.not_eq_true _ ▸ hbefore)] at hactive
  cases hactive

/-- A mntner that was active and whose row was not suspended is active. -/
theorem LoopInvariant.active_of_not_alone (hinv : LoopInvariant s source mntner h₀ done t)
    {m : String} (hactive : mntnerActive source h₀.working.objects.rows m = true)
    (hkept : ∀ row ∈ t.suspended, isMntner source m row = false) :
    mntnerActive source t.handler.working.objects.rows m = true := by
  by_contra hinactive
  obtain ⟨row, hrow, hmntner⟩ := hinv.suspended_of_inactive hactive
    (Bool.not_eq_true _ ▸ hinactive)
  rw [hkept row hrow] at hmntner
  cases hmntner

/-- Where the objects are separated, the loop does what a suspension is for, in every order. -/
theorem LoopInvariant.suspendsRight (hinv : LoopInvariant s source mntner h₀ done t)
    (hqueried : Queried source mntner h₀.working.objects.rows done)
    (hseparated : Separated source mntner h₀.working.objects.rows) :
    SuspendsRight source mntner h₀.working.objects.rows t.handler.working.objects.rows := by
  have hmem (row : RPSLDatabaseObject) :=
    (hinv.mem_suspended_iff hqueried hseparated.keeps : row ∈ t.suspended ↔ _)
  have hremoved : ∀ row ∈ h₀.working.objects.rows, row ∉ t.handler.working.objects.rows →
      row ∈ t.suspended := by
    intro row hrow hgone
    by_contra hkept
    rw [hinv.objects] at hgone
    exact hgone (List.mem_filter.mpr ⟨hrow, by simpa using hkept⟩)
  have hstays : ∀ row ∈ t.handler.working.objects.rows,
      row ∈ h₀.working.objects.rows ∧ row ∉ t.suspended := by
    intro row hrow
    rw [hinv.objects] at hrow
    exact ⟨List.mem_of_mem_filter hrow, of_decide_eq_true (List.mem_filter.mp hrow).2⟩
  refine ⟨?_, fun row hrow hgone ↦ ?_, fun row hrow hgone ↦ ?_, fun row hrow hmaintained ↦ ?_, ?_⟩
  · rw [hinv.objects]
    exact List.filter_sublist
  · obtain ⟨-, hmntner | ⟨hmaintained, -⟩⟩ := (hmem row).mp (hremoved row hrow hgone)
    · exact (of_decide_eq_true hmntner).2.1
    · exact (of_decide_eq_true hmaintained).1
  · obtain ⟨-, hmntner | ⟨hmaintained, hcases⟩⟩ := (hmem row).mp (hremoved row hrow hgone)
    · exact Or.inl hmntner
    by_cases hclass : isMntner source mntner row = true
    · exact Or.inl hclass
    refine Or.inr ⟨(of_decide_eq_true hmaintained).2, fun m hm ↦ ?_⟩
    rcases hcases with hkey | hnone
    · by_contra hafter
      have hbefore := hinv.active_before (Bool.not_eq_false _ ▸ hafter)
      have hother : row.objectClass ≠ "mntner" := fun h ↦
        hclass (decide_eq_true ⟨h, (of_decide_eq_true hmaintained).1, hkey⟩)
      obtain ⟨-, r, hr, hmntner, hlists, hnone⟩ := hseparated.sameKey row hrow hmaintained hkey
        hother m hm hbefore
      refine hafter (hinv.inactive_of_alone hr hmntner
        ((hmem r).mpr ⟨hr, Or.inr ⟨?_, Or.inr hnone⟩⟩))
      exact decide_eq_true ⟨(of_decide_eq_true hmntner).2.1, hlists⟩
    · rw [hinv.objects]
      exact mntnerActive_filter (hnone m hm)
  · obtain ⟨hbefore, hkept⟩ := hstays row hrow
    obtain ⟨hne, hactive⟩ := hinv.kept row
      ((hqueried.mem_iff row).mpr ⟨hbefore, Or.inl hmaintained⟩) hkept
    obtain ⟨m, hm, hactive, hnotAlone⟩ := hseparated.keeps row hbefore hmaintained hne hactive
    refine ⟨m, hm, hinv.active_of_not_alone hactive (fun r hr ↦ ?_)⟩
    by_contra hmntner
    obtain ⟨hclass, -, rfl⟩ := of_decide_eq_true (Bool.not_eq_false _ ▸ hmntner)
    exact hnotAlone (hinv.alone hseparated.keeps r hr hclass
      (of_decide_eq_true (List.mem_filter.mp hm).2))
  · unfold mntnerActive
    rw [List.any_eq_false]
    intro row hrow hmntner
    obtain ⟨hbefore, hkept⟩ := hstays row hrow
    exact hkept ((hmem row).mpr ⟨hbefore, Or.inl hmntner⟩)

/-- An order in which one row comes first. -/
def RowOrder.first {A : Type} [DecidableEq A] (row : A) : RowOrder A where
  order rows := if row ∈ rows then row :: rows.erase row else rows
  perm rows := by
    split
    · next hmem => exact (List.perm_cons_erase hmem).symm
    · exact List.Perm.refl rows

/-- The rows that a suspension finds can all be suspended, and its source can record it. -/
structure Suspendable (s : Settings) (source mntner : String) (h : DatabaseHandler) : Prop where
  buffer : h.rpslUpsertBuffer = []
  unique : h.working.objects.PksUnique
  numbers : s.keepJournal source = true → NumbersEntries s source h
  active : mntnerActive source h.working.objects.rows mntner = true
  mntBy : ∀ row ∈ h.working.objects.rows, isMntner source mntner row = true →
    (row.parsedData.lookup "mnt-by").isSome

/-- The rows of both queries. -/
theorem Suspendable.rows (hs : Suspendable s source mntner h₀)
    (hrow : row ∈ h₀.working.objects.rows)
    (hfound : isMaintainedBy source mntner row = true ∨ isMntner source mntner row = true) :
    row ∈ h₀.working.objects.rows ∧ (row.parsedData.lookup "mnt-by").isSome ∧
      (row.rpslPk ≠ mntner → mntner ∈ Updates.mntBy row) ∧ row.source = source := by
  rcases hfound with hmaintained | hmntner
  · obtain ⟨hsource, hlists⟩ := of_decide_eq_true hmaintained
    refine ⟨hrow, ?_, fun _ ↦ hlists, hsource⟩
    unfold Updates.mntBy at hlists
    cases hlookup : row.parsedData.lookup "mnt-by" with
    | some _ => rfl
    | none => simp [hlookup] at hlists
  · obtain ⟨-, hsource, hkey⟩ := of_decide_eq_true hmntner
    exact ⟨hrow, hs.mntBy row hrow hmntner, fun hne ↦ absurd hkey hne, hsource⟩

/-- A suspension runs its loop over the rows of both queries. -/
theorem suspendForMntner_eq {authoritative : String → Bool} {rowOrder : RowOrder RPSLDatabaseObject}
    (hauth : authoritative source = true) (hflush : h.flushRpslObjectWritingBuffer s = some h₀)
    (hs : Suspendable s source mntner h₀) :
    suspendForMntner s source mntner authoritative rowOrder h =
      ((rowOrder.order (h₀.working.objects.rows.filter (isMaintainedBy source mntner)) ++
        h₀.working.objects.rows.filter (isMntner source mntner)).foldlM
          (suspendRow s source mntner) ⟨h₀, [], []⟩).map (fun t ↦ (t.handler, t.suspended)) := by
  have hexists : h₀.working.objects.rows.filter (isMntner source mntner) ≠ [] := by
    obtain ⟨row, hrow, hmntner⟩ := List.any_eq_true.mp hs.active
    exact List.ne_nil_of_mem (List.mem_filter.mpr ⟨hrow, hmntner⟩)
  unfold suspendForMntner
  rw [if_pos hauth, hflush]
  simp only [Option.bind_eq_bind, Option.bind_some, if_neg hexists]
  cases (rowOrder.order (h₀.working.objects.rows.filter (isMaintainedBy source mntner)) ++
    h₀.working.objects.rows.filter (isMntner source mntner)).foldlM
      (suspendRow s source mntner) ⟨h₀, [], []⟩ <;> rfl

/-- In every order of the rows, a suspension succeeds and its loop keeps the invariant. -/
theorem suspendForMntner_spec {authoritative : String → Bool}
    (rowOrder : RowOrder RPSLDatabaseObject) (hauth : authoritative source = true)
    (hflush : h.flushRpslObjectWritingBuffer s = some h₀) (hs : Suspendable s source mntner h₀) :
    ∃ done t, suspendForMntner s source mntner authoritative rowOrder h =
        some (t.handler, t.suspended) ∧
      Queried source mntner h₀.working.objects.rows done ∧
      LoopInvariant s source mntner h₀ done t := by
  have hmem : ∀ row, row ∈ rowOrder.order (h₀.working.objects.rows.filter
        (isMaintainedBy source mntner)) ++
      h₀.working.objects.rows.filter (isMntner source mntner) ↔
      row ∈ h₀.working.objects.rows ∧
        (isMaintainedBy source mntner row = true ∨ isMntner source mntner row = true) := by
    intro row
    rw [List.mem_append, (rowOrder.perm _).mem_iff, List.mem_filter, List.mem_filter, and_or_left]
  have hstart : LoopInvariant s source mntner h₀ [] ⟨h₀, [], []⟩ :=
    .start hs.buffer hs.numbers (by simp)
  obtain ⟨t, hrun, hinv⟩ := hstart.run hs.unique (fun row hrow ↦
    hs.rows ((hmem row).mp hrow).1 ((hmem row).mp hrow).2)
  rw [suspendForMntner_eq hauth hflush hs, hrun]
  exact ⟨_, t, rfl, ⟨hmem⟩, hinv⟩

/-- A row under another key with another active mntner stays where it comes first, and so does one
that does not list the suspended mntner. -/
theorem suspendForMntner_first {authoritative : String → Bool} (hauth : authoritative source = true)
    (hflush : h.flushRpslObjectWritingBuffer s = some h₀) (hs : Suspendable s source mntner h₀)
    (hne : row.rpslPk ≠ mntner)
    (hactive : isMaintainedBy source mntner row = true → ∃ m ∈ otherMntners mntner row,
      mntnerActive source h₀.working.objects.rows m = true) :
    ∃ done t, suspendForMntner s source mntner authoritative (.first row) h =
        some (t.handler, t.suspended) ∧
      LoopInvariant s source mntner h₀ done t ∧ row ∉ done ∧
      ∀ r ∈ h₀.working.objects.rows, isMaintainedBy source mntner r = true → r ≠ row →
        r ∈ done := by
  have hnotMntner : isMntner source mntner row = false := by
    by_contra hmntner
    exact hne (of_decide_eq_true (Bool.not_eq_false _ ▸ hmntner)).2.2
  have hnodup : h₀.working.objects.rows.Nodup := hs.unique.of_map
  let query1 := h₀.working.objects.rows.filter (isMaintainedBy source mntner)
  let query2 := h₀.working.objects.rows.filter (isMntner source mntner)
  have hmem : ∀ r ∈ query1.erase row ++ query2, r ∈ h₀.working.objects.rows ∧
      (isMaintainedBy source mntner r = true ∨ isMntner source mntner r = true) := by
    intro r hr
    rcases List.mem_append.mp hr with hr | hr
    · obtain ⟨hr, hmaintained⟩ := List.mem_filter.mp (List.mem_of_mem_erase hr)
      exact ⟨hr, Or.inl hmaintained⟩
    · obtain ⟨hr, hmntner⟩ := List.mem_filter.mp hr
      exact ⟨hr, Or.inr hmntner⟩
  have hstart : LoopInvariant s source mntner h₀ [] ⟨h₀, [], []⟩ :=
    .start hs.buffer hs.numbers (by simp)
  -- The first row leaves only its results in the cache.
  have hfirst : ∃ cache, (∀ e ∈ cache,
        (e.2 = true → mntnerActive source h₀.working.objects.rows e.1 = true) ∧
          (e.2 = false → mntnerActive source h₀.working.objects.rows e.1 = false)) ∧
      ((RowOrder.first row).order query1 ++ query2).foldlM (suspendRow s source mntner)
          ⟨h₀, [], []⟩ =
        (query1.erase row ++ query2).foldlM (suspendRow s source mntner) ⟨h₀, cache, []⟩ := by
    by_cases hrow : row ∈ query1
    · obtain ⟨hmemRow, hmaintained⟩ := List.mem_filter.mp hrow
      obtain ⟨m, hm, hactiveM⟩ := hactive hmaintained
      obtain ⟨cache, hcache, hstep⟩ := hstart.suspendRow_keep hne
        (hs.rows hmemRow (Or.inl hmaintained)).2.1 List.not_mem_nil hm hactiveM
      refine ⟨cache, hcache, ?_⟩
      rw [show (RowOrder.first row).order query1 = row :: query1.erase row from if_pos hrow,
        List.cons_append, List.foldlM_cons, hstep]
      rfl
    · refine ⟨[], by simp, ?_⟩
      rw [show (RowOrder.first row).order query1 = query1 from if_neg hrow,
        List.erase_of_not_mem hrow]
  obtain ⟨cache, hcache, hfold⟩ := hfirst
  have hcached : LoopInvariant s source mntner h₀ [] ⟨h₀, cache, []⟩ :=
    .start hs.buffer hs.numbers hcache
  obtain ⟨t, hrun, hinv⟩ := hcached.run hs.unique (fun r hr ↦
    hs.rows (hmem r hr).1 (hmem r hr).2)
  refine ⟨_, t, ?_, hinv, ?_, fun r hr hmaintained hother ↦ ?_⟩
  · rw [suspendForMntner_eq hauth hflush hs, hfold, hrun]
    rfl
  · rw [List.nil_append, List.mem_append]
    rintro (hrow | hrow)
    · exact (hnodup.filter _).not_mem_erase hrow
    · rw [(List.mem_filter.mp hrow).2] at hnotMntner
      cases hnotMntner
  · rw [List.nil_append]
    exact List.mem_append_left _ ((List.mem_erase_of_ne hother).mpr
      (List.mem_filter.mpr ⟨hr, hmaintained⟩))

section Necessity

variable {authoritative : String → Bool}

/-- If the suspension is right in every order, then also where an object comes first whose other
mntners are all suspended later. -/
theorem keepsMaintainers_of_right (hauth : authoritative source = true)
    (hflush : h.flushRpslObjectWritingBuffer s = some h₀) (hs : Suspendable s source mntner h₀)
    (hright : ∀ rowOrder h' suspended, suspendForMntner s source mntner authoritative rowOrder h =
        some (h', suspended) →
      SuspendsRight source mntner h₀.working.objects.rows h'.working.objects.rows) :
    KeepsMaintainers source mntner h₀.working.objects.rows := by
  intro row hrow hmaintained hne hactive
  by_contra hnone
  obtain ⟨done, t, hrun, hinv, hnotDone, hothers⟩ := suspendForMntner_first hauth hflush hs hne
    (fun _ ↦ hactive)
  have hafter : row ∈ t.handler.working.objects.rows := by
    rw [hinv.objects]
    exact List.mem_filter.mpr ⟨hrow, by simpa using fun h ↦ hnotDone (hinv.within row h)⟩
  obtain ⟨m, hm, hstill⟩ := (hright _ _ _ hrun).kept row hafter hmaintained
  have halone : MaintainedAlone source mntner h₀.working.objects.rows m := by
    by_contra halone
    exact hnone ⟨m, hm, hinv.active_before hstill, halone⟩
  obtain ⟨hother, r, hr, hmntner, hlists, hinactive⟩ := halone
  have hnoActive : ¬ ∃ m' ∈ otherMntners mntner r,
      mntnerActive source h₀.working.objects.rows m' = true := by
    rintro ⟨m', hm', hactive'⟩
    rw [hinactive m' hm'] at hactive'
    cases hactive'
  have hneRow : r ≠ row := by
    rintro rfl
    exact hnoActive hactive
  have hsuspended : r ∈ t.suspended := by
    by_contra hkept
    exact hnoActive (hinv.kept r (hothers r hr
      (decide_eq_true ⟨(of_decide_eq_true hmntner).2.1, hlists⟩) hneRow) hkept).2
  rw [hinv.inactive_of_alone hr hmntner hsuspended] at hstill
  cases hstill

/-- If the suspension is right in every order, then also where a mntner comes first that is not
maintained by the suspended one alone. -/
theorem sameKey_of_right (hauth : authoritative source = true)
    (hflush : h.flushRpslObjectWritingBuffer s = some h₀) (hs : Suspendable s source mntner h₀)
    (hright : ∀ rowOrder h' suspended, suspendForMntner s source mntner authoritative rowOrder h =
        some (h', suspended) →
      SuspendsRight source mntner h₀.working.objects.rows h'.working.objects.rows)
    (hrow : row ∈ h₀.working.objects.rows) (hmaintained : isMaintainedBy source mntner row = true)
    (hkey : row.rpslPk = mntner) (hclass : row.objectClass ≠ "mntner") {m : String}
    (hm : m ∈ otherMntners mntner row)
    (hactive : mntnerActive source h₀.working.objects.rows m = true) :
    MaintainedAlone source mntner h₀.working.objects.rows m := by
  by_contra hnotAlone
  obtain ⟨r, hr, hmntner⟩ := List.any_eq_true.mp hactive
  obtain ⟨hclass', hsource', hkey'⟩ := of_decide_eq_true hmntner
  have hother : m ≠ mntner := of_decide_eq_true (List.mem_filter.mp hm).2
  have hactive' : isMaintainedBy source mntner r = true → ∃ m' ∈ otherMntners mntner r,
      mntnerActive source h₀.working.objects.rows m' = true := by
    intro hmaintained'
    by_contra hnone
    refine hnotAlone ⟨hother, r, hr, hmntner, (of_decide_eq_true hmaintained').2, fun m' hm' ↦ ?_⟩
    by_contra hactive'
    exact hnone ⟨m', hm', Bool.not_eq_false _ ▸ hactive'⟩
  obtain ⟨done, t, hrun, hinv, hnotDone, hothers⟩ := suspendForMntner_first hauth hflush hs
    (hkey' ▸ hother) hactive'
  have hneRow : row ≠ r := fun h ↦ hclass (h ▸ hclass')
  have hgone : row ∉ t.handler.working.objects.rows := by
    rw [hinv.objects]
    intro hafter
    exact (hinv.kept row (hothers row hrow hmaintained hneRow)
      (of_decide_eq_true (List.mem_filter.mp hafter).2)).1 hkey
  rcases (hright _ _ _ hrun).removed row hrow hgone with hmntnerRow | ⟨-, hinactive⟩
  · exact hclass (of_decide_eq_true hmntnerRow).1
  · have hstill : mntnerActive source t.handler.working.objects.rows m = true := by
      unfold mntnerActive
      rw [hinv.objects]
      exact List.any_eq_true.mpr ⟨r, List.mem_filter.mpr ⟨hr, by
        simpa using fun h ↦ hnotDone (hinv.within r h)⟩, hmntner⟩
    rw [hinactive m hm] at hstill
    cases hstill

end Necessity

/-- A suspension does what it is for in every order of the rows, and removes the same rows in all of
them, exactly where the objects are separated. -/
theorem suspendsRight_iff (authoritative : String → Bool) (hauth : authoritative source = true)
    (hflush : h.flushRpslObjectWritingBuffer s = some h₀) (hs : Suspendable s source mntner h₀) :
    ((∀ rowOrder h' suspended, suspendForMntner s source mntner authoritative rowOrder h =
          some (h', suspended) →
        SuspendsRight source mntner h₀.working.objects.rows h'.working.objects.rows) ∧
      ∀ rowOrder rowOrder' h' h'' suspended suspended',
        suspendForMntner s source mntner authoritative rowOrder h = some (h', suspended) →
        suspendForMntner s source mntner authoritative rowOrder' h = some (h'', suspended') →
          h'.working.objects.rows = h''.working.objects.rows) ↔
      Separated source mntner h₀.working.objects.rows := by
  constructor
  · rintro ⟨hright, -⟩
    exact ⟨keepsMaintainers_of_right hauth hflush hs hright,
      fun row hrow hmaintained hkey hclass m hm hactive ↦
        sameKey_of_right hauth hflush hs hright hrow hmaintained hkey hclass hm hactive⟩
  · intro hseparated
    constructor
    · intro rowOrder h' suspended hrun
      obtain ⟨done, t, hspec, hqueried, hinv⟩ := suspendForMntner_spec rowOrder hauth hflush hs
      obtain ⟨rfl, rfl⟩ := Prod.mk.inj (Option.some_inj.mp (hrun.symm.trans hspec))
      exact hinv.suspendsRight hqueried hseparated
    · intro rowOrder rowOrder' h' h'' suspended suspended' hrun hrun'
      obtain ⟨done, t, hspec, hqueried, hinv⟩ := suspendForMntner_spec rowOrder hauth hflush hs
      obtain ⟨done', t', hspec', hqueried', hinv'⟩ :=
        suspendForMntner_spec rowOrder' hauth hflush hs
      obtain ⟨rfl, rfl⟩ := Prod.mk.inj (Option.some_inj.mp (hrun.symm.trans hspec))
      obtain ⟨rfl, rfl⟩ := Prod.mk.inj (Option.some_inj.mp (hrun'.symm.trans hspec'))
      rw [hinv.objects, hinv'.objects]
      refine List.filter_congr (fun row _ ↦ decide_eq_decide.mpr (not_congr ?_))
      rw [hinv.mem_suspended_iff hqueried hseparated.keeps,
        hinv'.mem_suspended_iff hqueried' hseparated.keeps]

section Examples

/-- A visible row of an object with these mntners. -/
def maintainedRow (pk : Nat) (objectClass rpslPk : String) (mntners : List String) :
    RPSLDatabaseObject :=
  { storedRoute pk "TEST" with
    rpslPk
    objectClass
    parsedData := [("mnt-by", mntners)] }

/-- A mntner with a person of its own, and one that another mntner maintains as well. -/
def maintainedHandler : DatabaseHandler :=
  handlerOn [maintainedRow 0 "mntner" "A-MNT" ["A-MNT"], maintainedRow 1 "person" "P1" ["A-MNT"],
    maintainedRow 2 "mntner" "B-MNT" ["B-MNT"], maintainedRow 3 "person" "P2" ["A-MNT", "B-MNT"]]
    (by decide)

theorem suspendable_maintainedHandler :
    Suspendable localSettings "TEST" "A-MNT" maintainedHandler where
  buffer := rfl
  unique := by
    unfold ObjectTable.PksUnique
    decide
  numbers _ := ⟨rfl, fun _ _ n hn ↦ by cases hn⟩
  active := by decide
  mntBy := by decide

/-- The order in which the rows are stored. -/
def storedOrder : RowOrder RPSLDatabaseObject := ⟨id, List.Perm.refl⟩

/-- A suspension of the first mntner: the person with another active mntner stays. -/
theorem suspendsRight_maintainedHandler : ∃ h' suspended,
    suspendForMntner localSettings "TEST" "A-MNT" (fun _ ↦ true) storedOrder maintainedHandler =
        some (h', suspended) ∧
      h'.working.objects.rows.map (fun row ↦ row.rpslPk) = ["B-MNT", "P2"] ∧
      SuspendsRight "TEST" "A-MNT" maintainedHandler.working.objects.rows
        h'.working.objects.rows := by
  obtain ⟨⟨h', suspended⟩, hrun, hkept⟩ : ∃ r, suspendForMntner localSettings "TEST" "A-MNT"
      (fun _ ↦ true) storedOrder maintainedHandler = some r ∧
      r.1.working.objects.rows.map (fun row ↦ row.rpslPk) = ["B-MNT", "P2"] := ⟨_, rfl, rfl⟩
  have hkeeps : KeepsMaintainers "TEST" "A-MNT" maintainedHandler.working.objects.rows := by
    unfold KeepsMaintainers
    decide
  have hright := (suspendsRight_iff (h := maintainedHandler) (fun _ ↦ true) rfl rfl
    suspendable_maintainedHandler).mpr ⟨hkeeps, by decide⟩
  exact ⟨h', suspended, hrun, hkept, hright.1 storedOrder h' suspended hrun⟩

/-- A mntner, a route that two mntners maintain, and the other one, which the first maintains. -/
def sharedHandler : DatabaseHandler :=
  handlerOn [maintainedRow 1 "route" "192.0.2.0/24AS65530" ["A-MNT", "B-MNT"],
    maintainedRow 0 "mntner" "A-MNT" ["A-MNT"],
    maintainedRow 2 "mntner" "B-MNT" ["A-MNT"]] (by decide)

/-- The route stays without an active mntner, where it comes before its other mntner. -/
theorem suspended_sharedHandler :
    (suspendForMntner localSettings "TEST" "A-MNT" (fun _ ↦ true) storedOrder sharedHandler).map
        (fun (h, suspended) ↦ (h.working.objects.rows.map (fun row ↦ (row.rpslPk, mntBy row)),
          suspended.map (fun row ↦ row.rpslPk),
          mntnerActive "TEST" h.working.objects.rows "B-MNT")) =
      some ([("192.0.2.0/24AS65530", ["A-MNT", "B-MNT"])], ["A-MNT", "B-MNT"], false) := rfl

end Examples

end Selection

end Irrd.Updates
