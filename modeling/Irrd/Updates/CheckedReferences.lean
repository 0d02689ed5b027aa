import Irrd.Rpsl.ReferenceNames
import Irrd.Updates.ObjectQueries
import Irrd.Updates.Validators

/-!
# Checked references

What a reference validator has established when its checks pass. References of an object resolve to
objects that are saved with it, or to objects in the database that are not deleted. Objects that
refer to a deleted or created one are all deleted.
-/

namespace Irrd.Updates

open Irrd.Base Irrd.Rpsl Irrd.Storage Irrd.Utils

variable {c : SubmissionContext} {rows : List RPSLDatabaseObject}

/-- A row that a query by key finds. -/
structure IsQueried (key : ObjectKey) (row : RPSLDatabaseObject) : Prop where
  source : row.source = queriedName key.source
  rpslPk : row.rpslPk = queriedName key.rpslPk
  objectClass : row.objectClass = key.objectClass

/-- A row that is found under a key that is queried as it is has that key. -/
theorem IsQueried.key_eq {key : ObjectKey} {row : RPSLDatabaseObject} (h : IsQueried key row)
    (hpk : queriedName key.rpslPk = key.rpslPk) (hsource : queriedName key.source = key.source) :
    row.key = key := by
  cases key
  exact congr (congr (congrArg ObjectKey.mk (h.rpslPk.trans hpk)) (h.source.trans hsource))
    h.objectClass

namespace ReferenceValidator

variable {v v' : ReferenceValidator}

/-- Two validators that are preloaded with the same objects. -/
structure SamePreloads (v v' : ReferenceValidator) : Prop where
  preloadedNew : v'.preloadedNew = v.preloadedNew
  preloadedDeleted : v'.preloadedDeleted = v.preloadedDeleted

theorem SamePreloads.trans {v'' : ReferenceValidator} (h : SamePreloads v v')
    (h' : SamePreloads v' v'') : SamePreloads v v'' :=
  ⟨h'.1.trans h.1, h'.2.trans h.2⟩

/-- A cache of objects that are in the database and not to be deleted. -/
def CacheSound (rows : List RPSLDatabaseObject) (deleted cache : List ObjectKey) : Prop :=
  ∀ key ∈ cache, key ∉ deleted ∧ ∃ row ∈ rows, IsQueried key row

/-- A reference to an object that will be there. -/
def Resolves (rows : List RPSLDatabaseObject) (v : ReferenceValidator) (objectClasses : List String)
    (objectPk source : String) : Prop :=
  ∃ objectClass ∈ objectClasses, ⟨objectPk, source, objectClass⟩ ∈ v.preloadedNew ∨
    (⟨objectPk, source, objectClass⟩ ∉ v.preloadedDeleted ∧
      ∃ row ∈ rows, IsQueried ⟨objectPk, source, objectClass⟩ row)

theorem Resolves.of_same {objectClasses : List String} {objectPk source : String}
    (h : Resolves rows v' objectClasses objectPk source) (hsame : SamePreloads v v') :
    Resolves rows v objectClasses objectPk source := by
  unfold Resolves at h ⊢
  rwa [hsame.preloadedNew, hsame.preloadedDeleted] at h

section Known

variable {key : ObjectKey}

theorem known_eq_none (h : v.known key = none) : key ∉ v.preloadedDeleted := by
  unfold known at h
  split at h
  · cases h
  · split at h
    · cases h
    · split at h
      · cases h
      · assumption

theorem known_eq_true (h : v.known key = some true) : key ∈ v.cache ∨ key ∈ v.preloadedNew := by
  unfold known at h
  split at h
  · exact .inl ‹_›
  · split at h
    · exact .inr ‹_›
    · split at h <;> cases h

end Known

/-- One reference is resolved where it is found, and a sound cache stays sound. -/
theorem checkReferenceToOthers_spec {objectClasses : List String} {objectPk source : String}
    {found : Bool} (hcache : CacheSound rows v.preloadedDeleted v.cache)
    (h : v.checkReferenceToOthers c rows objectClasses objectPk source = .ok (v', found)) :
    SamePreloads v v' ∧ CacheSound rows v'.preloadedDeleted v'.cache ∧
      (found = true → Resolves rows v objectClasses objectPk source) := by
  unfold checkReferenceToOthers at h
  split at h
  · next known hknown =>
    cases h
    refine ⟨⟨rfl, rfl⟩, hcache, fun hfound ↦ ?_⟩
    subst hfound
    obtain ⟨objectClass, hclass, hkey⟩ := List.exists_of_findSome?_eq_some hknown
    refine ⟨objectClass, hclass, ?_⟩
    rcases known_eq_true hkey with hcached | hnew
    · exact .inr (hcache _ hcached)
    · exact .inl hnew
  · next hknown =>
    obtain ⟨results, hresults, h⟩ := bind_eq_ok_iff.mp h
    cases h
    have hmem (row : RPSLDatabaseObject) :=
      @mem_executeQuery_keyCalls _ _ _ _ _ _ hresults row
    have hresult (row : RPSLDatabaseObject) (hrow : row ∈ results) :
        row.objectClass ∈ objectClasses ∧
          ⟨objectPk, source, row.objectClass⟩ ∉ v.preloadedDeleted ∧
          ∃ row' ∈ rows, IsQueried ⟨objectPk, source, row.objectClass⟩ row' := by
      obtain ⟨hmember, hsource, hclass, hpk⟩ := (hmem row).mp hrow
      refine ⟨hclass, known_eq_none (List.findSome?_eq_none_iff.mp hknown _ hclass), row, hmember,
        hsource, ?_, rfl⟩
      simpa using hpk
    refine ⟨⟨rfl, rfl⟩, fun key hkey ↦ ?_, fun hfound ↦ ?_⟩
    · rcases List.mem_append.mp hkey with hkey | hkey
      · exact hcache key hkey
      · obtain ⟨row, hrow, rfl⟩ := List.mem_map.mp hkey
        exact (hresult row hrow).2
    · obtain ⟨row, hrow⟩ := List.exists_mem_of_ne_nil results (of_decide_eq_true hfound)
      obtain ⟨hclass, hkept⟩ := hresult row hrow
      exact ⟨row.objectClass, hclass, .inr hkept⟩

/-- All references of an object resolve where the check passes. -/
theorem checkReferencesToOthers_spec {obj : ParsedObject} {result : ValidatorResult}
    (hcache : CacheSound rows v.preloadedDeleted v.cache)
    (h : v.checkReferencesToOthers c rows obj = .ok (v', result)) :
    SamePreloads v v' ∧ CacheSound rows v'.preloadedDeleted v'.cache ∧
      (result.isValid = true → ∀ reference ∈ referencesOf obj,
        Resolves rows v reference.2.1 reference.2.2 (objectKey obj).source) := by
  have hfold (references : List (String × List String × String))
      (t : ReferenceValidator × ValidatorResult)
      (hcache : CacheSound rows t.1.preloadedDeleted t.1.cache)
      (h : references.foldlM (checkReference c rows (objectKey obj).source) t = .ok (v', result)) :
      SamePreloads t.1 v' ∧ CacheSound rows v'.preloadedDeleted v'.cache ∧
        (result.isValid = true → t.2.isValid = true ∧ ∀ reference ∈ references,
          Resolves rows t.1 reference.2.1 reference.2.2 (objectKey obj).source) := by
    induction references generalizing t with
    | nil =>
      cases h
      exact ⟨⟨rfl, rfl⟩, hcache, fun hvalid ↦ ⟨hvalid, by simp⟩⟩
    | cons reference references ih =>
      rw [List.foldlM_cons] at h
      obtain ⟨t', ht', h⟩ := bind_eq_ok_iff.mp h
      obtain ⟨⟨v₁, found⟩, hfound, ht'⟩ := bind_eq_ok_iff.mp ht'
      cases ht'
      obtain ⟨hsame, hcache₁, hresolves⟩ := checkReferenceToOthers_spec hcache hfound
      obtain ⟨hsame', hcache', hrest⟩ := ih _ hcache₁ h
      refine ⟨hsame.trans hsame', hcache', fun hvalid ↦ ?_⟩
      obtain ⟨hvalid₁, hrest⟩ := hrest hvalid
      cases found with
      | false => simp at hvalid₁
      | true =>
        refine ⟨hvalid₁, fun other hother ↦ ?_⟩
        rcases List.mem_cons.mp hother with rfl | hother
        · exact hresolves rfl
        · exact (hrest other hother).of_same hsame
  obtain ⟨hsame, hcache', hresolves⟩ := hfold _ _ hcache h
  exact ⟨hsame, hcache', fun hvalid ↦ (hresolves hvalid).2⟩

/-- A row that refers to an object through one of its inbound fields. -/
def RefersTo (row : RPSLDatabaseObject) (obj : ParsedObject) : Prop :=
  row.source = queriedName (objectKey obj).source ∧
    ∃ name ∈ obj.referencesStrongInbound, ∃ values, row.parsedData.lookup name = some values ∧
      display obj.pk ∈ values

/-- Fields that refer to objects are found by lookups. -/
theorem display_lower_of_mem_inbound {obj : ParsedObject} {name : String}
    (h : name ∈ obj.referencesStrongInbound) : display (lower name.toList) = name := by
  unfold ParsedObject.referencesStrongInbound at h
  rw [List.mem_eraseDups, List.mem_flatMap] at h
  obtain ⟨c, hc, h⟩ := h
  obtain ⟨f, hf, rfl⟩ := List.mem_map.mp h
  obtain ⟨hf, hstrong⟩ := List.mem_filter.mp hf
  exact (strongField_of_strong c hc f hf (Bool.and_elim_left hstrong)).lower

/-- The referring objects are those that are not deleted. -/
theorem mem_referencesFromOthers {obj : ParsedObject} {referring : List RPSLDatabaseObject}
    (h : v.referencesFromOthers c rows obj = .ok referring) {row : RPSLDatabaseObject} :
    row ∈ referring ↔ row ∈ rows ∧ RefersTo row obj ∧ row.key ∉ v.preloadedDeleted := by
  unfold referencesFromOthers at h
  split at h
  · next hnone =>
    cases h
    simp [RefersTo, hnone]
  · next hsome =>
    obtain ⟨results, hresults, h⟩ := bind_eq_ok_iff.mp h
    cases h
    have hupper : upper (display obj.pk) = display obj.pk := upper_display_upperText _
    have hmem :=
      @mem_executeQuery _ _ _ _ (by simp [QueryCall.LooksUpAddress]) rfl hresults row
    simp only [List.forall_mem_cons, List.not_mem_nil, false_imp_iff, implies_true, and_true,
      holds_sources, holds_lookupAttrsIn hsome (fun _ ↦ display_lower_of_mem_inbound), hupper]
      at hmem
    rw [List.mem_filter, hmem, RefersTo, decide_eq_true_eq, and_assoc]

/-- An object may be deleted if all objects that refer to it are. -/
theorem deletion_isValid {obj : ParsedObject} {result : ValidatorResult}
    (h : v.checkReferencesFromOthersForDeletion c rows obj false = .ok result)
    (hvalid : result.isValid = true) {row : RPSLDatabaseObject} (hrow : row ∈ rows)
    (hrefers : RefersTo row obj) : row.key ∈ v.preloadedDeleted := by
  obtain ⟨referring, hreferring, h⟩ := bind_eq_ok_iff.mp h
  cases h
  rw [if_neg (by simp)] at hvalid
  by_contra hkept
  have hmem := (mem_referencesFromOthers hreferring).mpr ⟨hrow, hrefers, hkept⟩
  rw [(eq_nil_of_foldl_addError hvalid).1] at hmem
  cases hmem

/-- An object may be created if its name is not protected, and all objects that refer to it are
deleted. -/
theorem creation_isValid {db : Database} {obj : ParsedObject} {result : ValidatorResult}
    (h : v.checkProtectedName c db obj false = .ok result) (hvalid : result.isValid = true) :
    isProtectedName db.protectedNames obj = false ∧
      ∀ row ∈ db.objects.rows, RefersTo row obj → row.key ∈ v.preloadedDeleted := by
  obtain ⟨referring, hreferring, h⟩ := bind_eq_ok_iff.mp h
  cases h
  rw [if_neg (by simp)] at hvalid
  dsimp only at hvalid
  split at hvalid
  · simp at hvalid
  · next hprotected =>
    refine ⟨by simpa using hprotected, fun row hrow hrefers ↦ ?_⟩
    by_contra hkept
    have hmem := (mem_referencesFromOthers hreferring).mpr ⟨hrow, hrefers, hkept⟩
    rw [(eq_nil_of_foldl_addError hvalid).1] at hmem
    cases hmem

end ReferenceValidator

end Irrd.Updates
