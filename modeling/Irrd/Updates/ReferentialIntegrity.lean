import Irrd.Base.ReferencedStore
import Irrd.Base.Reaches
import Irrd.Rpsl.ReferenceNames
import Irrd.Updates.HandledSubmissions

/-!
# Referential integrity

Where all strong references of a source resolve, they still do after any run of submissions, if
these are in strict mode, use no override and do not write and delete one object together.
-/

namespace Irrd.Updates

open Irrd.Base Irrd.Conf Irrd.Rpsl Irrd.Storage Irrd.Utils

section Names

/-- A stored name is queried as it is. -/
theorem queriedName_of_isStoredName {text : List Char} (h : IsStoredName text) :
    queriedName (display text) = display text := by
  have hupper : upper (display text) = display text := by
    rcases h with rfl | ⟨name, -, rfl⟩
    · rfl
    · exact upper_display_upperText name
  have htext : (display text).toList = text := String.toList_ofList
  unfold queriedName
  rw [hupper, htext, strip_of_isStoredName h]

end Names

section References

/-- What the references of an object depend on. -/
abbrev LinkedObject := ObjectKey × List (String × List String)

/-- The key and the data of a row. -/
def linkedRow (row : RPSLDatabaseObject) : LinkedObject := (row.key, row.parsedData)

/-- The key and the data that are written for an object. -/
def linkedObject (c : SubmissionContext) (obj : ParsedObject) : LinkedObject :=
  (objectKey obj, (writtenObject c.render obj).parsedData)

/-- The keys that a name in a strong field may refer to: those of objects of the same source. -/
def referredKeys (source name : String) (classes : List String) : Set ObjectKey :=
  {key | key.rpslPk = name ∧ key.source = source ∧ key.objectClass ∈ classes}

/-- The strong references of an object, by the fields of its class. -/
def strongReferences (e : LinkedObject) : Set (Set ObjectKey) :=
  {alternatives | ∃ c ∈ objectClasses, c.rpslObjectClass = e.1.objectClass ∧
    ∃ field ∈ c.referringStrongFields, ∃ name ∈ (e.2.lookup field.1).getD [],
      alternatives = referredKeys e.1.source name field.2}

/-- Objects with their strong references. -/
def rpslLinks : Linked LinkedObject ObjectKey := ⟨Prod.fst, strongReferences⟩

/-- Every name in a strong field of an object of a source is the primary key of an object of that
source, of a class that the field refers to. -/
def ReferencesClosed (source : String) (rows : List RPSLDatabaseObject) : Prop :=
  ∀ row ∈ rows, row.source = source → ∀ c ∈ objectClasses, c.rpslObjectClass = row.objectClass →
    ∀ field ∈ c.referringStrongFields, ∀ name ∈ (row.parsedData.lookup field.1).getD [],
      ∃ row' ∈ rows, row'.rpslPk = name ∧ row'.source = source ∧ row'.objectClass ∈ field.2

/-- The objects of a source. -/
def linkedRows (source : String) (rows : List RPSLDatabaseObject) : Set LinkedObject :=
  {e | ∃ row ∈ rows, row.source = source ∧ linkedRow row = e}

theorem referencesClosed_iff (source : String) (rows : List RPSLDatabaseObject) :
    ReferencesClosed source rows ↔ rpslLinks.Closed (linkedRows source rows) := by
  constructor
  · rintro hclosed _ ⟨row, hrow, hsource, rfl⟩ _
      ⟨c, hc, hclass, field, hfield, name, hname, rfl⟩
    obtain ⟨row', hrow', hpk, hsource', hclass'⟩ :=
      hclosed row hrow hsource c hc hclass field hfield name hname
    exact ⟨linkedRow row', ⟨row', hrow', hsource', rfl⟩, hpk, hsource'.trans hsource.symm, hclass'⟩
  · intro hclosed row hrow hsource c hc hclass field hfield name hname
    obtain ⟨_, ⟨row', hrow', hsource', rfl⟩, hpk, -, hclass'⟩ :=
      hclosed (linkedRow row) ⟨row, hrow, hsource, rfl⟩ (referredKeys row.source name field.2)
        ⟨c, hc, hclass, field, hfield, name, hname, rfl⟩
    exact ⟨row', hrow', hpk, hsource', hclass'⟩

/-- Classes are told apart by their names. -/
theorem eq_of_rpslObjectClass {c c' : RPSLObjectClass} (hc : c ∈ objectClasses)
    (hc' : c' ∈ objectClasses) (hname : c.rpslObjectClass = c'.rpslObjectClass) : c = c' :=
  List.inj_on_of_nodup_map (f := RPSLObjectClass.rpslObjectClass) (by decide +kernel) hc hc' hname

/-- The references that are stored for an object are those that the validator checks. -/
theorem mem_referencesOf {c : SubmissionContext} {obj : ParsedObject}
    (hclass : obj.objectClass ∈ objectClasses) {alternatives : Set ObjectKey}
    (h : alternatives ∈ strongReferences (linkedObject c obj)) :
    ∃ reference ∈ ReferenceValidator.referencesOf obj, alternatives =
        referredKeys (objectKey obj).source reference.2.2 reference.2.1 ∧
      ∃ name values, reference.2.2 = display name ∧ name ∈ values ∧
        (reference.1, reference.2.1, values) ∈ obj.referredStrongObjects := by
  obtain ⟨k, hk, hname, field, hfield, name, hmem, rfl⟩ := h
  obtain ⟨names, hnames, hmem⟩ := mem_getD_nil.mp hmem
  obtain rfl := eq_of_rpslObjectClass hk hclass hname
  have hlookup : (obj.parsedData.get field.1.toList).map ParsedValue.stored = some names :=
    (lookup_stored obj.parsedData field.1).symm.trans hnames
  obtain ⟨value, hvalue, rfl⟩ := Option.map_eq_some_iff.mp hlookup
  have hvalues : obj.values field.1 = value.texts := by
    unfold ParsedObject.values
    rw [hvalue]
    cases value <;> rfl
  have htext : name.toList ∈ obj.values field.1 := by
    rw [hvalues]
    exact mem_stored hmem
  have hreferred : (field.1, field.2, obj.values field.1) ∈ obj.referredStrongObjects := by
    unfold ParsedObject.referredStrongObjects
    refine List.mem_filterMap.mpr ⟨field, hfield, ?_⟩
    dsimp only
    rw [if_neg (List.ne_nil_of_mem htext)]
  refine ⟨(field.1, field.2, name), ?_, rfl, name.toList, _, ?_, htext, hreferred⟩
  · unfold ReferenceValidator.referencesOf
    refine List.mem_flatMap.mpr ⟨_, hreferred, List.mem_map.mpr ⟨name.toList, htext, ?_⟩⟩
    simp [display]
  · simp [display]

end References

section Submissions

variable {c : SubmissionContext} {sender : RequestMeta} {h : DatabaseHandler}
  {requests : List Request} {auth : AuthValidator} {result : SubmissionResult} {final : Submission}
  {v : Validators} {saved : DatabaseHandler}

/-- Requests for which the checks of references are conclusive. They are in strict mode, queries
find their names as they are, the object that is deleted has the key of the request, and no object
is both written and deleted. -/
structure ChecksReferences (requests : List Request) : Prop where
  strict : ∀ q, Request.change q ∈ requests → q.isValid = true → q.nonStrictMode = false
  queried : ∀ q, Request.change q ∈ requests → q.isValid = true →
    ∀ obj, q.rpslObjNew = some obj → queriedName (objectKey obj).rpslPk = (objectKey obj).rpslPk
  deleted : ∀ q, Request.change q ∈ requests → q.isValid = true → q.requestType = some .delete →
    ∀ obj current, q.rpslObjNew = some obj → q.rpslObjCurrent = some current →
      objectKey current = objectKey obj
  apart : ∀ q, Request.change q ∈ requests → q.isValid = true → q.requestType = some .delete →
    ∀ q', Request.change q' ∈ requests → q'.isValid = true → q'.requestType ≠ some .delete →
      ∀ obj obj', q.rpslObjNew = some obj → q'.rpslObjNew = some obj' →
        objectKey obj ≠ objectKey obj'

/-- Sources that can be written have names that are queried as they are. -/
def SourcesQueried (c : SubmissionContext) : Prop :=
  ∀ source, c.render.authoritative source = true → queriedName source = source

/-- The key of a saved change, in the terms of the validators. -/
theorem mem_keysOf {types : List UpdateRequestType} {key : ObjectKey} :
    key ∈ final.keysOf types ↔ ∃ r ∈ savedChanges final.requests,
      r.requestType ∈ types.map some ∧ ∃ obj, r.rpslObjNew = some obj ∧ objectKey obj = key := by
  unfold Submission.keysOf
  rw [List.mem_filterMap]
  constructor
  · rintro ⟨request, hmem, hkey⟩
    unfold Request.keyOf at hkey
    split at hkey
    · next hvalid =>
      obtain ⟨obj, hobj, rfl⟩ := Option.map_eq_some_iff.mp hkey
      cases request with
      | suspension q => simp [Request.changeType] at hvalid
      | change q => exact ⟨q, mem_savedChanges.mpr ⟨hmem, hvalid.1⟩, hvalid.2, obj, hobj, rfl⟩
    · cases hkey
  · rintro ⟨r, hr, htype, obj, hobj, rfl⟩
    obtain ⟨hmem, hvalid⟩ := mem_savedChanges.mp hr
    refine ⟨.change r, hmem, ?_⟩
    have hkey : (Request.change r).status.isValid = true ∧
        (Request.change r).changeType ∈ types.map some := ⟨hvalid, htype⟩
    rw [Request.keyOf, if_pos hkey]
    simp [Request.rpslObjNew, hobj]

/-- The key of a saved change is queried as it is. -/
theorem queriedName_objectKey {db : Database} (hchecks : ChecksReferences requests)
    (hsources : SourcesQueried c) {r q : ChangeRequest} {submitted obj : ParsedObject}
    (hsaved : SavedChange c db requests auth v r q submitted obj) :
    queriedName (objectKey obj).rpslPk = (objectKey obj).rpslPk ∧
      queriedName (objectKey obj).source = (objectKey obj).source := by
  obtain ⟨obj₀, hobj₀, hkey⟩ := hsaved.rpslObjNew
  refine ⟨?_, hsources _ ?_⟩
  · rw [← hkey]
    exact hchecks.queried q hsaved.mem hsaved.isValid obj₀ hobj₀
  · rw [hsaved.classified.objectKey_eq]
    exact hsaved.classified.authoritative

section Saved

variable (hhandled : Handled c sender h requests auth result final v saved)
  (hchecks : ChecksReferences requests) (hsources : SourcesQueried c)

include hhandled hchecks

/-- The key of a deleted object is that of the request, which the validators know of. -/
theorem mem_preloadedDeleted_iff {key : ObjectKey} :
    key ∈ v.reference.preloadedDeleted ↔ Deletes (savedChanges final.requests) key := by
  rw [hhandled.last.preloaded.preloadedDeleted, mem_keysOf]
  constructor
  · rintro ⟨r, hr, htype, obj, hobj, rfl⟩
    have htype : r.requestType = some .delete := by simpa using htype
    obtain ⟨q, submitted, obj', hsaved⟩ := hhandled.savedChange hr
    obtain ⟨obj₀, hobj₀, hkey⟩ := hsaved.rpslObjNew
    obtain rfl : obj = obj' := Option.some_inj.mp (hobj.symm.trans hsaved.classified.rpslObjNew)
    cases hcurrent : r.rpslObjCurrent with
    | none =>
      rw [hsaved.classified.isCreation.mp hcurrent] at htype
      cases htype
    | some current =>
      refine ⟨r, hr, htype, current, hcurrent, ?_⟩
      rw [hchecks.deleted q hsaved.mem hsaved.isValid (hsaved.requestType.symm.trans htype) obj₀
        current hobj₀ (hsaved.rpslObjCurrent.symm.trans hcurrent), hkey]
  · rintro ⟨r, hr, htype, current, hcurrent, rfl⟩
    obtain ⟨q, submitted, obj, hsaved⟩ := hhandled.savedChange hr
    obtain ⟨obj₀, hobj₀, hkey⟩ := hsaved.rpslObjNew
    refine ⟨r, hr, by simp [htype], obj, hsaved.classified.rpslObjNew, ?_⟩
    rw [hchecks.deleted q hsaved.mem hsaved.isValid (hsaved.requestType.symm.trans htype) obj₀
      current hobj₀ (hsaved.rpslObjCurrent.symm.trans hcurrent), hkey]

/-- No key is both written and deleted. -/
theorem not_deletes_of_writes {key : ObjectKey}
    (hwrites : Writes (savedChanges final.requests) key) :
    ¬ Deletes (savedChanges final.requests) key := by
  rw [← mem_preloadedDeleted_iff hhandled hchecks, hhandled.last.preloaded.preloadedDeleted,
    mem_keysOf]
  rintro ⟨r, hr, htype, obj, hobj, hkey⟩
  obtain ⟨r', hr', htype', obj', hobj', hkey'⟩ := hwrites
  obtain ⟨q, submitted, obj₁, hsaved⟩ := hhandled.savedChange hr
  obtain ⟨q', submitted', obj₁', hsaved'⟩ := hhandled.savedChange hr'
  obtain ⟨obj₀, hobj₀, hkey₀⟩ := hsaved.rpslObjNew
  obtain ⟨obj₀', hobj₀', hkey₀'⟩ := hsaved'.rpslObjNew
  obtain rfl : obj = obj₁ := Option.some_inj.mp (hobj.symm.trans hsaved.classified.rpslObjNew)
  obtain rfl : obj' = obj₁' := Option.some_inj.mp (hobj'.symm.trans hsaved'.classified.rpslObjNew)
  have htype : r.requestType = some .delete := by simpa using htype
  refine hchecks.apart q hsaved.mem hsaved.isValid
    (hsaved.requestType.symm.trans htype) q' hsaved'.mem
    hsaved'.isValid (fun heq ↦ htype' (hsaved'.requestType.trans heq)) obj₀ obj₀' hobj₀ hobj₀' ?_
  rw [hkey₀, hkey₀', hkey, hkey']

include hsources

/-- The object that was found for a saved change has the key of its new object. -/
theorem exists_row_of_current {r : ChangeRequest} (hr : r ∈ savedChanges final.requests)
    {obj current : ParsedObject} (hobj : r.rpslObjNew = some obj)
    (hcurrent : r.rpslObjCurrent = some current) :
    ∃ row ∈ h.working.objects.rows, row.key = objectKey obj := by
  obtain ⟨q, submitted, obj', hsaved⟩ := hhandled.savedChange hr
  obtain rfl : obj = obj' := Option.some_inj.mp (hobj.symm.trans hsaved.classified.rpslObjNew)
  obtain ⟨hpk, hsource⟩ := queriedName_objectKey hchecks hsources hsaved
  obtain ⟨row, hrow, hqueried, -⟩ := hsaved.classified.current current hcurrent
  rw [← hsaved.classified.objectKey_eq] at hqueried
  exact ⟨row, hrow, hqueried.key_eq hpk hsource⟩

/-- A reference of a saved object resolves to an object that is kept or written. -/
theorem exists_target (hoverride : auth.checkOverride c = .none) {r : ChangeRequest}
    (hr : r ∈ savedChanges final.requests) (htype : r.requestType ≠ some .delete)
    {obj : ParsedObject} (hobj : r.rpslObjNew = some obj) {alternatives : Set ObjectKey}
    (halternatives : alternatives ∈ strongReferences (linkedObject c obj)) :
    ∃ key ∈ alternatives, ((∃ row ∈ h.working.objects.rows, row.key = key) ∨
        Writes (savedChanges final.requests) key) ∧
      ¬ Deletes (savedChanges final.requests) key := by
  obtain ⟨q, submitted, obj', hsaved⟩ := hhandled.savedChange hr
  obtain rfl : obj = obj' := Option.some_inj.mp (hobj.symm.trans hsaved.classified.rpslObjNew)
  have hclassified := hsaved.classified
  have hstrict : r.nonStrictMode = false :=
    hsaved.nonStrictMode.trans (hchecks.strict q hsaved.mem hsaved.isValid)
  obtain ⟨hpk, hsource⟩ := queriedName_objectKey hchecks hsources hsaved
  have hclass : obj.objectClass ∈ objectClasses := by
    rw [hclassified.agrees.objectClass]
    exact hclassified.mem_objectClasses
  obtain ⟨reference, hreference, rfl, name, values, hname, hmem, hreferred⟩ :=
    mem_referencesOf hclass halternatives
  -- references of an object in strict mode are stored as queries look them up
  have hqueried : queriedName reference.2.2 = reference.2.2 := by
    obtain ⟨text, strictValidation, hparse, -, hmode⟩ := hclassified.parsed
    rw [hmode hstrict htype] at hparse
    unfold SubmissionContext.parseObject at hparse
    cases hobject : rpslObjectFromText c.env text true none with
    | error e =>
      rw [hobject] at hparse
      cases hparse
    | ok object =>
      rw [hobject] at hparse
      cases hparse
      rw [hclassified.agrees.referredStrongObjects hclassified.mem_objectClasses] at hreferred
      have hnames := (holdsNames_rpslObjectFromText hobject).referredStrongObjects
        hclassified.mem_objectClasses hreferred
      rw [hname]
      exact queriedName_of_isStoredName (hnames name hmem)
  obtain ⟨class', hclass', hresolves⟩ :=
    (hsaved.references hoverride hstrict).toOthers htype reference hreference
  refine ⟨⟨reference.2.2, (objectKey obj).source, class'⟩, ⟨rfl, rfl, hclass'⟩, ?_⟩
  rcases hresolves with hnew | ⟨hnotDeleted, row, hrow, hfound⟩
  · rw [hhandled.last.preloaded.preloadedNew, mem_keysOf] at hnew
    obtain ⟨r', hr', htype', obj', hobj', hkey'⟩ := hnew
    have hwrites : Writes (savedChanges final.requests)
        ⟨reference.2.2, (objectKey obj).source, class'⟩ := by
      refine ⟨r', hr', fun hdelete ↦ ?_, obj', hobj', hkey'⟩
      rw [hdelete] at htype'
      simp at htype'
    exact ⟨.inr hwrites, not_deletes_of_writes hhandled hchecks hwrites⟩
  · rw [mem_preloadedDeleted_iff hhandled hchecks] at hnotDeleted
    exact ⟨.inl ⟨row, hrow, hfound.key_eq hqueried hsource⟩, hnotDeleted⟩

/-- No object that is deleted is referred to by one that is kept. -/
theorem not_deletes_of_referred (hoverride : auth.checkOverride c = .none)
    {row : RPSLDatabaseObject} (hrow : row ∈ h.working.objects.rows)
    (hkept : ¬ Deletes (savedChanges final.requests) row.key) {alternatives : Set ObjectKey}
    (halternatives : alternatives ∈ strongReferences (linkedRow row)) {key : ObjectKey}
    (hkey : key ∈ alternatives) : ¬ Deletes (savedChanges final.requests) key := by
  rintro ⟨r, hr, htype, current, hcurrent, rfl⟩
  obtain ⟨k, hk, hclass, field, hfield, name, hmem, rfl⟩ := halternatives
  obtain ⟨names, hnames, hmem⟩ := mem_getD_nil.mp hmem
  obtain ⟨hpk, hsource, hreferring⟩ := hkey
  obtain ⟨q, submitted, obj, hsaved⟩ := hhandled.savedChange hr
  obtain ⟨obj₀, hobj₀, hkey₀⟩ := hsaved.rpslObjNew
  have hcurrentKey : objectKey current = objectKey obj := by
    rw [hchecks.deleted q hsaved.mem hsaved.isValid (hsaved.requestType.symm.trans htype) obj₀
      current hobj₀ (hsaved.rpslObjCurrent.symm.trans hcurrent), hkey₀]
  obtain ⟨-, hqueried⟩ := queriedName_objectKey hchecks hsources hsaved
  have hrefers : ReferenceValidator.RefersTo row current := by
    refine ⟨?_, field.1, ?_, names, hnames, ?_⟩
    · rw [hcurrentKey, hqueried, ← hcurrentKey]
      exact hsource.symm
    · obtain ⟨f, hf, rfl⟩ := List.mem_map.mp hfield
      obtain ⟨hf, hstrong⟩ := List.mem_filter.mp hf
      unfold ParsedObject.referencesStrongInbound
      rw [List.mem_eraseDups, List.mem_flatMap]
      refine ⟨k, hk, List.mem_map.mpr ⟨f, List.mem_filter.mpr ⟨hf, ?_⟩, rfl⟩⟩
      rw [hstrong, Bool.true_and, decide_eq_true_eq]
      exact hreferring
    · change (objectKey current).rpslPk ∈ names
      rw [hpk]
      exact hmem
  have hstrict : r.nonStrictMode = false :=
    hsaved.nonStrictMode.trans (hchecks.strict q hsaved.mem hsaved.isValid)
  have hpreloaded := (hsaved.references hoverride hstrict).fromOthers htype current
      hcurrent row hrow
    hrefers
  exact hkept ((mem_preloadedDeleted_iff hhandled hchecks).mp hpreloaded)

/-- A submission keeps the references of a source resolved. -/
theorem Handled.referencesClosed (hbuffer : h.rpslUpsertBuffer = [])
    (hoverride : auth.checkOverride c = .none) {source : String}
    (hclosed : ReferencesClosed source h.working.objects.rows) :
    ReferencesClosed source result.handler.committed.objects.rows := by
  have hstored := hhandled.storedAfter hbuffer hoverride (fun r hr obj current hobj hcurrent ↦
    exists_row_of_current hhandled hchecks hsources hr hobj hcurrent)
  rw [referencesClosed_iff] at hclosed ⊢
  let added : Set LinkedObject := {e | e.1.source = source ∧ ∃ r ∈ savedChanges final.requests,
    r.requestType ≠ some .delete ∧ ∃ obj, r.rpslObjNew = some obj ∧ linkedObject c obj = e}
  let removed : Set ObjectKey := {key | Deletes (savedChanges final.requests) key}
  -- an object of the source under each key that is there or written
  have hexists (key : ObjectKey) (hsource : key.source = source)
      (hkey : (∃ row ∈ h.working.objects.rows, row.key = key) ∨
        Writes (savedChanges final.requests) key) :
      ∃ e ∈ linkedRows source h.working.objects.rows ∪ added, rpslLinks.key e = key := by
    rcases hkey with ⟨row, hrow, rfl⟩ | ⟨r, hr, htype, obj, hobj, rfl⟩
    · exact ⟨linkedRow row, .inl ⟨row, hrow, hsource, rfl⟩, rfl⟩
    · exact ⟨linkedObject c obj, .inr ⟨hsource, r, hr, htype, obj, hobj, rfl⟩, rfl⟩
  have hbatch : rpslLinks.Batch (linkedRows source h.working.objects.rows)
      (linkedRows source result.handler.committed.objects.rows) added removed := by
    constructor
    · rintro _ ⟨row, hrow, hsource, rfl⟩
      rcases hstored.rows row hrow with ⟨row₀, hrow₀, hkey, hdata, hkept⟩ |
        ⟨r, hr, htype, obj, hobj, hkey, hdata⟩
      · refine .inl ⟨⟨row₀, hrow₀, ?_, Prod.ext hkey hdata⟩, hkept⟩
        exact (congrArg ObjectKey.source hkey).trans hsource
      · exact .inr ⟨hsource, r, hr, htype, obj, hobj, Prod.ext hkey hdata.symm⟩
    · intro e he hkept
      have hpresent : (∃ row ∈ h.working.objects.rows, row.key = e.1) ∨
          Writes (savedChanges final.requests) e.1 := by
        rcases he with ⟨row, hrow, -, rfl⟩ | ⟨-, r, hr, htype, obj, hobj, rfl⟩
        · exact .inl ⟨row, hrow, rfl⟩
        · exact .inr ⟨r, hr, htype, obj, hobj, rfl⟩
      have hsource : e.1.source = source := by
        rcases he with ⟨row, -, hsource, rfl⟩ | ⟨hsource, -⟩ <;> exact hsource
      obtain ⟨row, hrow, hkey⟩ := hstored.present e.1 hpresent hkept
      exact ⟨linkedRow row, ⟨row, hrow, (congrArg ObjectKey.source hkey).trans hsource, rfl⟩, hkey⟩
  refine hclosed.batch hbatch ?_ ?_
  · rintro _ ⟨hsource, r, hr, htype, obj, hobj, rfl⟩ alternatives halternatives
    obtain ⟨key, hkey, hpresent, hkept⟩ :=
      exists_target hhandled hchecks hsources hoverride hr htype hobj halternatives
    obtain ⟨k, -, -, field, -, name, -, rfl⟩ := halternatives
    obtain ⟨e, he, rfl⟩ := hexists key (hkey.2.1.trans hsource) hpresent
    exact ⟨e, he, hkey, hkept⟩
  · rintro _ ⟨row, hrow, -, rfl⟩ hkept alternatives halternatives e' - hkey
    exact not_deletes_of_referred hhandled hchecks hsources hoverride hrow hkept halternatives hkey

end Saved

end Submissions

section Runs

variable {c : SubmissionContext} {h h' : DatabaseHandler} {source : String}

/-- A submission without an override for which the checks of references are conclusive. -/
def ChecksCall (c : SubmissionContext) (h : DatabaseHandler) (a : SubmissionAction) : Prop :=
  ∀ requests auth, a.call.parse c h.committed.objects.rows = .ok (requests, auth) →
    auth.checkOverride c = .none ∧ ChecksReferences requests

/-- No run of submissions leaves a reference of a source unresolved. -/
theorem referencesClosed_of_reaches (hsources : SourcesQueried c)
    (hreach : Reaches (submissionStep c) (ChecksCall c) h h')
    (hclosed : ReferencesClosed source h.committed.objects.rows) :
    ReferencesClosed source h'.committed.objects.rows := by
  refine hreach.invariant (P := fun h ↦ ReferencesClosed source h.committed.objects.rows) ?_ hclosed
  intro h₁ h₂ a hclosed hguard hstep
  obtain ⟨h₀, requests, auth, result, final, v, saved, hworking, hbuffer, hparse, hhandled, rfl⟩ :=
    handled_of_step hstep
  obtain ⟨hoverride, hchecks⟩ := hguard requests auth hparse
  rw [← hworking] at hclosed
  exact hhandled.referencesClosed hchecks hsources hbuffer hoverride hclosed

/-- A creation in strict mode, under a name that is queried as it is. -/
def isPlainCreation : Request → Bool
  | .change q => !q.nonStrictMode && q.requestType = some .create &&
      q.rpslObjNew.all (fun obj ↦ queriedName (objectKey obj).rpslPk = (objectKey obj).rpslPk)
  | .suspension _ => true

theorem checksReferences_of_all {requests : List Request}
    (hall : requests.all isPlainCreation = true) : ChecksReferences requests := by
  have hchange {q : ChangeRequest} (hq : Request.change q ∈ requests) : q.nonStrictMode = false ∧
      q.requestType = some .create ∧ ∀ obj, q.rpslObjNew = some obj →
        queriedName (objectKey obj).rpslPk = (objectKey obj).rpslPk := by
    have hplain := List.all_eq_true.mp hall _ hq
    simp only [isPlainCreation, Bool.and_eq_true, Bool.not_eq_true', decide_eq_true_eq] at hplain
    refine ⟨hplain.1.1, hplain.1.2, fun obj hobj ↦ ?_⟩
    have hqueried := hplain.2
    rw [hobj, Option.all_some, decide_eq_true_eq] at hqueried
    exact hqueried
  have hcreate {q : ChangeRequest} (hq : Request.change q ∈ requests) :
      q.requestType ≠ some .delete := by
    rw [(hchange hq).2.1]
    exact nofun
  exact ⟨fun q hq _ ↦ (hchange hq).1, fun q hq _ ↦ (hchange hq).2.2,
    fun q hq _ htype ↦ absurd htype (hcreate hq), fun q hq _ htype ↦ absurd htype (hcreate hq)⟩

/-- The creation of a person has no override, and its references are checked. -/
theorem checksCall_personCall :
    ChecksCall plainContext personHandler ⟨0, ⟨none, none⟩, personCall⟩ := by
  intro requests auth hparse
  have hparsed : (personCall.parse plainContext personHandler.committed.objects.rows).toOption.all
      (fun parsed ↦ parsed.1.all isPlainCreation) = true := by
    decide +kernel
  rw [toOption_eq_some_iff.mpr hparse, Option.all_some] at hparsed
  exact ⟨checkOverride_personCall hparse, checksReferences_of_all hparsed⟩

theorem referencesClosed_of_reaches_person : ∃ h',
    Reaches (submissionStep plainContext) (ChecksCall plainContext) personHandler h' ∧
      h'.committed.objects.rows.map (fun row ↦ row.rpslPk) =
        ["TEST-MNT", "P-TEST", "N-TEST"] ∧
      ReferencesClosed "TEST" h'.committed.objects.rows := by
  obtain ⟨-, -, result, -, -, -, hload, -, -, hrows⟩ := exists_personCall
  have hreach : Reaches (submissionStep plainContext) (ChecksCall plainContext) personHandler
      result.handler := by
    refine (Reaches.refl personHandler).tail checksCall_personCall ?_
    exact congrArg (Option.map SubmissionResult.handler) (toOption_eq_some_iff.mpr hload)
  refine ⟨result.handler, hreach, hrows, referencesClosed_of_reaches ?_ hreach ?_⟩
  · intro source hsource
    rw [show source = "TEST" from of_decide_eq_true hsource]
    decide +kernel
  · unfold ReferencesClosed
    decide +kernel

end Runs

end Irrd.Updates
