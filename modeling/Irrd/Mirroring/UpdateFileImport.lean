import Irrd.Base.Reconciliation
import Irrd.Mirroring.ImportParsers
import Irrd.Rpsl.WrittenObject
import Irrd.Updates.Suspension

/-!
# Update imports

A file is imported as the new state of its source: objects are written, removed or left in place,
so that the journal shows the difference. Source: `irrd/mirroring/parsers.py`. A failing statement
and an exception have no result.
-/

namespace Irrd.Mirroring

open Irrd.Base Irrd.Conf Irrd.Mirroring.Parsers Irrd.Rpki Irrd.Rpsl Irrd.Scopefilter Irrd.Storage
  Irrd.Updates Irrd.Utils

/-- The validators of an import. -/
structure ImportValidators where
  scopefilterValidator : ScopeFilterValidator
  roaValidator : Option BulkRouteROAValidator
  trie : PrefixItems

section Objects

/-- The key of an object within its source. -/
def objKey (obj : ParsedObject) : String × String := (display obj.pk, obj.rpslObjectClass)

/-- The key of a row within its source. -/
def rowKey (row : RPSLDatabaseObject) : String × String := (row.rpslPk, row.objectClass)

/-- A key in a source. -/
def inSource (source : String) (key : String × String) : ObjectKey := ⟨key.1, source, key.2⟩

/-- The object with the statuses that `parse_object` gives it,
`irrd/mirroring/parsers.py:118–123`. -/
def fileObject (r : RenderSettings) (s : Settings) (v : ImportValidators) (obj : ParsedObject) :
    RPSLObject :=
  let o := writtenObject r obj
  { o with
    rpkiStatus := fileImportRpkiStatus v.trie v.roaValidator o
    scopefilterStatus := v.scopefilterValidator.validateRpslObject s o }

end Objects

section Run

variable (env : Environment) (r : RenderSettings) (s : Settings) (i : ImportSettings)
  (v : ImportValidators)

/-- What `parse_object` records about an object, `irrd/mirroring/parsers.py:88–112`. -/
def recordOutcome (h : DatabaseHandler) (parsed : List Char × ImportOutcome) : DatabaseHandler :=
  let source := display i.source
  match parsed.2 with
  | .invalid errors => h.recordMirrorError source
      s!"Parsing errors: {errors}, original object text follows:\n{display parsed.1}"
  | .wrongSource found pk => h.recordMirrorError source
      s!"Invalid source {display found} for object {display pk}, expected {source}"
  | _ => h

/-- `objs_from_file`. -/
def objsFromFile (outcomes : List ImportOutcome) : List ParsedObject :=
  outcomes.filterMap (fun
    | .accepted obj => some obj
    | _ => none)

/-- The error that is returned. -/
def returnedError (outcomes : List ImportOutcome) : Option String :=
  outcomes.findSome? (fun
    | .importError message => some message
    | _ => none)

/-- `file_objs_by_pk`: a later object takes the place of an earlier one. -/
def fileObjsByPk (objs : List ParsedObject) : KeyedTable objKey :=
  objs.foldl (fun t obj ↦ t.upsert obj (fun _ ↦ obj) (fun _ hkey ↦ hkey.symm)) .empty

/-- The rows of the source. -/
def sourceRows (h : DatabaseHandler) : List RPSLDatabaseObject :=
  h.working.objects.rows.filter (fun row ↦ row.source = display i.source)

/-- Upsert an object of the file. -/
def upsertFileObject (h : DatabaseHandler) (obj : ParsedObject) : Option DatabaseHandler :=
  h.upsertRpslObject s (fileObject r s v obj) .syntheticNrtm false none none

/-- Delete an object that is not in the file. -/
def deleteMissing (h : DatabaseHandler) (key : String × String) : Option DatabaseHandler :=
  h.deleteRpslObject s .syntheticNrtm ⟨none, some (display i.source), some key.1, some key.2⟩ none
    false

/-- Upsert the object of the file for a stored one, unless its text is the same,
`irrd/mirroring/parsers.py:277–284`. -/
def updateRetained (fileObjs : KeyedTable objKey) (h : DatabaseHandler) (row : RPSLDatabaseObject) :
    Option DatabaseHandler :=
  match fileObjs.find (rowKey row) with
  | none => some h
  | some obj =>
    if obj.renderRpslText ≠ removeLastModified row.objectText.toList then
      upsertFileObject r s v h obj
    else some h

/-- What follows after parsing, `irrd/mirroring/parsers.py:241–284`. Queries flush the buffer, a set
has no order, and the second query has none either. -/
def applyFile (setOrder : RowOrder (String × String)) (rowOrder : RowOrder RPSLDatabaseObject)
    (fileObjs : KeyedTable objKey) (h : DatabaseHandler) : Option DatabaseHandler := do
  let h ← h.flushRpslObjectWritingBuffer s
  let currentPks := (sourceRows i h).map rowKey
  let newObjs := fileObjs.rows.filter (fun obj ↦ objKey obj ∉ currentPks)
  let deletedPks := currentPks.filter (fun key ↦ key ∉ fileObjs.rows.map objKey)
  let h ← newObjs.foldlM (upsertFileObject r s v) h
  let h ← (setOrder.order deletedPks).foldlM (deleteMissing s i) h
  let h ← h.flushRpslObjectWritingBuffer s
  (rowOrder.order (sourceRows i h)).foldlM (updateRetained r s v fileObjs) h

/-- `MirrorUpdateFileImportParser.run_import` over the paragraphs of a file: the handler, and the
error that is returned, `irrd/mirroring/parsers.py:223–287`. -/
def updateFileImport (setOrder : RowOrder (String × String))
    (rowOrder : RowOrder RPSLDatabaseObject) (h : DatabaseHandler) (texts : List (List Char)) :
    Option (DatabaseHandler × Option String) := do
  let outcomes ← (Parsers.runImport env i texts).toOption
  let h := (texts.zip outcomes).foldl (recordOutcome i) h
  match returnedError outcomes with
  | some message => return (h, some message)
  | none =>
    let h ← applyFile r s i v setOrder rowOrder (fileObjsByPk (objsFromFile outcomes)) h
    return (h, none)

end Run

section Stored

/-- The text that is stored under a key of a source. -/
def storedText (t : ObjectTable) (source : String) (key : String × String) :
    Option (List Char) :=
  (t.find (inSource source key)).map (fun row ↦ row.objectText.toList)

variable {t t' : ObjectTable} {source : String}

theorem storedText_upsertRow (t : ObjectTable) (row : RPSLDatabaseObject)
    (hsource : row.source = source) :
    storedText (DatabaseHandler.upsertRow t row) source =
      Function.update (storedText t source) (rowKey row) (some row.objectText.toList) := by
  funext key
  have hcolumns := congrArg (Option.map (fun c : ObjectColumns ↦ c.objectText.toList))
    (find_upsertRow t row (inSource source key))
  have hkey : row.key = inSource source key ↔ key = rowKey row := by
    unfold RPSLDatabaseObject.key ObjectColumns.key inSource rowKey
    simp only [ObjectKey.mk.injEq, hsource, true_and, Prod.ext_iff]
    exact and_congr eq_comm eq_comm
  rw [Option.map_map, apply_ite (Option.map _), Option.map_map] at hcolumns
  refine Eq.trans hcolumns ?_
  simp only [hkey]
  by_cases hsame : key = rowKey row
  · subst hsame
    simp
  · simp only [hsame, if_false, ne_eq, not_false_eq_true, Function.update_of_ne]
    rfl

theorem storedText_filter_ne (t : ObjectTable) (source : String) (key : String × String)
    {p : RPSLDatabaseObject → Bool}
    (hp : ∀ row ∈ t.rows, p row = !(row.key = inSource source key)) :
    storedText (t.filter p) source = Function.update (storedText t source) key none := by
  have hfilter : t.filter p = t.filter (fun row ↦ !(row.key = inSource source key)) :=
    KeyedTable.ext (List.filter_congr hp)
  funext other
  unfold storedText
  rw [hfilter, KeyedTable.find_filter_ne_key]
  have hkey : inSource source other = inSource source key ↔ other = key := by
    unfold inSource
    simp [Prod.ext_iff]
  simp only [hkey]
  by_cases hsame : other = key
  · subst hsame
    simp
  · simp [hsame]

/-- Tables with the same contents have the same texts. -/
theorem storedText_of_contents (hsame : t.contents = t'.contents) (source : String) :
    storedText t source = storedText t' source := by
  funext key
  have hfound := congrArg (Option.map (fun c : ObjectColumns × Nat ↦ c.1.objectText.toList))
    (find_of_contents hsame (inSource source key))
  rwa [Option.map_map, Option.map_map] at hfound

/-- A text is stored under the key of every row, and under no other key. -/
theorem storedText_isSome_iff (t : ObjectTable) (source : String) (key : String × String) :
    (storedText t source key).isSome ↔
      key ∈ (t.rows.filter (fun row ↦ row.source = source)).map rowKey := by
  unfold storedText
  rw [Option.isSome_map, Option.isSome_iff_exists, List.mem_map]
  refine exists_congr (fun row ↦ ?_)
  rw [KeyedTable.find_eq_some_iff, List.mem_filter, decide_eq_true_eq, and_assoc]
  refine and_congr_right (fun _ ↦ ?_)
  unfold RPSLDatabaseObject.key ObjectColumns.key inSource rowKey
  rw [ObjectKey.mk.injEq, Prod.ext_iff]
  tauto

theorem storedText_of_mem {row : RPSLDatabaseObject} (hrow : row ∈ t.rows)
    (hsource : row.source = source) :
    storedText t source (rowKey row) = some row.objectText.toList := by
  have hkey : row.key = inSource source (rowKey row) := by
    rw [← hsource]
    rfl
  unfold storedText
  rw [← hkey, (KeyedTable.mem_rows_iff t row).mp hrow]
  rfl

/-- So do tables that only differ in creation times and route preference statuses. -/
theorem storedText_of_unevaluated
    (hsame : t.rows.map RPSLDatabaseObject.unevaluated = t'.rows.map RPSLDatabaseObject.unevaluated)
    (source : String) : storedText t source = storedText t' source := by
  funext key
  have hfound := congrArg (fun rows : List (ObjectColumns × Nat) ↦
    (rows.find? (fun c ↦ c.1.key = inSource source key)).map (fun c ↦ c.1.objectText.toList)) hsame
  simp only [List.find?_map, Option.map_map] at hfound
  exact hfound

end Stored

section Holding

variable {s : Settings} {source : String} {h₀ h h' : DatabaseHandler}
  {texts : String × String → Option (List Char)}

/-- Once its pending upserts are written, a handler has these texts in a source. -/
def Holds (s : Settings) (source : String) (h₀ h : DatabaseHandler)
    (texts : String × String → Option (List Char)) : Prop :=
  ∃ t, BufferedView s h₀ h t ∧ storedText t.objects source = texts

theorem Holds.start (hbuffer : h.rpslUpsertBuffer = []) :
    Holds s source h h (storedText h.working.objects source) := by
  have hinitial : InitialWrites ⟨h, ⟨h.working.objects, h.nextPk, []⟩⟩ := ⟨hbuffer, rfl⟩
  exact ⟨_, hinitial.view, rfl⟩

theorem Holds.stored (hholds : Holds s source h₀ h texts) (hbuffer : h.rpslUpsertBuffer = []) :
    storedText h.working.objects source = texts := by
  obtain ⟨t, hview, rfl⟩ := hholds
  exact storedText_of_contents (hview.contents_eq hbuffer) source

theorem Holds.flush (hholds : Holds s source h₀ h texts)
    (hflush : h.flushRpslObjectWritingBuffer s = some h') :
    Holds s source h₀ h' texts ∧ h'.rpslUpsertBuffer = [] := by
  obtain ⟨t, hview, htexts⟩ := hholds
  obtain ⟨hview', hbuffer, -⟩ := hview.flush hflush
  exact ⟨⟨t, hview', htexts⟩, hbuffer⟩

/-- An upsert replaces the text under the key of its object. -/
theorem Holds.upsert {o : RPSLObject} {origin : JournalEntryOrigin}
    (hholds : Holds s source h₀ h texts) (hsource : o.source = source)
    (hupsert : h.upsertRpslObject s o origin false none none = some h') :
    Holds s source h₀ h' (Function.update texts (o.pk, o.rpslObjectClass)
      (some (o.renderRpslText h.now).toList)) := by
  obtain ⟨t, hview, rfl⟩ := hholds
  rw [DatabaseHandler.upsertRpslObject_eq] at hupsert
  exact ⟨_, hview.upsert hupsert, storedText_upsertRow _ _ hsource⟩

/-- The key that parts of it name. -/
theorem key_of_parts (source : String) (key : String × String) :
    (⟨none, some source, some key.1, some key.2⟩ : DatabaseHandler.DeleteArguments).key =
      some (inSource source key) := by
  simp [DatabaseHandler.DeleteArguments.key, DatabaseHandler.argument, inSource]

/-- A deletion leaves no text under a key. -/
theorem Holds.delete {key : String × String} {origin : JournalEntryOrigin}
    (hholds : Holds s source h₀ h texts)
    (hdelete : h.deleteRpslObject s origin ⟨none, some source, some key.1, some key.2⟩ none false =
      some h') :
    Holds s source h₀ h' (Function.update texts key none) := by
  obtain ⟨t, hview, rfl⟩ := hholds
  have hcall : h.call s DatabaseHandler.maxRecordsBufferBeforeInsert h.now (.deleteRpslObject origin
      ⟨none, some source, some key.1, some key.2⟩ none false) = some h' := hdelete
  refine ⟨_, hview.call hcall, ?_⟩
  refine storedText_filter_ne t.objects source key (fun row hrow ↦ ?_)
  rw [key_of_parts, Option.bind_some]
  have hfound : row ∈ (t.objects.find (inSource source key)).toList ↔
      row.key = inSource source key := by
    rw [Option.mem_toList, KeyedTable.find_eq_some_iff]
    exact and_iff_right hrow
  simp [hfound]

/-- A commit stores the texts. -/
theorem Holds.commit (hholds : Holds s source h₀ h texts) (hcommit : h.commit s = some h') :
    storedText h'.committed.objects source = texts := by
  obtain ⟨t, hview, rfl⟩ := hholds
  exact storedText_of_unevaluated (hview.commit hcommit).objects source

/-- Writing the target's texts in a loop takes them over. -/
theorem Holds.foldlM {A : Type} {f : DatabaseHandler → A → Option DatabaseHandler}
    (target : String × String → Option (List Char)) (keys : A → List (String × String))
    (items : List A)
    (hstep : ∀ item ∈ items, ∀ h h' texts, Holds s source h₀ h texts → f h item = some h' →
      Holds s source h₀ h' (takeOver target texts (keys item)))
    (hholds : Holds s source h₀ h texts) (hfold : items.foldlM f h = some h') :
    Holds s source h₀ h' (takeOver target texts (items.flatMap keys)) := by
  induction items generalizing h texts with
  | nil =>
    cases hfold
    simpa using hholds
  | cons item items ih =>
    rw [List.foldlM_cons] at hfold
    obtain ⟨h₁, hitem, hrest⟩ := Option.bind_eq_some_iff.mp hfold
    have hfirst := hstep item List.mem_cons_self h h₁ texts hholds hitem
    have hall := ih (fun item hitem ↦ hstep item (List.mem_cons_of_mem _ hitem)) hfirst hrest
    rwa [takeOver_takeOver] at hall

end Holding

section File

variable {env : Environment} {r : RenderSettings} {s : Settings} {i : ImportSettings}
  {v : ImportValidators}

/-- The last object with a key. -/
def lastWithKey (objs : List ParsedObject) (key : String × String) : Option ParsedObject :=
  (objs.filter (fun obj ↦ objKey obj = key)).getLast?

theorem find_fileObjsByPk (objs : List ParsedObject) (key : String × String) :
    (fileObjsByPk objs).find key = lastWithKey objs key := by
  induction objs using List.reverseRecOn with
  | nil => rfl
  | append_singleton objs obj ih =>
    unfold fileObjsByPk at ih ⊢
    rw [List.foldl_append, List.foldl_cons, List.foldl_nil, KeyedTable.find_upsert, ih]
    unfold lastWithKey
    rw [List.filter_append]
    by_cases hkey : objKey obj = key
    · rw [if_pos hkey]
      cases (objs.filter (fun obj ↦ objKey obj = key)).getLast? <;> simp [hkey]
    · simp [hkey]

theorem mem_of_mem_fileObjsByPk {objs : List ParsedObject} {obj : ParsedObject}
    (hobj : obj ∈ (fileObjsByPk objs).rows) : obj ∈ objs := by
  rw [KeyedTable.mem_rows_iff, find_fileObjsByPk] at hobj
  exact (List.mem_filter.mp (List.mem_of_getLast? hobj)).1

/-- The objects of a file have its source. -/
theorem source_of_mem_objsFromFile {texts : List (List Char)} {outcomes : List ImportOutcome}
    (hparse : Parsers.runImport env i texts = .ok outcomes) :
    ∀ obj ∈ objsFromFile outcomes, obj.source = some i.source := by
  intro obj hobj
  obtain ⟨outcome, houtcome, hsome⟩ := List.mem_filterMap.mp hobj
  have haccepted : outcome = .accepted obj := by
    cases outcome <;> simp_all
  obtain ⟨text, -, htext⟩ := accepted_of_runImport hparse (haccepted ▸ houtcome)
  exact (parseObject_accepted htext).2

/-- The texts of the objects of a file. -/
def fileTexts (fileObjs : KeyedTable objKey) (key : String × String) : Option (List Char) :=
  (fileObjs.find key).map ParsedObject.renderRpslText

theorem isSome_fileTexts (fileObjs : KeyedTable objKey) (key : String × String) :
    (fileTexts fileObjs key).isSome ↔ key ∈ fileObjs.rows.map objKey := by
  unfold fileTexts
  rw [Option.isSome_map, Option.isSome_iff_exists, List.mem_map]
  exact exists_congr (fun obj ↦ KeyedTable.find_eq_some_iff fileObjs key obj)

/-- Whether a stored text may stay in place for a rendered one. -/
def sameText (rendered stored : List Char) : Bool := rendered = removeLastModified stored

/-- In a source that is not authoritative, the time of last modification is not in the text. -/
theorem renderRpslText_fileObject {obj : ParsedObject} (now : Nat)
    (hsource : obj.source = some i.source)
    (hauthoritative : r.authoritative (display i.source) = false) :
    ((fileObject r s v obj).renderRpslText now).toList = obj.renderRpslText := by
  have hunmodified : obj.renderRpslTextModified (r.authoritative (display i.source))
      (r.authoritativeRetainLastModified (display i.source)) (r.lastModified now) =
        obj.renderRpslText := by
    unfold ParsedObject.renderRpslTextModified
    rw [hauthoritative, if_neg (fun h ↦ Bool.noConfusion h.1)]
  show (display (obj.renderRpslTextModified (r.authoritative (display (obj.source.getD [])))
    (r.authoritativeRetainLastModified (display (obj.source.getD [])))
    (r.lastModified now))).toList = _
  rw [hsource, Option.getD_some, hunmodified]
  exact String.toList_ofList

end File

section Applying

variable {r : RenderSettings} {s : Settings} {i : ImportSettings} {v : ImportValidators}
  {h₀ h h' : DatabaseHandler} {texts : String × String → Option (List Char)}
  {fileObjs : KeyedTable objKey}

/-- Upserting an object of the file takes over its text. -/
theorem Holds.upsertFileObject {obj : ParsedObject}
    (hholds : Holds s (display i.source) h₀ h texts) (hobj : obj ∈ fileObjs.rows)
    (hsource : obj.source = some i.source)
    (hauthoritative : r.authoritative (display i.source) = false)
    (hupsert : Mirroring.upsertFileObject r s v h obj = some h') :
    Holds s (display i.source) h₀ h' (takeOver (fileTexts fileObjs) texts [objKey obj]) := by
  have htext : fileTexts fileObjs (objKey obj) = some obj.renderRpslText := by
    unfold fileTexts
    rw [(KeyedTable.mem_rows_iff fileObjs obj).mp hobj]
    rfl
  have hupserted := hholds.upsert (by simp [fileObject, writtenObject, hsource]) hupsert
  rw [renderRpslText_fileObject h.now hsource hauthoritative] at hupserted
  rw [takeOver_singleton, htext]
  exact hupserted

/-- A retained object takes over the text of the file where its own is outdated. -/
theorem Holds.updateRetained {row : RPSLDatabaseObject}
    (hholds : Holds s (display i.source) h₀ h texts)
    (hsources : ∀ obj ∈ fileObjs.rows, obj.source = some i.source)
    (hauthoritative : r.authoritative (display i.source) = false)
    (hupdate : Mirroring.updateRetained r s v fileObjs h row = some h') :
    Holds s (display i.source) h₀ h' (takeOver (fileTexts fileObjs) texts
      (if (fileTexts fileObjs (rowKey row)).any (fun text ↦
        !sameText text row.objectText.toList) then [rowKey row] else [])) := by
  unfold Mirroring.updateRetained at hupdate
  cases hfind : fileObjs.find (rowKey row) with
  | none =>
    rw [hfind] at hupdate
    cases hupdate
    simpa [fileTexts, hfind] using hholds
  | some obj =>
    rw [hfind] at hupdate
    dsimp only at hupdate
    have hobj := KeyedTable.find_mem hfind
    split at hupdate
    · next hdiffers =>
      have hall := hholds.upsertFileObject hobj (hsources obj hobj) hauthoritative hupdate
      rw [KeyedTable.find_key hfind] at hall
      simpa [fileTexts, hfind, sameText, hdiffers] using hall
    · next hsame =>
      cases hupdate
      simpa [fileTexts, hfind, sameText, not_not.mp hsame] using hholds

/-- The keys that are new or missing in the file. -/
theorem mem_newOrDeleted_iff (setOrder : RowOrder (String × String))
    (fileObjs : KeyedTable objKey) (currentPks : List (String × String)) (key : String × String) :
    key ∈ (fileObjs.rows.filter (fun obj ↦ objKey obj ∉ currentPks)).flatMap
        (fun obj ↦ [objKey obj]) ++
      (setOrder.order (currentPks.filter (fun key ↦ key ∉ fileObjs.rows.map objKey))).flatMap
        (fun key ↦ [key]) ↔
      ¬ (key ∈ fileObjs.rows.map objKey ↔ key ∈ currentPks) := by
  rw [List.mem_append, List.mem_flatMap, List.mem_flatMap]
  simp only [List.mem_singleton, (setOrder.perm _).mem_iff, List.mem_filter, decide_eq_true_eq,
    exists_eq_right', List.mem_map]
  constructor
  · rintro (⟨obj, ⟨hobj, hnew⟩, rfl⟩ | ⟨hcurrent, hmissing⟩) hiff
    · exact hnew (hiff.mp ⟨obj, hobj, rfl⟩)
    · exact hmissing (hiff.mpr hcurrent)
  · intro hdiffers
    by_cases hcurrent : key ∈ currentPks
    · exact .inr ⟨hcurrent, fun hfile ↦ hdiffers (iff_of_true hfile hcurrent)⟩
    · obtain ⟨obj, hobj, rfl⟩ := not_not.mp (fun hno ↦ hdiffers (iff_of_false hno hcurrent))
      exact .inl ⟨obj, ⟨hobj, hcurrent⟩, rfl⟩

/-- The keys of the rows whose text differs. -/
theorem mem_outdated_iff (rowOrder : RowOrder RPSLDatabaseObject) (i : ImportSettings)
    (target : String × String → Option (List Char)) (h : DatabaseHandler)
    (key : String × String) :
    key ∈ (rowOrder.order (sourceRows i h)).flatMap (fun row ↦
      if (target (rowKey row)).any (fun text ↦ !sameText text row.objectText.toList) then
        [rowKey row] else []) ↔
      Outdated sameText target (storedText h.working.objects (display i.source)) key := by
  rw [List.mem_flatMap]
  unfold Outdated
  constructor
  · rintro ⟨row, hrow, hkey⟩
    obtain ⟨hmem, hsource⟩ := List.mem_filter.mp ((rowOrder.perm _).mem_iff.mp hrow)
    split at hkey
    · next hdiffers =>
      obtain ⟨text, htext, hnot⟩ := (Option.any_eq_true _ _).mp hdiffers
      rw [List.mem_singleton.mp hkey]
      exact ⟨text, _, htext, storedText_of_mem hmem (of_decide_eq_true hsource),
        by simpa using hnot⟩
    · cases hkey
  · rintro ⟨text, stored, htarget, hstored, hdiffers⟩
    obtain ⟨row, hrow, rfl⟩ := List.mem_map.mp
      ((storedText_isSome_iff _ _ key).mp (Option.isSome_of_eq_some hstored))
    obtain ⟨hmem, hsource⟩ := List.mem_filter.mp hrow
    rw [storedText_of_mem hmem (of_decide_eq_true hsource)] at hstored
    refine ⟨row, (rowOrder.perm _).mem_iff.mpr hrow, ?_⟩
    rw [if_pos, List.mem_singleton]
    rw [htarget, Option.any_some, Option.some_inj.mp hstored, hdiffers]
    rfl

/-- Applying a file reconciles the texts of its source with those of the file. -/
theorem Holds.applyFile {setOrder : RowOrder (String × String)}
    {rowOrder : RowOrder RPSLDatabaseObject}
    (hholds : Holds s (display i.source) h₀ h texts)
    (hsources : ∀ obj ∈ fileObjs.rows, obj.source = some i.source)
    (hauthoritative : r.authoritative (display i.source) = false)
    (happly : Mirroring.applyFile r s i v setOrder rowOrder fileObjs h = some h') :
    Holds s (display i.source) h₀ h' (reconcile sameText (fileTexts fileObjs) texts) := by
  obtain ⟨h₁, hflush₁, happly⟩ := Option.bind_eq_some_iff.mp happly
  obtain ⟨h₂, hnew, happly⟩ := Option.bind_eq_some_iff.mp happly
  obtain ⟨h₃, hdelete, happly⟩ := Option.bind_eq_some_iff.mp happly
  obtain ⟨h₄, hflush₄, hupdate⟩ := Option.bind_eq_some_iff.mp happly
  obtain ⟨hholds₁, hbuffer₁⟩ := hholds.flush hflush₁
  have hstored := hholds₁.stored hbuffer₁
  have hcurrent (key : String × String) :
      key ∈ (sourceRows i h₁).map rowKey ↔ (texts key).isSome := by
    rw [← hstored]
    exact (storedText_isSome_iff _ _ key).symm
  have hholds₂ := hholds₁.foldlM (fileTexts fileObjs) (fun obj ↦ [objKey obj]) _
    (fun obj hobj h h' texts hh hupsert ↦
      hh.upsertFileObject (List.mem_filter.mp hobj).1
        (hsources obj (List.mem_filter.mp hobj).1) hauthoritative hupsert) hnew
  have hholds₃ := hholds₂.foldlM (fileTexts fileObjs) (fun key ↦ [key]) _
    (fun key hkey h h' texts hh hdelete ↦ by
      have hmissing : fileTexts fileObjs key = none := by
        have hnot := (List.mem_filter.mp ((setOrder.perm _).mem_iff.mp hkey)).2
        rw [← Option.not_isSome_iff_eq_none, isSome_fileTexts]
        simpa using hnot
      rw [takeOver_singleton, hmissing]
      exact hh.delete hdelete) hdelete
  rw [takeOver_takeOver] at hholds₃
  obtain ⟨hholds₄, hbuffer₄⟩ := hholds₃.flush hflush₄
  have hstored₄ := hholds₄.stored hbuffer₄
  have hholds' := hholds₄.foldlM (fileTexts fileObjs) _ _
    (fun row _ h h' texts hh hupdate ↦ hh.updateRetained hsources hauthoritative hupdate) hupdate
  rwa [takeOver_takeOver, takeOver_eq_reconcile sameText] at hholds'
  · intro key
    rw [mem_newOrDeleted_iff, hcurrent, ← isSome_fileTexts, Bool.eq_iff_iff.not.symm]
  · intro key
    rw [← hstored₄]
    exact mem_outdated_iff rowOrder i _ h₄ key

/-- A file that the source agrees with is applied without any call. -/
theorem applyFile_eq_self (setOrder : RowOrder (String × String))
    (rowOrder : RowOrder RPSLDatabaseObject) (hbuffer : h.rpslUpsertBuffer = [])
    (hkeys : ∀ key, (fileTexts fileObjs key).isSome =
      (storedText h.working.objects (display i.source) key).isSome)
    (htexts : ∀ key, ¬ Outdated sameText (fileTexts fileObjs)
      (storedText h.working.objects (display i.source)) key) :
    applyFile r s i v setOrder rowOrder fileObjs h = some h := by
  have hflush : h.flushRpslObjectWritingBuffer s = some h := if_pos hbuffer
  have hcurrent (key : String × String) :
      key ∈ fileObjs.rows.map objKey ↔ key ∈ (sourceRows i h).map rowKey := by
    rw [← isSome_fileTexts, hkeys, storedText_isSome_iff]
    rfl
  have hnew : fileObjs.rows.filter (fun obj ↦ objKey obj ∉ (sourceRows i h).map rowKey) = [] := by
    rw [List.filter_eq_nil_iff]
    intro obj hobj
    rw [decide_eq_true_eq, not_not]
    exact (hcurrent _).mp (List.mem_map_of_mem hobj)
  have hdeleted : ((sourceRows i h).map rowKey).filter (fun key ↦
      key ∉ fileObjs.rows.map objKey) = [] := by
    rw [List.filter_eq_nil_iff]
    intro key hkey
    rw [decide_eq_true_eq, not_not]
    exact (hcurrent key).mpr hkey
  have hretained : ∀ row ∈ rowOrder.order (sourceRows i h),
      updateRetained r s v fileObjs h row = some h := by
    intro row hrow
    have hmem := (rowOrder.perm _).mem_iff.mp hrow
    obtain ⟨hrows, hsource⟩ := List.mem_filter.mp hmem
    unfold updateRetained
    cases hfind : fileObjs.find (rowKey row) with
    | none => rfl
    | some obj =>
      refine if_neg (not_not.mpr ?_)
      by_contra hdiffers
      refine htexts (rowKey row) ⟨obj.renderRpslText, row.objectText.toList, ?_,
        storedText_of_mem hrows (of_decide_eq_true hsource), decide_eq_false hdiffers⟩
      rw [fileTexts, hfind, Option.map_some]
  have hloop (rows : List RPSLDatabaseObject)
      (hrows : ∀ row ∈ rows, updateRetained r s v fileObjs h row = some h) :
      rows.foldlM (updateRetained r s v fileObjs) h = some h := by
    induction rows with
    | nil => rfl
    | cons row rows ih =>
      obtain ⟨hrow, hrest⟩ := List.forall_mem_cons.mp hrows
      rw [List.foldlM_cons, hrow]
      exact ih hrest
  unfold applyFile
  simp only [hflush, hnew, hdeleted, (setOrder.perm []).eq_nil, Option.bind_eq_bind,
    Option.bind_some, List.foldlM_nil, Option.pure_def]
  exact hloop _ hretained

/-- Recording errors only changes the status tracker. -/
theorem foldl_recordOutcome (i : ImportSettings) (parsed : List (List Char × ImportOutcome))
    (h : DatabaseHandler) :
    ∃ t, parsed.foldl (recordOutcome i) h = { h with statusTracker := t } := by
  induction parsed generalizing h with
  | nil => exact ⟨h.statusTracker, rfl⟩
  | cons p parsed ih =>
    have hfirst : ∃ t, recordOutcome i h p = { h with statusTracker := t } := by
      unfold recordOutcome
      dsimp only
      split <;> exact ⟨_, rfl⟩
    obtain ⟨t, ht⟩ := hfirst
    rw [List.foldl_cons, ht]
    exact ih _

/-- Without pending writes and changes, a commit changes neither objects nor the journal. -/
theorem commit_unwritten (hbuffer : h.rpslUpsertBuffer = []) (hroas : h.roaInsertBuffer = [])
    (hprefixes : h.changedObjectsTracker.filterPrefixes = []) :
    ∃ h', h.commit s = some h' ∧ h'.committed.objects = h.working.objects ∧
      h'.committed.journal = h.working.journal ∧ h'.written = h.written := by
  have hflush : h.flushRpslObjectWritingBuffer s = some h := if_pos hbuffer
  have hflushRoas : h.flushRoaWritingBuffer = some h := if_pos hroas
  have hframe := (finaliseTransaction_spec (s := s) h).1
  unfold DatabaseHandler.commit
  simp only [hflush, hflushRoas, Option.bind_eq_bind, Option.bind_some]
  generalize h.finaliseTransaction s = h₃ at hframe
  have hnone : ∀ h₄ : DatabaseHandler, h₄.changedObjectsTracker = h.changedObjectsTracker →
      h₄.preCommit s = some h₄ := by
    intro h₄ hchanged
    unfold DatabaseHandler.preCommit
    rw [hchanged]
    exact if_pos hprefixes
  rw [hnone _ (by split <;> exact hframe.changed), Option.bind_some]
  refine ⟨_, rfl, ?_, ?_, ?_⟩
  · split <;> exact hframe.objects
  · split <;> exact hframe.journal
  · split <;> exact hframe.written

end Applying

/-- What an import is for: the objects of the source are those of the file, the last one of each
key, with their rendered texts, or with the texts that were stored before, where these only have
times of last modification besides. -/
structure FileImported (source : String) (objs : List ParsedObject) (t t' : ObjectTable) :
    Prop where
  keys : ∀ key, (t'.find (inSource source key)).isSome ↔ key ∈ objs.map objKey
  texts : ∀ row ∈ t'.rows, row.source = source →
    ∃ obj, lastWithKey objs (rowKey row) = some obj ∧
      (row.objectText.toList = obj.renderRpslText ∨
        storedText t source (rowKey row) = some row.objectText.toList ∧
          removeLastModified row.objectText.toList = obj.renderRpslText)

section Importing

variable {env : Environment} {r : RenderSettings} {s : Settings} {i : ImportSettings}
  {v : ImportValidators} {setOrder : RowOrder (String × String)}
  {rowOrder : RowOrder RPSLDatabaseObject} {h h₁ h' : DatabaseHandler} {texts : List (List Char)}
  {outcomes : List ImportOutcome}

/-- A run without a returned error applies the file. -/
theorem updateFileImport_eq (hparse : Parsers.runImport env i texts = .ok outcomes)
    (hnone : returnedError outcomes = none) :
    updateFileImport env r s i v setOrder rowOrder h texts =
      (applyFile r s i v setOrder rowOrder (fileObjsByPk (objsFromFile outcomes))
        ((texts.zip outcomes).foldl (recordOutcome i) h)).map (fun h ↦ (h, none)) := by
  unfold updateFileImport
  rw [hparse]
  simp only [Except.toOption, Option.bind_eq_bind, Option.bind_some, hnone, Option.pure_def]
  exact Option.map_eq_bind.symm

theorem returnedError_of_run (hparse : Parsers.runImport env i texts = .ok outcomes)
    (hrun : updateFileImport env r s i v setOrder rowOrder h texts = some (h₁, none)) :
    returnedError outcomes = none := by
  unfold updateFileImport at hrun
  rw [hparse] at hrun
  cases herror : returnedError outcomes with
  | none => rfl
  | some message => simp [Except.toOption, herror] at hrun

/-- An import reconciles the texts of its source with those of the file. -/
theorem storedText_updateFileImport (hauthoritative : r.authoritative (display i.source) = false)
    (hparse : Parsers.runImport env i texts = .ok outcomes)
    (hrun : updateFileImport env r s i v setOrder rowOrder (connect h) texts = some (h₁, none))
    (hcommit : h₁.commit s = some h') :
    storedText h'.committed.objects (display i.source) =
      reconcile sameText (fileTexts (fileObjsByPk (objsFromFile outcomes)))
        (storedText h.committed.objects (display i.source)) := by
  rw [updateFileImport_eq hparse (returnedError_of_run hparse hrun)] at hrun
  obtain ⟨h₂, happly, hresult⟩ := Option.map_eq_some_iff.mp hrun
  cases hresult
  obtain ⟨t, ht⟩ := foldl_recordOutcome i (texts.zip outcomes) (connect h)
  rw [ht] at happly
  have hstart : Holds s (display i.source) { connect h with statusTracker := t }
      { connect h with statusTracker := t } (storedText h.committed.objects (display i.source)) :=
    Holds.start rfl
  have hsources : ∀ obj ∈ (fileObjsByPk (objsFromFile outcomes)).rows,
      obj.source = some i.source := fun obj hobj ↦
    source_of_mem_objsFromFile hparse obj (mem_of_mem_fileObjsByPk hobj)
  exact (hstart.applyFile hsources hauthoritative happly).commit hcommit

theorem fileImported_of_reconciled {t t' : ObjectTable} {source : String} {objs : List ParsedObject}
    (hreconciled : storedText t' source =
      reconcile sameText (fileTexts (fileObjsByPk objs)) (storedText t source)) :
    FileImported source objs t t' := by
  constructor
  · intro key
    have hkey : (storedText t' source key).isSome = (fileTexts (fileObjsByPk objs) key).isSome := by
      rw [hreconciled, isSome_reconcile]
    have hstored : (storedText t' source key).isSome = (t'.find (inSource source key)).isSome :=
      Option.isSome_map
    rw [← hstored, hkey, fileTexts, find_fileObjsByPk, Option.isSome_map, lastWithKey,
      List.getLast?_isSome, List.mem_map]
    simp [List.filter_eq_nil_iff]
  · intro row hrow hsource
    have hstored := storedText_of_mem hrow hsource
    rw [hreconciled] at hstored
    obtain ⟨text, htext, hvalue⟩ := reconcile_eq_some hstored
    rw [fileTexts, find_fileObjsByPk] at htext
    obtain ⟨obj, hobj, rfl⟩ := Option.map_eq_some_iff.mp htext
    refine ⟨obj, hobj, hvalue.imp id (fun hkept ↦ ⟨hkept.1, ?_⟩)⟩
    exact (of_decide_eq_true hkept.2).symm

/-- An import that commits gives its source exactly the objects of the file. Where none of them
has a time of last modification, the same file leads to no further call, whatever the validators
say then, and changes neither objects nor the journal. -/
theorem updateFileImport_reconciles (hauthoritative : r.authoritative (display i.source) = false)
    (hparse : Parsers.runImport env i texts = .ok outcomes)
    (hrun : updateFileImport env r s i v setOrder rowOrder (connect h) texts = some (h₁, none))
    (hcommit : h₁.commit s = some h') :
    FileImported (display i.source) (objsFromFile outcomes) h.committed.objects
        h'.committed.objects ∧
      ((∀ obj ∈ (fileObjsByPk (objsFromFile outcomes)).rows,
          removeLastModified obj.renderRpslText = obj.renderRpslText) →
        ∀ v' setOrder' rowOrder' now,
          let again := (texts.zip outcomes).foldl (recordOutcome i) (connect { h' with now })
          updateFileImport env r s i v' setOrder' rowOrder' (connect { h' with now }) texts =
              some (again, none) ∧
            ∃ h'', again.commit s = some h'' ∧ h''.committed.objects = h'.committed.objects ∧
              h''.committed.journal = h'.committed.journal ∧ h''.written = h'.written) := by
  have hreconciled := storedText_updateFileImport hauthoritative hparse hrun hcommit
  refine ⟨fileImported_of_reconciled hreconciled, fun hunmodified v' setOrder' rowOrder' now ↦ ?_⟩
  obtain ⟨t, ht⟩ := foldl_recordOutcome i (texts.zip outcomes) (connect { h' with now })
  dsimp only
  rw [updateFileImport_eq hparse (returnedError_of_run hparse hrun), ht]
  have hself : ∀ key text, fileTexts (fileObjsByPk (objsFromFile outcomes)) key = some text →
      sameText text text = true := by
    intro key text htext
    obtain ⟨obj, hfind, rfl⟩ := Option.map_eq_some_iff.mp htext
    exact decide_eq_true (hunmodified obj (KeyedTable.find_mem hfind)).symm
  rw [applyFile_eq_self]
  · exact ⟨rfl, commit_unwritten rfl rfl rfl⟩
  · rfl
  · intro key
    show _ = (storedText h'.committed.objects (display i.source) key).isSome
    rw [hreconciled, isSome_reconcile]
  · intro key
    show ¬ Outdated _ _ (storedText h'.committed.objects (display i.source)) key
    rw [hreconciled]
    exact not_outdated_reconcile hself key

section Examples

/-- An import of one source, which returns errors. -/
def testImport : ImportSettings := ⟨"TEST".toList, true, false, none⟩

/-- No source is authoritative. -/
def mirroredSources : RenderSettings := ⟨fun _ ↦ false, fun _ ↦ false, fun _ ↦ []⟩

/-- Validators without filters and ROAs. -/
def plainValidators : ImportValidators := ⟨.loadFilters ⟨[], []⟩, none, .scan⟩

/-- A set in the order in which it was filled. -/
def filledOrder : RowOrder (String × String) := ⟨id, List.Perm.refl⟩

/-- An object as it is rendered. -/
def renderedSet : List Char := "as-set:         AS-TEST\nsource:         TEST\n".toList

/-- The object with a time of last modification. -/
def modifiedSet : List Char :=
  renderedSet ++ "last-modified:  2020-01-01T00:00:00Z\n".toList

/-- A row for the object. -/
def storedSet (text : List Char) : RPSLDatabaseObject where
  rpslPk := "AS-TEST"
  source := "TEST"
  objectClass := "as-set"
  parsedData := [("as-set", ["AS-TEST"]), ("source", ["TEST"])]
  objectText := display text
  ipVersion := none
  ipFirst := none
  ipLast := none
  ipSize := none
  prefixLength := none
  ipPrefix := none
  asnFirst := none
  asnLast := none
  rpkiStatus := .notFound
  scopefilterStatus := .inScope
  routePreferenceStatus := .visible
  updated := 0
  pk := 0
  created := 0

/-- Import a file with one object. -/
def importSet (h : DatabaseHandler) (text : List Char) :
    Option (DatabaseHandler × Option String) :=
  updateFileImport plainEnvironment mirroredSources localSettings testImport plainValidators
    filledOrder storedOrder (connect h) [text]

/-- Import a file with one object, and commit. -/
def importAndCommit (h : DatabaseHandler) (text : List Char) : Option DatabaseHandler :=
  (importSet h text).bind (fun (h, error) ↦ if error = none then h.commit localSettings else none)

/-- An import of a new object, and the same import again. -/
theorem updateFileImport_newSet : ∃ outcomes h₁ h',
    Parsers.runImport plainEnvironment testImport [renderedSet] = .ok outcomes ∧
      importSet newHandler renderedSet = some (h₁, none) ∧
      h₁.commit localSettings = some h' ∧
      FileImported "TEST" (objsFromFile outcomes) newHandler.committed.objects
        h'.committed.objects ∧
      importSet h' renderedSet = some (connect h', none) := by
  obtain ⟨outcomes, h₁, h', hparse, hrun, hcommit, hunmodified, hrecorded⟩ : ∃ outcomes h₁ h',
      Parsers.runImport plainEnvironment testImport [renderedSet] = .ok outcomes ∧
        importSet newHandler renderedSet = some (h₁, none) ∧
        h₁.commit localSettings = some h' ∧
        (∀ obj ∈ (fileObjsByPk (objsFromFile outcomes)).rows,
          removeLastModified obj.renderRpslText = obj.renderRpslText) ∧
        ∀ h, ([renderedSet].zip outcomes).foldl (recordOutcome testImport) h = h :=
    ⟨_, _, _, rfl, rfl, rfl, by decide +kernel, fun _ ↦ rfl⟩
  have hall := updateFileImport_reconciles rfl hparse hrun hcommit
  have hagain := (hall.2 hunmodified plainValidators filledOrder storedOrder h'.now).1
  rw [hrecorded] at hagain
  exact ⟨outcomes, h₁, h', hparse, hrun, hcommit, hall.1, hagain⟩

/-- A stored time of last modification stays where the file has none, and every import writes an
object that has one, the first import twice. -/
theorem importAndCommit_lastModified :
    (importAndCommit (handlerOn [storedSet modifiedSet] (by decide)) renderedSet).map (fun h ↦
        h.committed.objects.rows.map (fun row ↦ row.objectText)) = some [display modifiedSet] ∧
      (importAndCommit newHandler modifiedSet).map (fun h ↦ h.committed.journal.rows.length) =
        some 2 ∧
      ((importAndCommit newHandler modifiedSet).bind (importAndCommit · modifiedSet)).map
        (fun h ↦ h.committed.journal.rows.length) = some 3 :=
  ⟨rfl, rfl, rfl⟩

end Examples

end Importing

end Irrd.Mirroring
