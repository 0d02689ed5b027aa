import Irrd.Rpsl.ReferenceDefinitions

/-!
# GraphQL resolvers

Resolvers of sub-objects, such as the members of a set, in a process that also parses objects.
Source: `irrd/server/graphql/resolvers.py`. Importing the resolvers generates a schema, which
resolves all references. Values are as in the rows that GraphQL returns.
-/

namespace Irrd.Server

open Irrd.Base Irrd.Rpsl

/-- The resolvers of sub-objects of an object. -/
inductive SubObjects
  | mntBy
  | adminC
  | techC
  | mbrsByRef
  | memberOf
  | members
  deriving DecidableEq

/-- An object in the result of a query, with the values of its fields under their GraphQL names. -/
structure GraphqlObject where
  objectClass : String
  source : String
  values : List (String × List String)

/-- What the database is asked for sub-objects. -/
structure SubQuery where
  objectClasses : List String
  rpslPks : List String
  sources : Option (List String)
  deriving DecidableEq

/-- The exceptions of a resolver that is called for a class without its field. -/
inductive ResolverError
  | keyError (key : String)
  | attributeError (name : String)
  deriving DecidableEq

/-- `_resolve_subquery`, `irrd/server/graphql/resolvers.py:169–189`. -/
def resolveSubquery (o : GraphqlObject) (objectClasses : List String) (pkField : String)
    (stickySource : Bool) : Option SubQuery :=
  let pks := (o.values.lookup pkField).getD []
  if pks = [] then none
  else some ⟨objectClasses, pks, if stickySource then some [o.source] else none⟩

/-- The list `referring` of a field. Members of a route-set are no references. -/
def referringOf (defs : Definitions) (objectClass name : String) :
    Except ResolverError (List String) :=
  if objectClass ∉ objectClassMapping then .error (.keyError objectClass)
  else
    match classField objectClass name with
    | none => .error (.keyError name)
    | some f =>
      if f.kind.isReference then .ok (defs objectClass name).referring
      else .error (.attributeError "referring")

/-- The resolvers of sub-objects, `irrd/server/graphql/resolvers.py:130–166`. Members are queried
with the list of the field itself, from which weak references are removed in place. -/
def SubObjects.resolve (defs : Definitions) (o : GraphqlObject) :
    SubObjects → Except ResolverError (Option SubQuery) × Definitions
  | .mntBy => (.ok (resolveSubquery o ["mntner"] "mntBy" true), defs)
  | .adminC => (.ok (resolveSubquery o ["role", "person"] "adminC" true), defs)
  | .techC => (.ok (resolveSubquery o ["role", "person"] "techC" true), defs)
  | .mbrsByRef => (.ok (resolveSubquery o ["mntner"] "mbrsByRef" true), defs)
  | .memberOf =>
    ((referringOf defs o.objectClass "member-of").map (fun subObjectClasses ↦
      resolveSubquery o subObjectClasses "memberOf" true), defs)
  | .members =>
    match referringOf defs o.objectClass "members" with
    | .error e => (.error e, defs)
    | .ok referring =>
      let subObjectClasses := (referring.erase "aut-num").erase "inet-rtr"
      (.ok (resolveSubquery o subObjectClasses "members" false),
        defs.modify o.objectClass "members" (fun r ↦ { r with referring := subObjectClasses }))

/-- A process: its reference fields, and whether it has generated a schema. -/
structure Process where
  definitions : Definitions
  schemaGenerated : Bool

/-- What happens in a process: a schema is generated, a reference field parses a value, as those of
an object do when it is parsed, or sub-objects are resolved. -/
inductive ProcessStep
  | generateSchema
  | parseField (objectClass name : String)
  | resolve (sub : SubObjects) (o : GraphqlObject)

namespace Process

/-- A process that has only defined the classes. -/
def start : Process := ⟨freshDefinitions, false⟩

/-- One step. A schema is generated when the resolvers are imported. -/
def step (p : Process) : ProcessStep → Option Process
  | .generateSchema => some ⟨generateSchema p.definitions, true⟩
  | .parseField objectClass name =>
    if isReferenceField objectClass name then
      some { p with
        definitions := p.definitions.modify objectClass name ReferenceField.resolved }
    else none
  | .resolve sub o =>
    if p.schemaGenerated then some { p with definitions := (sub.resolve p.definitions o).2 }
    else none

/-- The process after some steps. -/
def run (steps : List ProcessStep) : Option Process := steps.foldlM step start

/-- The reference fields refer to the classes that they refer to in a fresh process, and every text
is accepted as there, with the same data. -/
structure AsFresh (p : Process) : Prop where
  references : ∀ objectClass name, (p.definitions objectClass name).referring =
    (freshDefinitions objectClass name).referring
  parsing : ∀ env text strictValidation defaultSource,
    Agree (fun obj' obj : ParsedObject ↦
        (obj'.errors = [] ↔ obj.errors = []) ∧ obj'.parsedData = obj.parsedData)
      (rpslObjectFromTextIn env p.definitions text strictValidation defaultSource)
      (rpslObjectFromText env text strictValidation defaultSource)

end Process

/-- The steps that resolve the members of a set whose members may be AS numbers or routers. -/
def ProcessStep.ResolvesSetMembers : ProcessStep → Prop
  | .resolve .members o => o.objectClass = "as-set" ∨ o.objectClass = "rtr-set"
  | _ => False

section Members

variable {defs : Definitions} {o : GraphqlObject} {sub : SubObjects}

theorem isReferenceField_members {objectClass : String} :
    isReferenceField objectClass "members" = true ↔
      objectClass = "as-set" ∨ objectClass = "rtr-set" := by
  have htable : ∀ c ∈ objectClasses, ∀ f ∈ c.fields, f.name = "members" →
      f.kind.isReference = true → c.rpslObjectClass = "as-set" ∨ c.rpslObjectClass = "rtr-set" := by
    decide +kernel
  constructor
  · intro h
    obtain ⟨c, hc, f, hf, rfl, hname, hkind⟩ := exists_of_isReferenceField h
    exact htable c hc f hf hname hkind
  · rintro (rfl | rfl) <;> decide +kernel

theorem referringOf_of_isReferenceField {objectClass name : String}
    (h : isReferenceField objectClass name = true) :
    referringOf defs objectClass name = .ok (defs objectClass name).referring := by
  obtain ⟨c, hc, f, hf, rfl, rfl, hkind⟩ := exists_of_isReferenceField h
  have hclass : c.rpslObjectClass ∈ objectClassMapping := by
    rw [← map_rpslObjectClass_objectClasses]
    exact List.mem_map_of_mem hc
  unfold referringOf
  rw [if_neg (fun hnot ↦ hnot hclass), classField_of_mem c hc f hf]
  exact if_pos hkind

theorem isReferenceField_of_referringOf {objectClass name : String} {referring : List String}
    (h : referringOf defs objectClass name = .ok referring) :
    isReferenceField objectClass name = true := by
  unfold referringOf at h
  unfold isReferenceField
  rcases hf : classField objectClass name with _ | f <;> simp only [hf] at h
  · split at h <;> cases h
  · by_cases hkind : f.kind.isReference = true
    · exact hkind
    · simp only [hkind] at h
      split at h <;> cases h

/-- The weak references are removed from the field itself. -/
theorem resolve_members (h : isReferenceField o.objectClass "members" = true) :
    (SubObjects.members.resolve defs o).2 = defs.modify o.objectClass "members" (fun r ↦
      { r with
        referring := ((defs o.objectClass "members").referring.erase "aut-num").erase
          "inet-rtr" }) := by
  unfold SubObjects.resolve
  rw [referringOf_of_isReferenceField h]

/-- No other resolver changes a field. -/
theorem resolve_of_not_members
    (h : ¬ (ProcessStep.resolve sub o).ResolvesSetMembers) : (sub.resolve defs o).2 = defs := by
  cases sub with
  | members =>
    rcases hreferring : referringOf defs o.objectClass "members" with e | referring
    · unfold SubObjects.resolve
      rw [hreferring]
    · exact absurd (isReferenceField_members.mp (isReferenceField_of_referringOf hreferring)) h
  | _ => rfl

end Members

namespace Process

variable {p q : Process} {action : ProcessStep} {steps : List ProcessStep}

/-- What holds of every process: its reference fields are sound, and have resolved their references
once a schema is generated. -/
structure Sound (p : Process) : Prop where
  definitions : p.definitions.Sound
  resolved : p.schemaGenerated = true → p.definitions.Resolved

theorem sound_start : start.Sound := ⟨sound_freshDefinitions, fun h ↦ by cases h⟩

/-- A change that keeps fields resolved keeps those of the process so. -/
theorem resolved_modify {defs : Definitions} (h : defs.Resolved)
    {change : ReferenceField → ReferenceField}
    (hchange : ∀ r, r.referringIdentifierFields ≠ [] → (change r).referringIdentifierFields ≠ [])
    (objectClass name : String) : (defs.modify objectClass name change).Resolved := by
  intro objectClass' name' href
  unfold Definitions.modify
  split
  · exact hchange _ (h objectClass' name' href)
  · exact h objectClass' name' href

theorem Sound.step (h : p.Sound) (hstep : p.step action = some q) : q.Sound := by
  cases action with
  | generateSchema =>
    obtain ⟨hsound, hresolved, -⟩ := generateSchema_spec h.definitions
    simp only [Process.step, Option.some.injEq] at hstep
    subst hstep
    refine ⟨?_, fun _ ↦ ?_⟩
    · dsimp only
      exact hsound
    · dsimp only
      exact hresolved
  | parseField objectClass name =>
    simp only [Process.step, Option.ite_none_right_eq_some] at hstep
    cases hstep.2
    refine ⟨h.definitions.modify (fun c hc f hf href hclass hname ↦ ?_), fun hgenerated ↦
      resolved_modify (h.resolved hgenerated) (fun r hr ↦ ?_) objectClass name⟩
    · rw [← hclass, ← hname]
      exact (h.definitions c hc f hf href).resolved
    · unfold ReferenceField.resolved
      rwa [if_neg hr]
  | resolve sub o =>
    simp only [Process.step, Option.ite_none_right_eq_some] at hstep
    obtain ⟨hgenerated, hstep⟩ := hstep
    cases hstep
    by_cases hmembers : (ProcessStep.resolve sub o).ResolvesSetMembers
    · have hresolved := h.resolved hgenerated
      cases sub with
      | members =>
        have href := isReferenceField_members.mpr hmembers
        show Sound ⟨(SubObjects.members.resolve p.definitions o).2, p.schemaGenerated⟩
        rw [resolve_members href]
        refine ⟨?_, fun _ ↦ ?_⟩
        · dsimp only
          apply h.definitions.modify
          intro c hc f hf hkind hclass hname
          have hsound := h.definitions c hc f hf hkind
          rw [hclass, hname] at hsound
          exact hsound.refersToLess (hresolved _ _ href)
            (List.erase_sublist.trans List.erase_sublist)
        · dsimp only
          apply resolved_modify hresolved
          exact fun r hr ↦ hr
      | _ => exact hmembers.elim
    · show Sound ⟨(sub.resolve p.definitions o).2, p.schemaGenerated⟩
      rw [resolve_of_not_members hmembers]
      exact h

/-- A step that does not resolve members of sets leaves what fields refer to. -/
theorem referring_step (h : p.Sound) (hstep : p.step action = some q)
    (hmembers : ¬ action.ResolvesSetMembers) (objectClass name : String) :
    (q.definitions objectClass name).referring = (p.definitions objectClass name).referring := by
  cases action with
  | generateSchema =>
    simp only [Process.step, Option.some.injEq] at hstep
    subst hstep
    exact (generateSchema_spec h.definitions).2.2 objectClass name
  | parseField objectClass' name' =>
    simp only [Process.step, Option.ite_none_right_eq_some] at hstep
    cases hstep.2
    exact referring_modify ReferenceField.referring_resolved _ _ _ _
  | resolve sub o =>
    simp only [Process.step, Option.ite_none_right_eq_some] at hstep
    cases hstep.2
    show ((sub.resolve p.definitions o).2 objectClass name).referring = _
    rw [resolve_of_not_members hmembers]

/-- No step makes a field refer to more. -/
theorem referring_sublist (h : p.Sound) (hstep : p.step action = some q)
    (objectClass name : String) :
    (q.definitions objectClass name).referring.Sublist
      (p.definitions objectClass name).referring := by
  by_cases hmembers : action.ResolvesSetMembers
  · cases action with
    | resolve sub o =>
      cases sub with
      | members =>
        simp only [Process.step, Option.ite_none_right_eq_some] at hstep
        cases hstep.2
        show ((SubObjects.members.resolve p.definitions o).2 objectClass name).referring.Sublist _
        rw [resolve_members (isReferenceField_members.mpr hmembers)]
        unfold Definitions.modify
        split
        · next hsame =>
          rw [hsame.1, hsame.2]
          exact List.erase_sublist.trans List.erase_sublist
        · exact List.Sublist.refl _
      | _ => exact hmembers.elim
    | _ => exact hmembers.elim
  · rw [referring_step h hstep hmembers]

/-- What a process has lost once the members of a set were resolved: a class that members of an
as-set or of an rtr-set refer to. -/
def HasLost (p : Process) : Prop :=
  "aut-num" ∉ (p.definitions "as-set" "members").referring ∨
    "inet-rtr" ∉ (p.definitions "rtr-set" "members").referring

theorem hasLost_step (h : p.Sound) (hstep : p.step action = some q) (hlost : p.HasLost) :
    q.HasLost :=
  hlost.imp (fun hnot hmem ↦ hnot ((referring_sublist h hstep _ _).subset hmem))
    (fun hnot hmem ↦ hnot ((referring_sublist h hstep _ _).subset hmem))

/-- The members of a set, which refer to two classes. -/
theorem referring_members (h : p.Sound) :
    (p.definitions "as-set" "members").referring.Sublist ["aut-num", "as-set"] ∧
      (p.definitions "rtr-set" "members").referring.Sublist ["inet-rtr", "rtr-set"] := by
  have hfield {objectClass : String} {referring : List String}
      (hmembers : ∃ c ∈ objectClasses, ∃ f ∈ c.fields, c.rpslObjectClass = objectClass ∧
        f.name = "members" ∧ f.kind.isReference = true ∧ f.kind.referring = referring) :
      (p.definitions objectClass "members").referring.Sublist referring := by
    obtain ⟨c, hc, f, hf, rfl, hname, hkind, rfl⟩ := hmembers
    have hsound := h.definitions c hc f hf hkind
    rw [hname] at hsound
    exact hsound.referring
  exact ⟨hfield (by decide +kernel), hfield (by decide +kernel)⟩

theorem hasLost_of_resolvesSetMembers (h : p.Sound) (hstep : p.step action = some q)
    (hmembers : action.ResolvesSetMembers) : q.HasLost := by
  cases action with
  | resolve sub o =>
    cases sub with
    | members =>
      obtain ⟨hasSet, hrtrSet⟩ := referring_members h
      simp only [Process.step, Option.ite_none_right_eq_some] at hstep
      obtain ⟨-, hstep⟩ := hstep
      simp only [Option.some.injEq] at hstep
      subst hstep
      unfold HasLost
      rw [resolve_members (isReferenceField_members.mpr hmembers)]
      rcases hmembers with hclass | hclass <;> rw [hclass]
      · left
        simp only [Definitions.modify, and_self, if_true]
        exact fun hmem ↦ ((hasSet.nodup (by decide)).not_mem_erase (List.mem_of_mem_erase hmem))
      · right
        simp only [Definitions.modify, and_self, if_true]
        exact ((List.erase_sublist.trans hrtrSet).nodup (by decide)).not_mem_erase
    | _ => exact hmembers.elim
  | _ => exact hmembers.elim

theorem sound_of_foldlM (h : p.Sound) (hrun : steps.foldlM step p = some q) : q.Sound := by
  induction steps generalizing p with
  | nil => exact Option.some_inj.mp hrun ▸ h
  | cons action steps ih =>
    rw [List.foldlM_cons] at hrun
    obtain ⟨r, hr, hrun⟩ := Option.bind_eq_some_iff.mp hrun
    exact ih (h.step hr) hrun

theorem hasLost_of_foldlM (h : p.Sound) (hrun : steps.foldlM step p = some q)
    (hlost : p.HasLost ∨ ∃ action ∈ steps, action.ResolvesSetMembers) : q.HasLost := by
  induction steps generalizing p with
  | nil => exact Option.some_inj.mp hrun ▸ hlost.resolve_right (by simp)
  | cons action steps ih =>
    rw [List.foldlM_cons] at hrun
    obtain ⟨r, hr, hrun⟩ := Option.bind_eq_some_iff.mp hrun
    refine ih (h.step hr) hrun ?_
    rcases hlost with hlost | ⟨other, hother, hmembers⟩
    · exact .inl (hasLost_step h hr hlost)
    · rcases List.mem_cons.mp hother with rfl | hother
      · exact .inl (hasLost_of_resolvesSetMembers h hr hmembers)
      · exact .inr ⟨other, hother, hmembers⟩

theorem referring_of_foldlM (h : p.Sound) (hrun : steps.foldlM step p = some q)
    (hmembers : ∀ action ∈ steps, ¬ action.ResolvesSetMembers) (objectClass name : String) :
    (q.definitions objectClass name).referring = (p.definitions objectClass name).referring := by
  induction steps generalizing p with
  | nil => exact Option.some_inj.mp hrun ▸ rfl
  | cons action steps ih =>
    rw [List.foldlM_cons] at hrun
    obtain ⟨r, hr, hrun⟩ := Option.bind_eq_some_iff.mp hrun
    obtain ⟨hfirst, hothers⟩ := List.forall_mem_cons.mp hmembers
    rw [ih (h.step hr) hrun hothers, referring_step h hr hfirst]

/-- A process stays as a fresh one exactly if it resolves no members of as-sets and rtr-sets. -/
theorem asFresh_iff (hrun : run steps = some p) :
    p.AsFresh ↔ ∀ action ∈ steps, ¬ action.ResolvesSetMembers := by
  constructor
  · intro h action hmem hmembers
    rcases hasLost_of_foldlM sound_start hrun (.inr ⟨action, hmem, hmembers⟩) with hlost | hlost
    · rw [h.references] at hlost
      exact hlost (by decide +kernel)
    · rw [h.references] at hlost
      exact hlost (by decide +kernel)
  · intro hmembers
    exact ⟨referring_of_foldlM sound_start hrun hmembers,
      rpslObjectFromTextIn_agree (sound_of_foldlM sound_start hrun).definitions⟩

section Examples

/-- An as-set with a member. -/
def asSetObject : GraphqlObject := ⟨"as-set", "TEST", [("members", ["AS65537"])]⟩

/-- A process that resolves the maintainers of an as-set stays as a fresh one. -/
theorem asFresh_mntBy : ∃ p,
    run [.generateSchema, .parseField "as-set" "members", .resolve .mntBy asSetObject] = some p ∧
      p.AsFresh := by
  have hsome : (run [.generateSchema, .parseField "as-set" "members",
      .resolve .mntBy asSetObject]).isSome = true := by decide +kernel
  obtain ⟨p, hp⟩ := Option.isSome_iff_exists.mp hsome
  refine ⟨p, hp, (asFresh_iff hp).mpr (fun action hmem ↦ ?_)⟩
  simp only [List.mem_cons, List.not_mem_nil, or_false] at hmem
  rcases hmem with rfl | rfl | rfl <;> exact id

/-- A query for the members of an as-set makes its members refer to as-sets alone. -/
theorem not_asFresh_members : ∃ p, run [.generateSchema, .resolve .members asSetObject] = some p ∧
    (p.definitions "as-set" "members").referring = ["as-set"] ∧
    (freshDefinitions "as-set" "members").referring = ["aut-num", "as-set"] ∧ ¬ p.AsFresh := by
  have hrun : (run [.generateSchema, .resolve .members asSetObject]).map
      (fun p ↦ (p.definitions "as-set" "members").referring) = some ["as-set"] := by
    decide +kernel
  obtain ⟨p, hp, hmembers⟩ := Option.map_eq_some_iff.mp hrun
  have hfresh : (freshDefinitions "as-set" "members").referring = ["aut-num", "as-set"] := by
    decide +kernel
  refine ⟨p, hp, hmembers, hfresh, fun h ↦ ?_⟩
  have hsame := h.references "as-set" "members"
  rw [hmembers, hfresh] at hsame
  exact absurd hsame (by decide)

end Examples

end Process

end Irrd.Server
