import Irrd.Storage.PreloadCollection

/-!
# Faithfulness of the preload store

What is read from the preload store, compared with what the database has. Names and contents are
flattened into strings with separators, and only texts in ASCII are loaded, so faithfulness depends
on the names and members that sets have.
-/

namespace Irrd.Storage

open Irrd.Base Irrd.Utils

section Text

@[simp] theorem isAscii_storeKey (source name : String) :
    isAscii (storeKey source name) = (isAscii source && isAscii name) := by
  unfold storeKey
  rw [isAscii_append, isAscii_append, show isAscii "_" = true from rfl, Bool.and_true]

/-- Joined texts are in ASCII exactly if each of them is. -/
theorem isAscii_intercalate (parts : List String) :
    isAscii (",".intercalate parts) = parts.all isAscii := by
  induction parts with
  | nil => rfl
  | cons part parts ih =>
    cases parts with
    | nil => simp
    | cons part' parts =>
      rw [String.intercalate_cons_cons, isAscii_append, isAscii_append, ih,
        show isAscii "," = true from rfl, Bool.and_true]
      rfl

theorem isAscii_toString (n : Nat) : isAscii (toString n) = true := by
  refine List.all_eq_true.mpr (fun c hc ↦ decide_eq_true ?_)
  have hdigit := isDigit_of_mem_toString hc
  simp only [Char.isDigit, Bool.and_eq_true, decide_eq_true_eq] at hdigit
  exact UInt32.le_trans hdigit.2 (by decide)

theorem comma_notMem_toString (n : Nat) : ',' ∉ (toString n).toList := fun hc ↦
  absurd (isDigit_of_mem_toString hc) (by decide)

/-- Contents without separators are split as they were joined, unless there are none. -/
theorem splitAt_intercalate {parts : List String} (hparts : ∀ part ∈ parts, ',' ∉ part.toList)
    (hne : parts ≠ []) : splitAt ',' (",".intercalate parts) = parts := by
  unfold splitAt
  rw [String.toList_intercalate]
  change (([','].intercalate (parts.map String.toList)).splitOn ',').map _ = _
  rw [List.splitOn_intercalate ',' (by simpa using hparts) (by simpa using hne), List.map_map]
  exact (List.map_congr_left (fun part _ ↦ String.ofList_toList)).trans (List.map_id parts)

/-- No contents are split into one empty text. -/
theorem splitAt_empty : splitAt ',' "" = [""] := rfl

end Text

section Hash

variable {lib : PreloadLibrary} {store : PreloadDict}

theorem iterate_empty : lib.iterate ∅ = [] :=
  List.toFinset_eq_empty_iff _ |>.mp (lib.toFinset_iterate ∅)

theorem mem_iterate {members : Finset String} {member : String} :
    member ∈ lib.iterate members ↔ member ∈ members := by
  rw [← List.mem_toFinset, lib.toFinset_iterate]

theorem isAscii_storeValue (members : Finset String) :
    isAscii (storeValue lib members) = true ↔ ∀ member ∈ members, isAscii member = true := by
  unfold storeValue
  rw [isAscii_intercalate, List.all_eq_true]
  exact forall_congr' (fun member ↦ by rw [mem_iterate])

/-- The entries of the hash of a store: its own, and the sentinel in place of one of that name. -/
theorem lookup_updateStore (lib : PreloadLibrary) (store : PreloadDict) (name : String) :
    (updateStore lib store).lookup (encode name) =
      if name = "SENTINEL_HASH_CREATED" then some (encode "1")
      else (store.lookup name).map (fun members ↦ encode (storeValue lib members)) := by
  unfold updateStore
  split
  · next hname =>
    subst hname
    exact AList.lookup_insert _
  · next hname =>
    have hdistinct : store.entries.Pairwise (fun entry entry' ↦ encode entry.1 ≠ encode entry'.1) :=
      (List.pairwise_map.mp store.keys_nodup).imp (fun hne heq ↦ hne (encode_injective heq))
    have hsentinel : encode name ≠ sentinelHashCreated := fun h ↦ hname (encode_injective h)
    rw [AList.lookup_insert_ne hsentinel,
      lookup_foldl_insert (A := Sigma (fun _ : String ↦ Finset String))
        (fun entry ↦ encode entry.1) (fun entry ↦ encode (storeValue lib entry.2)) hdistinct,
      AList.lookup_empty, Option.or_none]
    cases hlookup : store.lookup name with
    | none =>
      rw [List.find?_eq_none.mpr]
      · rfl
      · intro entry hentry heq
        have hmem := AList.mem_lookup_iff.mpr hentry
        rw [encode_injective (of_decide_eq_true heq), hlookup] at hmem
        cases hmem
    | some members =>
      have hentry := AList.mem_lookup_iff.mp hlookup
      cases hfind : store.entries.find? (fun entry ↦ encode entry.1 = encode name) with
      | none => exact absurd (decide_eq_true rfl) (List.find?_eq_none.mp hfind _ hentry)
      | some entry =>
        have hfound : encode entry.1 = encode name := by simpa using List.find?_some hfind
        have hname' := encode_injective hfound
        have hmem := AList.mem_lookup_iff.mpr (List.mem_of_find?_eq_some hfind)
        rw [hname', hlookup] at hmem
        cases hmem
        rfl

/-- Every entry of the hash of a store is its sentinel or has the name of an entry of the store. -/
theorem mem_updateStore {bytes : List UInt8} (h : bytes ∈ updateStore lib store) :
    ∃ name, bytes = encode name ∧ (name = "SENTINEL_HASH_CREATED" ∨ name ∈ store) := by
  have hkeys (entries : List (Sigma (fun _ : String ↦ Finset String))) (hash : RedisHash)
      (hmem : bytes ∈ entries.foldl (fun (hash : RedisHash) entry ↦
        hash.insert (encode entry.1) (encode (storeValue lib entry.2))) hash) :
      (∃ entry ∈ entries, bytes = encode entry.1) ∨ bytes ∈ hash := by
    induction entries generalizing hash with
    | nil => exact .inr hmem
    | cons entry entries ih =>
      rcases ih _ hmem with ⟨entry', hentry', heq⟩ | hmem
      · exact .inl ⟨entry', List.mem_cons_of_mem entry hentry', heq⟩
      · rcases (AList.mem_insert _).mp hmem with heq | hmem
        · exact .inl ⟨entry, List.mem_cons_self, heq⟩
        · exact .inr hmem
  rcases (AList.mem_insert _).mp h with rfl | h
  · exact ⟨_, rfl, .inl rfl⟩
  · rcases hkeys _ _ h with ⟨entry, hentry, rfl⟩ | h
    · exact ⟨entry.1, rfl, .inr (AList.mem_keys.mpr (List.mem_map_of_mem hentry))⟩
    · exact absurd h (AList.notMem_empty _)

end Hash

section Load

variable {lib : PreloadLibrary} {store : PreloadDict} {source name : String}

/-- The value under a source and a name. -/
def SourceStore.value (store : SourceStore) (source name : String) : Option String :=
  (store.lookup source).bind (fun entries ↦ entries.lookup name)

theorem lookup_filter_ne {source source' : String} (hne : source' ≠ source)
    (target : SourceStore) :
    (target.filter (fun e ↦ e.1 ≠ source)).lookup source' = target.lookup source' := by
  induction target with
  | nil => rfl
  | cons e target ih =>
    by_cases he : e.1 = source
    · rw [List.filter_cons_of_neg (by simpa using he), ih, List.lookup_cons,
        beq_false_of_ne (fun h ↦ hne (h.trans he))]
    · rw [List.filter_cons_of_pos (by simpa using he), List.lookup_cons, List.lookup_cons, ih]

theorem value_assign (target : SourceStore) (source name value source' name' : String) :
    (target.assign source name value).value source' name' =
      if source = source' ∧ name = name' then some value else target.value source' name' := by
  unfold SourceStore.assign SourceStore.value
  by_cases hsource : source' = source
  · subst hsource
    rw [List.lookup_cons_self, Option.bind_some]
    by_cases hname : name' = name
    · subst hname
      simp
    · rw [List.lookup_cons, beq_false_of_ne hname, if_neg (fun h ↦ hname h.2.symm)]
      cases target.lookup source' <;> rfl
  · rw [List.lookup_cons, beq_false_of_ne hsource, if_neg (fun h ↦ hsource h.1.symm)]
    exact congrArg (Option.bind · _) (lookup_filter_ne hsource target)

/-- The contents that one entry has for a source and a name. -/
def entryValue (source name : String) (entry : List UInt8 × List UInt8) : Option String :=
  if entry.1 = sentinelHashCreated then none
  else
    match readEntry entry with
    | .error _ => none
    | .ok (source', name', value) => if source' = source ∧ name' = name then some value else none

/-- A store that was loaded from some entries, of which the last one under a name counts. -/
def HoldsEntries (done : List (List UInt8 × List UInt8)) (target : SourceStore) : Prop :=
  ∀ source name, target.value source name = done.reverse.findSome? (entryValue source name)

/-- A load fails exactly if an entry cannot be read, and holds all entries otherwise. -/
theorem loadStore_spec (hash : RedisHash) :
    ((∀ entry ∈ hash.entries.map (fun e ↦ (e.1, e.2)),
        ¬ (entry.1 ≠ sentinelHashCreated ∧ ∃ e, readEntry entry = .error e)) →
          ∃ target, loadStore hash = .ok target ∧
            HoldsEntries (hash.entries.map (fun e ↦ (e.1, e.2))) target) ∧
      ((∃ entry ∈ hash.entries.map (fun e ↦ (e.1, e.2)),
          entry.1 ≠ sentinelHashCreated ∧ ∃ e, readEntry entry = .error e) →
        ∃ e, loadStore hash = .error e) := by
  have hrefused : ∀ entry ∈ hash.entries.map (fun e ↦ (e.1, e.2)),
      (entry.1 ≠ sentinelHashCreated ∧ ∃ e, readEntry entry = .error e) →
        ∀ done target, HoldsEntries done target → ∃ e, loadEntry target entry = .error e := by
    rintro entry - ⟨hne, e, he⟩ done target -
    exact ⟨e, by rw [loadEntry, if_neg hne, he]; rfl⟩
  have hstep : ∀ entry ∈ hash.entries.map (fun e ↦ (e.1, e.2)),
      ¬ (entry.1 ≠ sentinelHashCreated ∧ ∃ e, readEntry entry = .error e) →
        ∀ done target, HoldsEntries done target →
          ∃ target', loadEntry target entry = .ok target' ∧
            HoldsEntries (done ++ [entry]) target' := by
    intro entry _ hentry done target h
    by_cases hsentinel : entry.1 = sentinelHashCreated
    · refine ⟨target, by rw [loadEntry, if_pos hsentinel], fun source name ↦ ?_⟩
      rw [List.reverse_append, List.reverse_singleton, List.singleton_append, List.findSome?_cons,
        entryValue, if_pos hsentinel]
      exact h source name
    · cases hread : readEntry entry with
      | error e => exact absurd ⟨hsentinel, e, hread⟩ hentry
      | ok result =>
        obtain ⟨source', name', value⟩ := result
        refine ⟨target.assign source' name' value, ?_, fun source name ↦ ?_⟩
        · rw [loadEntry, if_neg hsentinel, hread]
          rfl
        · rw [List.reverse_append, List.reverse_singleton, List.singleton_append,
            List.findSome?_cons, entryValue, if_neg hsentinel, hread, value_assign]
          dsimp only
          split
          · rfl
          · exact h source name
  have hnil : HoldsEntries [] [] := fun _ _ ↦ rfl
  exact foldlM_spec hrefused hstep hnil

theorem readEntry_encode (hsource : HasNoSeparator source) (name value : String) :
    readEntry (encode (storeKey source name), encode value) =
      if isAscii (storeKey source name) = true ∧ isAscii value = true then .ok (source, name, value)
      else .error .unicodeDecodeError := by
  unfold readEntry decodeText
  simp only [decodeAscii_encode]
  by_cases hkey : isAscii (storeKey source name) = true
  · by_cases hvalue : isAscii value = true
    · simp only [hkey, hvalue, if_true, Option.elim_some, bind, Except.bind, and_self,
        splitOnce_storeKey hsource, pure, Except.pure, String.ofList_toList]
    · simp only [hkey, hvalue, if_true, Option.elim_some, bind, Except.bind, and_false,
        splitOnce_storeKey hsource, Bool.false_eq_true, if_false, Option.elim_none]
  · simp only [hkey, Bool.false_eq_true, if_false, Option.elim_none, bind, Except.bind, false_and]

/-- All keys of a store have a source and a name. -/
def HasStoreKeys (store : PreloadDict) : Prop :=
  ∀ key ∈ store, ∃ source name, HasNoSeparator source ∧ key = storeKey source name

/-- A store all whose names and members can be loaded. An entry that the sentinel replaces never
is. -/
def IsLoadable (store : PreloadDict) : Prop :=
  ∀ key members, store.lookup key = some members → key ≠ "SENTINEL_HASH_CREATED" →
    isAscii key = true ∧ ∀ member ∈ members, isAscii member = true

/-- An entry of a hash is its sentinel or an entry of the store. -/
theorem entry_cases (hkeys : HasStoreKeys store) {entry : List UInt8 × List UInt8}
    (hentry : entry ∈ (updateStore lib store).entries.map (fun e ↦ (e.1, e.2))) :
    entry.1 = sentinelHashCreated ∨ ∃ source name members, HasNoSeparator source ∧
      storeKey source name ≠ "SENTINEL_HASH_CREATED" ∧
      store.lookup (storeKey source name) = some members ∧
      entry = (encode (storeKey source name), encode (storeValue lib members)) := by
  obtain ⟨⟨bytes, value⟩, hmem, rfl⟩ := List.mem_map.mp hentry
  have hlookup := AList.mem_lookup_iff.mpr hmem
  obtain ⟨key, rfl, hkey⟩ := mem_updateStore
    (AList.mem_keys.mpr (List.mem_map_of_mem (f := Sigma.fst) hmem))
  rw [lookup_updateStore] at hlookup
  split at hlookup
  · next hsentinel => exact .inl (by rw [hsentinel]; rfl)
  · next hne =>
    obtain ⟨members, hmembers, hvalue⟩ := Option.map_eq_some_iff.mp hlookup
    obtain ⟨source, name, hsource, rfl⟩ := hkeys key (hkey.resolve_left hne)
    exact .inr ⟨source, name, members, hsource, hne, hmembers, by rw [← hvalue]⟩

/-- Every entry of a store that the sentinel does not replace is an entry of its hash. -/
theorem mem_entries (lib : PreloadLibrary) {key : String} {members : Finset String}
    (hlookup : store.lookup key = some members) (hne : key ≠ "SENTINEL_HASH_CREATED") :
    (encode key, encode (storeValue lib members)) ∈
      (updateStore lib store).entries.map (fun e ↦ (e.1, e.2)) := by
  have hentry : (updateStore lib store).lookup (encode key) =
      some (encode (storeValue lib members)) := by
    rw [lookup_updateStore, if_neg hne, hlookup]
    rfl
  exact List.mem_map.mpr ⟨_, AList.mem_lookup_iff.mp hentry, rfl⟩

/-- A store is loaded exactly if it is loadable. Then it has the entries that the sentinel does not
replace. -/
theorem loadStore_updateStore (lib : PreloadLibrary) (hkeys : HasStoreKeys store) :
    (IsLoadable store → ∃ target, loadStore (updateStore lib store) = .ok target ∧
      ∀ source name, HasNoSeparator source → target.value source name =
        if storeKey source name = "SENTINEL_HASH_CREATED" then none
        else (store.lookup (storeKey source name)).map (storeValue lib)) ∧
      (¬ IsLoadable store → ∃ e, loadStore (updateStore lib store) = .error e) := by
  obtain ⟨hok, herror⟩ := loadStore_spec (updateStore lib store)
  have hread {source name : String} {members : Finset String} (hsource : HasNoSeparator source) :
      readEntry (encode (storeKey source name), encode (storeValue lib members)) =
        if isAscii (storeKey source name) = true ∧ ∀ member ∈ members, isAscii member = true then
          .ok (source, name, storeValue lib members) else .error .unicodeDecodeError := by
    simp only [readEntry_encode hsource, isAscii_storeValue]
  have hsentinel {key : String} (hne : key ≠ "SENTINEL_HASH_CREATED") :
      encode key ≠ sentinelHashCreated := fun h ↦ hne (encode_injective h)
  constructor
  · intro hloadable
    obtain ⟨target, htarget, hholds⟩ := hok (fun entry hentry hfails ↦ by
      rcases entry_cases hkeys hentry with h | ⟨source, name, members, hsource, hne, hlookup, rfl⟩
      · exact hfails.1 h
      · obtain ⟨-, e, he⟩ := hfails
        rw [hread hsource, if_pos (hloadable _ _ hlookup hne)] at he
        cases he)
    refine ⟨target, htarget, fun source name hsource ↦ ?_⟩
    rw [hholds source name]
    have hvalue {entry : List UInt8 × List UInt8} {value : String}
        (hentry : entry ∈ (updateStore lib store).entries.map (fun e ↦ (e.1, e.2)))
        (hsome : entryValue source name entry = some value) :
        storeKey source name ≠ "SENTINEL_HASH_CREATED" ∧
          (store.lookup (storeKey source name)).map (storeValue lib) = some value := by
      unfold entryValue at hsome
      split at hsome
      · cases hsome
      · next hkey =>
        rcases entry_cases hkeys hentry with h | ⟨source', name', members, hs, hne, hlookup, rfl⟩
        · exact absurd h hkey
        · rw [hread hs, if_pos (hloadable _ _ hlookup hne)] at hsome
          dsimp only at hsome
          split at hsome
          · next heq =>
            obtain ⟨rfl, rfl⟩ := heq
            cases hsome
            exact ⟨hne, by rw [hlookup]; rfl⟩
          · cases hsome
    cases hfind : (((updateStore lib store).entries.map (fun e ↦ (e.1, e.2))).reverse).findSome?
        (entryValue source name) with
    | some value =>
      obtain ⟨entry, hentry, hsome⟩ := List.exists_of_findSome?_eq_some hfind
      obtain ⟨hne, hlookup⟩ := hvalue (List.mem_reverse.mp hentry) hsome
      rw [if_neg hne, hlookup]
    | none =>
      split
      · rfl
      · next hne =>
        cases hlookup : store.lookup (storeKey source name) with
        | none => rfl
        | some members =>
          have hnone := List.findSome?_eq_none_iff.mp hfind _
            (List.mem_reverse.mpr (mem_entries lib hlookup hne))
          rw [entryValue, if_neg (hsentinel hne), hread hsource,
            if_pos (hloadable _ _ hlookup hne)] at hnone
          simp at hnone
  · intro hnot
    apply herror
    unfold IsLoadable at hnot
    push Not at hnot
    obtain ⟨key, members, hlookup, hne, hascii⟩ := hnot
    obtain ⟨source, name, hsource, rfl⟩ := hkeys key
      (AList.lookup_isSome.mp (by rw [hlookup]; rfl))
    refine ⟨_, mem_entries lib hlookup hne, hsentinel hne, .unicodeDecodeError, ?_⟩
    rw [hread hsource, if_neg]
    rintro ⟨hkey, hmembers⟩
    obtain ⟨member, hmember, hfalse⟩ := hascii hkey
    exact hfalse (hmembers member hmember)

/-- Sources with the separator are never loaded. -/
theorem value_of_separator (hkeys : HasStoreKeys store) {target : SourceStore}
    (htarget : loadStore (updateStore lib store) = .ok target) (hsource : ¬ HasNoSeparator source)
    (name : String) : target.value source name = none := by
  obtain ⟨hok, herror⟩ := loadStore_spec (updateStore lib store)
  by_cases hfails : ∃ entry ∈ (updateStore lib store).entries.map (fun e ↦ (e.1, e.2)),
      entry.1 ≠ sentinelHashCreated ∧ ∃ e, readEntry entry = .error e
  · obtain ⟨e, he⟩ := herror hfails
    rw [htarget] at he
    cases he
  · obtain ⟨target', htarget', hholds⟩ := hok (fun entry hentry h ↦ hfails ⟨entry, hentry, h⟩)
    cases htarget.symm.trans htarget'
    rw [hholds source name, List.findSome?_eq_none_iff]
    intro entry hentry
    unfold entryValue
    split
    · rfl
    · next hkey =>
      rcases entry_cases hkeys (List.mem_reverse.mp hentry) with h |
        ⟨source', name', members, hs, -, -, rfl⟩
      · exact absurd h hkey
      · rw [readEntry_encode hs]
        split
        · rfl
        · next result hresult =>
          split at hresult
          · cases hresult
            rw [if_neg]
            rintro ⟨rfl, -⟩
            exact hsource hs
          · cases hresult

end Load

end Irrd.Storage
