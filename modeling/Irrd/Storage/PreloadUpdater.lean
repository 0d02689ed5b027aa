import Irrd.Storage.Models
import Irrd.Storage.Preload
import Irrd.Utils.Encoding
import Irrd.Utils.Lines
import Mathlib.Data.List.AList

/-!
# Filling the preload store

Prefixes of origins and members of sets, as they are collected from the database, stored in redis
as bytes, and loaded into memory. Source: `irrd/storage/preload.py`. A redis hash and a Python
dictionary are finite maps from their keys, and Python sets are finite sets.
-/

namespace Irrd.Storage

open Irrd.Utils

/-- Exceptions of an update or a load. -/
inductive PreloadException
  | keyError
  | unicodeDecodeError
  | valueError
  deriving DecidableEq

/-- What the standard library and the database do: sets are iterated over in some order, and
addresses come out of the database as text. -/
structure PreloadLibrary where
  iterate : Finset String → List String
  nodup_iterate : ∀ members, (iterate members).Nodup
  toFinset_iterate : ∀ members, (iterate members).toFinset = members
  inetText : IP → String
  inetText_ascii : ∀ ip, isAscii (inetText ip)
  inetText_comma : ∀ ip, ',' ∉ (inetText ip).toList

/-- The class of an object that is a set of this kind. -/
def SetObjectClass.name : SetObjectClass → String
  | .asSet => "as-set"
  | .routeSet => "route-set"

/-- The classes of objects that name sets of this kind in `member-of`. -/
def SetObjectClass.memberClasses : SetObjectClass → List String
  | .asSet => ["aut-num"]
  | .routeSet => ["route", "route6"]

/-- The classes of objects with a prefix and an origin. -/
def routeClasses : List String := ["route", "route6"]

/-- `parsed_data.get(attr, [])`. -/
def RPSLDatabaseObject.parsedValues (row : RPSLDatabaseObject) (attr : String) : List String :=
  (row.parsedData.lookup attr).getD []

/-- `parsed_data[object_class]`. -/
def RPSLDatabaseObject.classAttribute (row : RPSLDatabaseObject) : Option String :=
  (row.parsedData.lookup row.objectClass).bind List.head?

/-- The results of a query for classes under default suppression. -/
def suppressedQuery (rows : List RPSLDatabaseObject) (classes : List String) :
    List RPSLDatabaseObject :=
  rows.filter (fun row ↦ row.objectClass ∈ classes ∧ row.isVisible)

/-- Source and name around `REDIS_KEY_PK_SOURCE_SEPARATOR`. -/
def storeKey (source name : String) : String := source ++ "_" ++ name

/-- A new store, before it is turned into strings. -/
abbrev PreloadDict := AList (fun _ : String ↦ Finset String)

/-- `store[key].add(value)`, for a dictionary with an empty set for missing keys. -/
def PreloadDict.add (store : PreloadDict) (key value : String) : PreloadDict :=
  store.insert key (insert value ((store.lookup key).getD ∅))

section Update

variable (lib : PreloadLibrary)

/-- The prefix of a route. -/
def routePrefix (row : RPSLDatabaseObject) : String :=
  (row.ipFirst.elim "None" lib.inetText) ++ "/" ++ (row.prefixLength.elim "None" toString)

/-- The origin of a route. -/
def routeOrigin (row : RPSLDatabaseObject) : String := "AS" ++ row.asnFirst.elim "None" toString

/-- The iteration of `_update_routes` for one row, on the stores for version 4 and version 6. -/
def addRoute (stores : PreloadDict × PreloadDict) (row : RPSLDatabaseObject) :
    PreloadDict × PreloadDict :=
  let key := storeKey row.source (routeOrigin row)
  (if row.ipVersion = some 4 then stores.1.add key (routePrefix lib row) else stores.1,
    if row.ipVersion = some 6 then stores.2.add key (routePrefix lib row) else stores.2)

/-- `_update_routes`, `irrd/storage/preload.py:500–519`. -/
def updateRoutes (rows : List RPSLDatabaseObject) : PreloadDict × PreloadDict :=
  (suppressedQuery rows routeClasses).foldl (addRoute lib) (∅, ∅)

/-- The members that a set lists itself. -/
def directMembers (row : RPSLDatabaseObject) : Finset String :=
  (row.parsedValues "members" ++ row.parsedValues "mp-members").toFinset

/-- The members by reference that each set permits, `irrd/storage/preload.py:542–552`. -/
abbrev MbrsByRef := AList (fun _ : String × String ↦ List String)

/-- The iteration of `_update_set` for one set. -/
def addSet (stores : PreloadDict × MbrsByRef) (row : RPSLDatabaseObject) :
    PreloadDict × MbrsByRef :=
  let mbrsByRef := row.parsedValues "mbrs-by-ref"
  (stores.1.insert (storeKey row.source row.rpslPk) (directMembers row),
    if mbrsByRef = [] then stores.2 else stores.2.insert (row.source, row.rpslPk) mbrsByRef)

/-- `member_store[key].add(row["parsed_data"][row["object_class"]])`. -/
def addMember (store : PreloadDict) (row : RPSLDatabaseObject) (memberOf : String) :
    Except PreloadException PreloadDict :=
  let key := storeKey row.source memberOf
  match store.lookup key, row.classAttribute with
  | some _, some value => .ok (store.add key value)
  | _, _ => .error .keyError

/-- The iteration of `_update_set` for one set that an object names in `member-of`,
`irrd/storage/preload.py:565–576`. -/
def addReference (mbrsByRefPerSet : MbrsByRef) (store : PreloadDict)
    (reference : RPSLDatabaseObject × String) : Except PreloadException PreloadDict :=
  let (row, memberOf) := reference
  match mbrsByRefPerSet.lookup (row.source, memberOf) with
  | none => .ok store
  | some expectedMntners =>
    if "ANY" ∈ expectedMntners then addMember store row memberOf
    else
      match row.parsedData.lookup "mnt-by" with
      | none => .error .keyError
      | some mntBy =>
        if ∃ mntner ∈ expectedMntners, mntner ∈ mntBy then addMember store row memberOf
        else .ok store

/-- The sets that objects name in `member-of`, object by object. -/
def references (rows : List RPSLDatabaseObject) (memberClasses : List String) :
    List (RPSLDatabaseObject × String) :=
  ((suppressedQuery rows memberClasses).filter (fun row ↦
    (row.parsedData.lookup "member-of").isSome)).flatMap (fun row ↦
      (row.parsedValues "member-of").map (fun memberOf ↦ (row, memberOf)))

/-- `_update_set`, `irrd/storage/preload.py:532–578`. -/
def updateSet (rows : List RPSLDatabaseObject) (kind : SetObjectClass) :
    Except PreloadException PreloadDict :=
  let (memberStore, mbrsByRefPerSet) := (suppressedQuery rows [kind.name]).foldl addSet (∅, ∅)
  (references rows kind.memberClasses).foldlM (addReference mbrsByRefPerSet) memberStore

end Update

section Redis

variable (lib : PreloadLibrary)

/-- A redis hash. -/
abbrev RedisHash := AList (fun _ : List UInt8 ↦ List UInt8)

/-- `SENTINEL_HASH_CREATED`. -/
def sentinelHashCreated : List UInt8 := encode "SENTINEL_HASH_CREATED"

/-- The contents of an entry, joined by `REDIS_CONTENTS_LIST_SEPARATOR`. -/
def storeValue (members : Finset String) : String := ",".intercalate (lib.iterate members)

/-- `update_set_store` and the same in `update_route_store`: the hash that a store becomes. Names
and contents are sent as bytes, and the sentinel is sent last, `irrd/storage/preload.py:345–397`. -/
def updateStore (store : PreloadDict) : RedisHash :=
  (store.entries.foldl (fun (hash : RedisHash) entry ↦
    hash.insert (encode entry.1) (encode (storeValue lib entry.2))) ∅).insert
      sentinelHashCreated (encode "1")

/-- The hashes of the preload store. -/
structure RedisStores where
  originRoute4 : RedisHash
  originRoute6 : RedisHash
  asSet : RedisHash
  routeSet : RedisHash

/-- `PreloadUpdater.update`, for all kinds of data. -/
def update (rows : List RPSLDatabaseObject) : Except PreloadException RedisStores := do
  let (newOriginRoute4Store, newOriginRoute6Store) := updateRoutes lib rows
  let asSetStore ← updateSet rows .asSet
  let routeSetStore ← updateSet rows .routeSet
  return ⟨updateStore lib newOriginRoute4Store, updateStore lib newOriginRoute6Store,
    updateStore lib asSetStore, updateStore lib routeSetStore⟩

/-- `target[source][key] = value`. -/
def SourceStore.assign (target : SourceStore) (source key value : String) : SourceStore :=
  (source, (key, value) :: (target.lookup source).getD []) :: target.filter (fun e ↦ e.1 ≠ source)

/-- `bytes.decode("ascii")`, with its exception. -/
def decodeText (bytes : List UInt8) : Except PreloadException String :=
  (decodeAscii bytes).elim (.error .unicodeDecodeError) .ok

/-- Source, key and contents of an entry of a hash. -/
def readEntry (entry : List UInt8 × List UInt8) :
    Except PreloadException (String × String × String) := do
  let name ← decodeText entry.1
  match splitOnce '_' name.toList with
  | none => throw .valueError
  | some (source, key) => return (String.ofList source, String.ofList key, ← decodeText entry.2)

/-- The iteration of `_load` for one entry. -/
def loadEntry (target : SourceStore) (entry : List UInt8 × List UInt8) :
    Except PreloadException SourceStore :=
  if entry.1 = sentinelHashCreated then .ok target
  else (readEntry entry).map (fun (source, key, value) ↦ target.assign source key value)

/-- `_load`, `irrd/storage/preload.py:210–217`. -/
def loadStore (hash : RedisHash) : Except PreloadException SourceStore :=
  (hash.entries.map (fun entry ↦ (entry.1, entry.2))).foldlM loadEntry []

/-- `_load_preload_data_into_memory`, `irrd/storage/preload.py:194–230`. -/
def loadPreloadDataIntoMemory (stores : RedisStores) : Except PreloadException Preloader := do
  return ⟨← loadStore stores.originRoute4, ← loadStore stores.originRoute6,
    ← loadStore stores.asSet, ← loadStore stores.routeSet⟩

end Redis

end Irrd.Storage
