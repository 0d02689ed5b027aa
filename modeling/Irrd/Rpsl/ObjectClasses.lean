import Irrd.Rpsl.Fields
import Irrd.Rpsl.RPSLObject

/-!
# Object classes

The fields of every object class, in the order of the source, and what the parser derives
from them. Source: `irrd/rpsl/rpsl_objects.py`.
-/

namespace Irrd.Rpsl

/-- The kinds of fields, with the arguments that their constructors take. -/
inductive FieldKind
  | text
  | ipv4Prefix
  | ipv4Prefixes
  | ipv6Prefix
  | ipv6Prefixes
  | ipv4AddressRange
  | routeSetMembers (ipVersion : Nat)
  | asNumber
  | asBlock
  | setName (setPrefix : String)
  | email
  | changed
  | dnsName
  | url
  | genericName (allowedPrefixes : List String) (nonStrictAllowAny : Bool)
  | reference (referring : List String)
  | referenceList (referring : List String) (allowKwAny strong : Bool)
  | auth
  deriving DecidableEq

/-- `keep_case`. -/
def FieldKind.keepCase : FieldKind → Bool
  | .setName _ | .dnsName | .url | .genericName .. | .reference _ | .referenceList .. => false
  | _ => true

/-- The classes that a field refers to. -/
def FieldKind.referring : FieldKind → List String
  | .reference referring => referring
  | .referenceList referring .. => referring
  | _ => []

/-- Whether a field refers to other objects that have to exist. -/
def FieldKind.strong : FieldKind → Bool
  | .reference _ => true
  | .referenceList _ _ strong => strong
  | _ => false

/-- A field of an object class. -/
structure RPSLField where
  name : String
  kind : FieldKind
  optional : Bool
  multiple : Bool
  primaryKey : Bool
  lookupKey : Bool
  deriving DecidableEq

/-- A mandatory field with a single value that is no key. -/
def field (name : String) (kind : FieldKind) : RPSLField := ⟨name, kind, false, false, false, false⟩

namespace RPSLField

/-- `optional=True`. -/
def opt (f : RPSLField) : RPSLField := { f with optional := true }

/-- `multiple=True`. -/
def many (f : RPSLField) : RPSLField := { f with multiple := true }

/-- `primary_key=True`. -/
def primary (f : RPSLField) : RPSLField := { f with primaryKey := true }

/-- `lookup_key=True`. -/
def lookup (f : RPSLField) : RPSLField := { f with lookupKey := true }

/-- Whether a field is indexed. -/
def isKey (f : RPSLField) : Bool := f.primaryKey || f.lookupKey

end RPSLField

/-- An object class: its fields, and the attributes whose values parsing discards. -/
structure RPSLObjectClass where
  fields : List RPSLField
  discardedFields : List String

namespace RPSLObjectClass

variable (c : RPSLObjectClass)

/-- `rpsl_object_class`: the name of the first field. -/
def rpslObjectClass : String := (c.fields.head?.map RPSLField.name).getD ""

/-- `pk_fields`. -/
def pkFields : List String := (c.fields.filter RPSLField.primaryKey).map RPSLField.name

/-- `attrs_allowed`. -/
def attrsAllowed : List String := c.fields.map RPSLField.name

/-- `attrs_required`. -/
def attrsRequired : List String := (c.fields.filter (fun f ↦ !f.optional)).map RPSLField.name

/-- `attrs_multiple`. -/
def attrsMultiple : List String := (c.fields.filter RPSLField.multiple).map RPSLField.name

/-- `referring_strong_fields`. -/
def referringStrongFields : List (String × List String) :=
  (c.fields.filter (fun f ↦ f.kind.strong)).map (fun f ↦ (f.name, f.kind.referring))

/-- The field of an attribute. -/
def field? (attr : List Char) : Option RPSLField := c.fields.find? (fun f ↦ f.name.toList = attr)

end RPSLObjectClass

section Fields

/-- Optional text. -/
def optionalText (name : String) : RPSLField := (field name .text).many.opt

/-- Contacts, persons or roles. -/
def contact (name : String) : RPSLField :=
  (field name (.reference ["role", "person"])).lookup.many

/-- A list of references that need not exist. -/
def weakReferences (name : String) (referring : List String) : RPSLField :=
  (field name (.referenceList referring false false)).lookup.opt.many

/-- `mbrs-by-ref`. -/
def mbrsByRef : RPSLField :=
  (field "mbrs-by-ref" (.referenceList ["mntner"] true false)).lookup.opt.many

/-- `mnt-by`. -/
def mntBy : RPSLField := (field "mnt-by" (.referenceList ["mntner"] false true)).lookup.many

/-- `remarks`. -/
def remarks : RPSLField := optionalText "remarks"

/-- `notify`. -/
def notify : RPSLField := (field "notify" .email).opt.many

/-- `changed`. -/
def changed : RPSLField := (field "changed" .changed).opt.many

/-- `source`. -/
def source : RPSLField := field "source" (.genericName [] false)

end Fields

section Classes

def rpslAsBlock : RPSLObjectClass where
  fields := [
    (field "as-block" .asBlock).primary.lookup,
    optionalText "descr",
    contact "admin-c",
    contact "tech-c",
    remarks, notify, mntBy, changed, source]
  discardedFields := []

def rpslAsSet : RPSLObjectClass where
  fields := [
    (field "as-set" (.setName "AS")).primary.lookup,
    optionalText "descr",
    weakReferences "members" ["aut-num", "as-set"],
    mbrsByRef,
    (contact "admin-c").opt,
    (contact "tech-c").opt,
    remarks, notify, mntBy, changed, source]
  discardedFields := []

def rpslAutNum : RPSLObjectClass where
  fields := [
    (field "aut-num" .asNumber).primary.lookup,
    field "as-name" (.genericName ["AS-"] false),
    optionalText "descr",
    weakReferences "member-of" ["as-set"],
    optionalText "import",
    optionalText "mp-import",
    optionalText "import-via",
    optionalText "export",
    optionalText "mp-export",
    optionalText "export-via",
    optionalText "default",
    optionalText "mp-default",
    contact "admin-c",
    contact "tech-c",
    remarks, notify, mntBy.opt, changed, source]
  discardedFields := []

def rpslDomain : RPSLObjectClass where
  fields := [
    (field "domain" .text).primary.lookup,
    optionalText "descr",
    contact "admin-c",
    contact "tech-c",
    contact "zone-c",
    optionalText "nserver",
    optionalText "sub-dom",
    optionalText "dom-net",
    (field "refer" .text).opt,
    remarks, notify, mntBy.opt, changed, source]
  discardedFields := []

def rpslFilterSet : RPSLObjectClass where
  fields := [
    (field "filter-set" (.setName "FLTR")).primary.lookup,
    optionalText "descr",
    field "filter" .text,
    (field "mp-filter" .text).opt,
    (contact "admin-c").opt,
    (contact "tech-c").opt,
    remarks, notify, mntBy, changed, source]
  discardedFields := []

def rpslInetRtr : RPSLObjectClass where
  fields := [
    (field "inet-rtr" .dnsName).primary.lookup,
    optionalText "descr",
    (field "alias" .dnsName).opt.many,
    field "local-as" .asNumber,
    optionalText "ifaddr",
    optionalText "interface",
    optionalText "peer",
    optionalText "mp-peer",
    weakReferences "member-of" ["rtr-set"],
    (field "rs-in" .text).opt,
    (field "rs-out" .text).opt,
    (contact "admin-c").opt,
    (contact "tech-c").opt,
    remarks, notify, mntBy, changed, source]
  discardedFields := []

/-- The fields of inetnum and inet6num after the first. -/
def inetnumFields : List RPSLField := [
  field "netname" .text,
  optionalText "descr",
  (field "country" .text).many,
  contact "admin-c",
  contact "tech-c",
  optionalText "rev-srv",
  field "status" .text,
  (field "geofeed" .url).opt,
  remarks, notify, mntBy, changed, source]

def rpslInet6Num : RPSLObjectClass where
  fields := (field "inet6num" .ipv6Prefix).primary.lookup :: inetnumFields
  discardedFields := []

def rpslInetnum : RPSLObjectClass where
  fields := (field "inetnum" .ipv4AddressRange).primary.lookup :: inetnumFields
  discardedFields := []

def rpslIrt : RPSLObjectClass where
  fields := [
    (field "irt" (.genericName [] false)).primary.lookup,
    (field "address" .text).many,
    optionalText "phone",
    optionalText "fax-no",
    (field "e-mail" .email).many,
    (field "abuse-mailbox" .email).many,
    (contact "admin-c").opt,
    (contact "tech-c").opt,
    remarks, notify, mntBy, changed, source]
  discardedFields := []

def rpslKeyCert : RPSLObjectClass where
  fields := [
    (field "key-cert" (.genericName [] false)).primary.lookup,
    (field "method" .text).opt,
    (field "owner" .text).opt.many,
    (field "fingerpr" .text).opt,
    (field "certif" .text).many,
    remarks,
    (contact "admin-c").opt,
    (contact "tech-c").opt,
    notify, mntBy, changed, source]
  discardedFields := []

def rpslMntner : RPSLObjectClass where
  fields := [
    (field "mntner" (.genericName [] false)).primary.lookup,
    optionalText "descr",
    contact "admin-c",
    (contact "tech-c").opt,
    (field "upd-to" .email).many,
    (field "mnt-nfy" .email).opt.many,
    (field "auth" .auth).many,
    remarks, notify, mntBy, changed, source]
  discardedFields := []

def rpslOrganisation : RPSLObjectClass where
  fields := [
    (field "organisation" (.genericName [] false)).primary.lookup,
    field "org-name" .text,
    (field "country" .text).many,
    (field "address" .text).many,
    optionalText "phone",
    optionalText "fax-no",
    (field "e-mail" .email).many,
    (contact "admin-c").opt,
    (contact "tech-c").opt,
    remarks, notify, mntBy, changed, source]
  discardedFields := []

def rpslPeeringSet : RPSLObjectClass where
  fields := [
    (field "peering-set" (.setName "PRNG")).primary.lookup,
    optionalText "descr",
    optionalText "peering",
    optionalText "mp-peering",
    (contact "admin-c").opt,
    (contact "tech-c").opt,
    remarks, notify, mntBy, changed, source]
  discardedFields := []

/-- The key of a person or role. -/
def nicHdl : RPSLField := (field "nic-hdl" (.genericName [] true)).primary.lookup

def rpslPerson : RPSLObjectClass where
  fields := [
    (field "person" .text).lookup,
    (field "address" .text).many,
    (field "phone" .text).many,
    optionalText "fax-no",
    (field "e-mail" .email).many,
    nicHdl,
    remarks, notify, mntBy, changed, source]
  discardedFields := []

def rpslRole : RPSLObjectClass where
  fields := [
    (field "role" .text).lookup,
    optionalText "trouble",
    (field "address" .text).many,
    (field "phone" .text).many,
    optionalText "fax-no",
    (field "e-mail" .email).many,
    (contact "admin-c").opt,
    (contact "tech-c").opt,
    nicHdl,
    remarks, notify, mntBy, changed, source]
  discardedFields := []

/-- The fields of route and route6 after the first, by the kind of a list of prefixes. -/
def routeFields (prefixes : FieldKind) : List RPSLField := [
  optionalText "descr",
  (field "origin" .asNumber).primary,
  (field "holes" prefixes).opt.many,
  weakReferences "member-of" ["route-set"],
  optionalText "inject",
  (field "aggr-bndry" .text).opt,
  (field "aggr-mtd" .text).opt,
  (field "export-comps" .text).opt,
  (field "components" .text).opt,
  (contact "admin-c").opt,
  (contact "tech-c").opt,
  optionalText "geoidx",
  (field "roa-uri" .text).opt,
  remarks, notify, mntBy, changed, source]

def rpslRoute : RPSLObjectClass where
  fields := (field "route" .ipv4Prefix).primary.lookup :: routeFields .ipv4Prefixes
  discardedFields := ["rpki-ov-state"]

def rpslRouteSet : RPSLObjectClass where
  fields := [
    (field "route-set" (.setName "RS")).primary.lookup,
    (field "members" (.routeSetMembers 4)).lookup.opt.many,
    (field "mp-members" (.routeSetMembers 0)).lookup.opt.many,
    mbrsByRef,
    optionalText "descr",
    (contact "admin-c").opt,
    (contact "tech-c").opt,
    remarks, notify, mntBy, changed, source]
  discardedFields := []

def rpslRoute6 : RPSLObjectClass where
  fields := (field "route6" .ipv6Prefix).primary.lookup :: routeFields .ipv6Prefixes
  discardedFields := ["rpki-ov-state"]

def rpslRtrSet : RPSLObjectClass where
  fields := [
    (field "rtr-set" (.setName "RTRS")).primary.lookup,
    optionalText "descr",
    weakReferences "members" ["inet-rtr", "rtr-set"],
    weakReferences "mp-members" ["inet-rtr", "rtr-set"],
    mbrsByRef,
    (contact "admin-c").opt,
    (contact "tech-c").opt,
    remarks, notify, mntBy, changed, source]
  discardedFields := []

end Classes

/-- The classes of `OBJECT_CLASS_MAPPING`, in its order. -/
def objectClasses : List RPSLObjectClass :=
  [rpslAsBlock, rpslAsSet, rpslAutNum, rpslDomain, rpslFilterSet, rpslInetRtr, rpslInet6Num,
    rpslInetnum, rpslIrt, rpslKeyCert, rpslMntner, rpslOrganisation, rpslPeeringSet, rpslPerson,
    rpslRole, rpslRoute, rpslRouteSet, rpslRoute6, rpslRtrSet]

/-- The class of a name. -/
def findClass (name : List Char) : Option RPSLObjectClass :=
  objectClasses.find? (fun c ↦ c.rpslObjectClass.toList = name)

/-- The field that identifies objects of a class, `irrd/rpsl/fields.py:604–613`. -/
def identifierField (name : String) : Option RPSLField :=
  ((objectClasses.find? (fun c ↦ c.rpslObjectClass = name)).map RPSLObjectClass.fields).bind
    (fun fields ↦ fields.find? (fun f ↦ f.primaryKey && f.lookupKey))

/-- The mapping has every class under the name of its first field. -/
theorem map_rpslObjectClass_objectClasses :
    objectClasses.map RPSLObjectClass.rpslObjectClass = objectClassMapping := rfl

end Irrd.Rpsl
