import Irrd.Storage.Models

/-!
# RPSL objects

A parsed and validated RPSL object, by what the rest of IRRd reads from it. Source:
`irrd/rpsl/parser.py`, `irrd/rpsl/rpsl_objects.py`.
-/

namespace Irrd.Rpsl

open Irrd.Storage Irrd.Utils

/-- The object classes, `irrd/rpsl/rpsl_objects.py:812–832`. -/
def objectClassMapping : List String :=
  ["as-block", "as-set", "aut-num", "domain", "filter-set", "inet-rtr", "inet6num", "inetnum",
    "irt", "key-cert", "mntner", "organisation", "peering-set", "person", "role", "route",
    "route-set", "route6", "rtr-set"]

/-- `irrd/rpsl/rpsl_objects.py:40`. -/
def protectedNameObjectClasses : List String := ["person", "role", "mntner"]

/-- The classes with `is_route`, `irrd/rpsl/rpsl_objects.py:834–836`. -/
def rpkiRelevantObjectClasses : List String := ["route", "route6"]

/-- `RPSLObject`: its class, primary key and parsed attributes, the text it renders to for a
time of last modification, the addresses and AS numbers it covers, and its statuses. -/
structure RPSLObject where
  rpslObjectClass : String
  pk : String
  source : String
  parsedData : List (String × List String)
  renderRpslText : Nat → String
  ipVersion : Option Nat
  ipFirst : Option IP
  ipLast : Option IP
  ipPrefix : Option IP
  prefixLength : Option Nat
  asnFirst : Option Nat
  asnLast : Option Nat
  rpkiStatus : RPKIStatus
  scopefilterStatus : ScopeFilterStatus
  routePreferenceStatus : RoutePreferenceStatus

/-- `is_route`. -/
def RPSLObject.isRoute (o : RPSLObject) : Bool := o.rpslObjectClass ∈ rpkiRelevantObjectClasses

/-- The object with the statuses it has after parsing, `irrd/rpsl/parser.py:83–85`. -/
def RPSLObject.asParsed (o : RPSLObject) : RPSLObject :=
  { o with
    rpkiStatus := .notFound
    scopefilterStatus := .inScope
    routePreferenceStatus := .visible }

end Irrd.Rpsl
