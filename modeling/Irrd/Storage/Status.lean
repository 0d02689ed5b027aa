import Mathlib.Order.Basic

/-!
# Object statuses and visibility

An object is visible when none of the three independent suppression mechanisms hides
it. Sources: `irrd/rpki/status.py`, `irrd/scopefilter/status.py`,
`irrd/routepref/status.py`.
-/

namespace Irrd.Storage

/-- `irrd/rpki/status.py:5–8`. -/
inductive RPKIStatus
  | valid
  | invalid
  | notFound
  deriving DecidableEq

/-- `irrd/rpki/status.py:10–12`. -/
def RPKIStatus.isVisible : RPKIStatus → Bool
  | .valid => true
  | .invalid => false
  | .notFound => true

/-- `irrd/scopefilter/status.py:5–8`. -/
inductive ScopeFilterStatus
  | inScope
  | outScopeAs
  | outScopePrefix
  deriving DecidableEq

/-- `irrd/scopefilter/status.py:10–12`. -/
def ScopeFilterStatus.isVisible : ScopeFilterStatus → Bool
  | .inScope => true
  | .outScopeAs => false
  | .outScopePrefix => false

/-- `irrd/routepref/status.py:5–7`. -/
inductive RoutePreferenceStatus
  | visible
  | suppressed
  deriving DecidableEq

/-- `irrd/routepref/status.py:9–11`. -/
def RoutePreferenceStatus.isVisible : RoutePreferenceStatus → Bool
  | .visible => true
  | .suppressed => false

/-- `object_is_visible`, `irrd/storage/database_handler.py:64–75`. -/
def objectIsVisible (rpkiStatus : RPKIStatus) (scopefilterStatus : ScopeFilterStatus)
    (routePreferenceStatus : RoutePreferenceStatus) : Bool :=
  rpkiStatus.isVisible && scopefilterStatus.isVisible && routePreferenceStatus.isVisible

end Irrd.Storage
