import Mathlib.Data.List.Basic

/-!
# Settings

The settings that the database handler and the route preference validator read, as
`get_setting` returns them. Source: `irrd/conf/__init__.py`, `docs/admins/configuration.rst`.
-/

namespace Irrd.Conf

/-- Settings of one source, `sources.SOURCE.*`. -/
structure SourceSettings where
  keepJournal : Bool
  scopefilterExcluded : Bool
  rpkiExcluded : Bool
  routeObjectPreference : Option Nat
  nrtmHost : Option String
  deriving DecidableEq

/-- A source without any of these settings. -/
def SourceSettings.unset : SourceSettings := ⟨false, false, false, none, none⟩

/-- The configuration: whether there is a scope filter, where ROAs come from, and the sources
in order. -/
structure Settings where
  scopefilter : Bool
  roaSource : Option String
  sources : List (String × SourceSettings)
  deriving DecidableEq

/-- The settings of a source; a missing source has none. -/
def Settings.source (s : Settings) (source : String) : SourceSettings :=
  (s.sources.lookup source).getD .unset

/-- A string setting counts as set when it is present and not empty. -/
def isSet (value : Option String) : Bool := value.any (· ≠ "")

/-- Whether a source keeps a journal. -/
def Settings.keepJournal (s : Settings) (source : String) : Bool := (s.source source).keepJournal

/-- Whether the settings of a source permit serials from its NRTM source,
`irrd/storage/database_handler.py:1356–1363`. -/
def Settings.permitsSynchronisedSerials (s : Settings) (source : String) : Bool :=
  let own := s.source source
  (!s.scopefilter || own.scopefilterExcluded) && (!isSet s.roaSource || own.rpkiExcluded) &&
    !own.routeObjectPreference.any (· ≠ 0) && isSet own.nrtmHost

/-- The source of pseudo-IRR objects, `irrd/conf/__init__.py:26`. -/
def rpkiIrrPseudoSource : String := "RPKI"

end Irrd.Conf
