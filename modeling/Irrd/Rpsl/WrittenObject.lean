import Irrd.Rpsl.Parser
import Irrd.Rpsl.RPSLObject

/-!
# Written objects

A parsed object, by what the database handler reads from it. Source: `irrd/rpsl/parser.py`.
-/

namespace Irrd.Rpsl

open Irrd.Storage Irrd.Utils

/-- The settings of sources that rendering reads, and the text of a time of last modification. -/
structure RenderSettings where
  authoritative : String → Bool
  authoritativeRetainLastModified : String → Bool
  lastModified : Nat → List Char

/-- A value of `parsed_data` as it is stored. -/
def ParsedValue.stored : ParsedValue → List String
  | .text value => [display value]
  | .list values => values.map display

/-- A parsed object, by what writing it reads. -/
def writtenObject (r : RenderSettings) (obj : ParsedObject) : RPSLObject :=
  let source := display (obj.source.getD [])
  { rpslObjectClass := obj.rpslObjectClass
    pk := display obj.pk
    source := source
    parsedData := obj.parsedData.map (fun (attr, value) ↦ (display attr, value.stored))
    renderRpslText := fun now ↦ display (obj.renderRpslTextModified (r.authoritative source)
      (r.authoritativeRetainLastModified source) (r.lastModified now))
    ipVersion := obj.resources.ipFirst.map IP.version
    ipFirst := obj.resources.ipFirst
    ipLast := obj.resources.ipLast
    ipPrefix := obj.resources.ipPrefix
    prefixLength := obj.resources.prefixLength
    asnFirst := obj.resources.asnFirst
    asnLast := obj.resources.asnLast
    rpkiStatus := .notFound
    scopefilterStatus := .inScope
    routePreferenceStatus := .visible }

end Irrd.Rpsl
