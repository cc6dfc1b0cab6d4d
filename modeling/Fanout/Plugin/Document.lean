import Fanout.Plugin.Registry
import Fanout.Toml.Decode

/-!
# Registry documents

A registry of plugin coordinates can be kept in a file: a version, a table of
coordinates by plugin key, and version rules in order.
-/

namespace Fanout.Registry

open Toml

/-- The contents of a document; what is missing shows only at the end. -/
structure Document where
  version? : Option Nat := none
  plugins : SortedMap String String := .empty
  rules : List VersionRule := []

/-- The fields of a version rule as far as they have been read. -/
structure PartialRule where
  start? : Option String := none
  old? : Option String := none
  new? : Option String := none

/-- A version rule, which has to have all its fields. -/
def decodeRule : Decoder VersionRule := fun item => do
  let rule ← record ["prefix", "from", "to"] (fun rule field item =>
    match field with
    | "prefix" => return { rule with start? := some (← asString item) }
    | "from" => return { rule with old? := some (← asString item) }
    | "to" => return { rule with new? := some (← asString item) }
    | _ => .ok rule) ({} : PartialRule) item
  match rule.start?, rule.old?, rule.new? with
  | some start, some old, some new => return ⟨start, old, new⟩
  | _, _, _ => throw item.line

/-- The contents of a document. -/
def decodeDocument : Decoder Document :=
  record ["version", "plugins", "rewrite"] (fun document field item =>
    match field with
    | "version" => return { document with version? := some (← asNatBelow 0x100000000 item) }
    | "plugins" => return { document with plugins := ← asMap asString item }
    | "rewrite" => return { document with rules := ← asList decodeRule item }
    | _ => .ok document) {}

/-- The version of a document and its registry. -/
def decode : Decoder (Nat × Registry) := fun item => do
  let document ← decodeDocument item
  match document.version? with
  | some version => return (version, ⟨document.plugins, document.rules⟩)
  | none => throw item.line

/-- **Reads a registry document**, whose version has to be the known one. -/
def parse (text : String) : Except Fault Registry := do
  let (version, registry) ← Toml.decode decode text
  if version = documentVersion then return registry
  else throw (.unsupportedRegistryVersion version)

end Fanout.Registry
