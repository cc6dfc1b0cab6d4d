import Fanout.Plugin.Basic

/-!
# Propagation of plugins

A plugin added under a concrete target is also applied in the shared module,
unless the propagation policy keeps it out.

## Main definitions

* `PropagationPolicy` — a behaviour for all plugins, and the identifiers that
  are excluded from it or included in spite of it.
* `PropagationPolicy.exclude`, `PropagationPolicy.allow` — the last word on an
  identifier counts.
-/

namespace Fanout

/-- What happens to a plugin that a policy does not name. -/
inductive PropagationBehaviour where
  | propagate
  | exclude
deriving DecidableEq, Repr, Inhabited

/-- Why a plugin stays out of the shared module. -/
inductive ExclusionReason where
  /-- It means something for one target's runtime only. -/
  | targetSpecific
  /-- The shared module applies it already. -/
  | alreadyShared
deriving DecidableEq, Repr, Inhabited

/-- **Propagation policy.** -/
structure PropagationPolicy where
  behaviour : PropagationBehaviour
  exclusions : SortedMap String ExclusionReason
  inclusions : SortedSet String

namespace PropagationPolicy

/-- The policy that names no plugin. -/
def ofBehaviour (behaviour : PropagationBehaviour) : PropagationPolicy :=
  ⟨behaviour, .empty, .empty⟩

/-- Keeps the plugins of an identifier out of the shared module. -/
def exclude (p : PropagationPolicy) (identifier : String) (reason : ExclusionReason) :
    PropagationPolicy :=
  { p with
    exclusions := p.exclusions.insert identifier reason
    inclusions := p.inclusions.erase identifier }

/-- Propagates the plugins of an identifier. -/
def allow (p : PropagationPolicy) (identifier : String) : PropagationPolicy :=
  { p with
    exclusions := p.exclusions.erase identifier
    inclusions := p.inclusions.insert identifier }

/-- The policy of a run that sets none. -/
def standard : PropagationPolicy :=
  ofBehaviour .propagate
    |>.exclude Plugin.azureFunctionsId .targetSpecific
    |>.exclude Plugin.azureFunctionsArtifact .targetSpecific
    |>.exclude Plugin.shadowId .alreadyShared
    |>.exclude Plugin.applicationId .alreadyShared
    |>.exclude Plugin.libraryId .alreadyShared

instance : Inhabited PropagationPolicy := ⟨standard⟩

/-- Why the policy keeps a plugin out, if it does so by name. -/
def exclusion? (p : PropagationPolicy) (plugin : Plugin) : Option ExclusionReason :=
  p.exclusions.find? plugin.identifier

/-- **Whether a plugin of a concrete target is also applied in the shared
module.** -/
def propagates (p : PropagationPolicy) (plugin : Plugin) : Bool :=
  if p.exclusions.contains plugin.identifier then false
  else if p.inclusions.contains plugin.identifier then true
  else p.behaviour = .propagate

end PropagationPolicy

end Fanout
