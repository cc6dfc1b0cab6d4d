import Fanout.Generation.Basic

/-!
# Contributions

What a capability adds to the module of the target it is applied to, as data.
A capability of the catalog is a list of contributions.
-/

namespace Fanout

/-- **Contribution to a module.** -/
inductive Contribution where
  /-- A value at a dotted path of a configuration, for one environment or for
  all. -/
  | setting (kind : ConfigurationKind) (environment? : Option String) (path : String)
    (value : Setting)
  | dependency (d : Dependency)
  | property (key value : String)
  | plugin (p : Plugin)
  | template (key : String) (t : Template)

namespace Contribution

variable {ε : Type}

/-- **Makes a contribution to the module of a target.** -/
def make (t : Target) (g : Generation ε) : Contribution → Generation ε × Except Fault Unit
  | setting kind environment? path value => (g.configure t kind environment? path value, .ok ())
  | dependency d => g.addDependency t d
  | property key value => (g.putProperty t key value, .ok ())
  | plugin p => g.addPlugin t p
  | template key file => ((g.addTemplate t key file).1, .ok ())

/-- Makes contributions one after the other, up to the first that fails. -/
def makeAll (t : Target) : List Contribution → Generation ε → Generation ε × Option Fault
  | [], g => (g, none)
  | c :: rest, g =>
    match c.make t g with
    | (g, .ok ()) => makeAll t rest g
    | (g, .error fault) => (g, some fault)

@[simp] theorem makeAll_nil (t : Target) (g : Generation ε) : makeAll t [] g = (g, none) := rfl

end Contribution

end Fanout
