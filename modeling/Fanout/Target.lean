import Fanout.SortedMap
import Fanout.Fault
import Fanout.Text

/-!
# Targets and modules

A run fans one application out over deployment targets.  Each concrete target
gets an output module of its own; what they share goes into a library module.

## Main definitions

* `Target` — the four clouds in the order of their identifiers, then `shared`.
* `Module` — where a file can be placed.
* `Target.module` — the module a target writes into.

## Design notes

`Module.target shared` is a second spelling of `Module.lib`.  It has the same
name, and `Module.canonical` replaces it, so a template never carries it.
-/

namespace Fanout

/-! ## Targets -/

/-- **Deployment target**, or the scope of the shared library. -/
inductive Target where
  | aws
  | azure
  | gcp
  | oci
  /-- The library that all targets use. -/
  | shared
deriving DecidableEq, Repr

namespace Target

/-- Every concrete target, in target order. -/
def clouds : List Target := [aws, azure, gcp, oci]

/-- Every target, in target order. -/
def all : List Target := clouds ++ [shared]

/-- Whether this is the scope of the shared library. -/
def isShared : Target → Bool
  | shared => true
  | _ => false

/-- The place in target order: by identifier, the shared scope last. -/
def rank : Target → Nat
  | aws => 0
  | azure => 1
  | gcp => 2
  | oci => 3
  | shared => 4

/-- The name in upper-case letters. -/
def identifier : Target → String
  | aws => "AWS"
  | azure => "AZURE"
  | gcp => "GCP"
  | oci => "OCI"
  | shared => "SHARED"

/-- The runtime environment that the target's application starts in. -/
def environmentName? : Target → Option String
  | aws => some "ec2"
  | azure => some "azure"
  | gcp => some "gcp"
  | oci => some "oraclecloud"
  | shared => none

/-- Reads a target's name in any case; the shared scope has three names. -/
def parse (name : String) : Except Fault Target :=
  match Text.upper name with
  | "AWS" => .ok aws
  | "AZURE" => .ok azure
  | "GCP" => .ok gcp
  | "OCI" => .ok oci
  | "SHARED" | "NONE" | "LIB" => .ok shared
  | _ => .error (.unknownTarget name)

instance : Ord Target where
  compare a b := compare a.rank b.rank

theorem isShared_iff {t : Target} : t.isShared = true ↔ t = .shared := by
  cases t <;> simp [isShared]

theorem mem_clouds {t : Target} : t ∈ clouds ↔ t ≠ .shared := by
  cases t <;> decide

instance : Std.TransOrd Target where
  eq_swap := by
    intro a b
    show compare a.rank b.rank = (compare b.rank a.rank).swap
    exact Std.OrientedCmp.eq_swap
  isLE_trans := by
    intro a b c
    show (compare a.rank b.rank).isLE → (compare b.rank c.rank).isLE →
      (compare a.rank c.rank).isLE
    exact Std.TransCmp.isLE_trans

instance : Std.LawfulEqOrd Target where
  compare_self := by
    intro a
    show compare a.rank a.rank = .eq
    exact Std.ReflCmp.compare_self
  eq_of_compare := by
    intro a b h
    have h : compare a.rank b.rank = .eq := h
    have hrank := Std.LawfulEqCmp.eq_of_compare h
    -- no two targets have one rank
    cases a <;> cases b <;> first | rfl | cases hrank

end Target

/-! ## Modules -/

/-- **Output module** a file is written into. -/
inductive Module where
  /-- The aggregate project around the modules. -/
  | root
  /-- The place of a file whose author does not know its module. -/
  | default
  /-- The shared library. -/
  | lib
  /-- The application of a single-module layout. -/
  | app
  /-- The module of a target. -/
  | target (t : Target)
deriving DecidableEq, Repr

namespace Module

/-- The name of the module's directory. -/
def name : Module → String
  | root => "root"
  | default => "default"
  | lib => "lib"
  | app => "app"
  | target .aws => "aws"
  | target .azure => "azure"
  | target .gcp => "gcp"
  | target .oci => "oci"
  | target .shared => "lib"

/-- The module in its only spelling: the module of the shared scope is `lib`. -/
def canonical : Module → Module
  | target .shared => lib
  | m => m

/-- Whether this is the shared library or a place that stands for it. -/
def isSharedOrDefault : Module → Bool
  | lib | app | default | target .shared => true
  | _ => false

@[simp] theorem canonical_canonical (m : Module) : m.canonical.canonical = m.canonical := by
  rcases m with _ | _ | _ | _ | t
  case target => cases t <;> rfl
  all_goals rfl

/-- Names tell canonical modules apart. -/
theorem canonical_eq_of_name_eq {m n : Module} (h : m.name = n.name) :
    m.canonical = n.canonical := by
  rcases m with _ | _ | _ | _ | t <;> rcases n with _ | _ | _ | _ | u <;>
    (try cases t) <;> (try cases u) <;> first | rfl | (exact absurd h (by decide))

end Module

namespace Target

/-- The module the target writes into. -/
def module : Target → Module
  | shared => .lib
  | cloud => .target cloud

/-- The name of the module the target writes into. -/
def moduleName (t : Target) : String := t.module.name

@[simp] theorem canonical_module (t : Target) : t.module.canonical = t.module := by
  cases t <;> rfl

/-- Only the shared scope writes into the library. -/
theorem module_eq_lib_iff {t : Target} : t.module = .lib ↔ t = .shared := by
  cases t <;> decide

theorem module_ne_default (t : Target) : t.module ≠ .default := by
  cases t <;> decide

end Target

end Fanout
