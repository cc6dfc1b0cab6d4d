import Fanout.Generation.Basic

/-!
# Applying capabilities

Each active target has its capabilities applied to it, the concrete targets in
target order and the shared scope last.  The first failure stops the run.

## Main definitions

* `Behaviour ε ρ` — what applying a capability does to the state, with a report
  of type `ρ`.
* `Generation.apply` — the whole run, with a log of what was applied.

## Design notes

Targets and their capabilities are those of the partition that the run starts
with.  Whatever happens, the shared scope is the current one afterwards.
-/

namespace Fanout

/-- **What applying a capability to a target does**: the new state, a report,
and perhaps a failure. -/
abbrev Behaviour (ε ρ : Type) :=
  Capability ε → Target → Generation ε → Generation ε × ρ × Option Fault

/-- Entry of the log: a capability was applied to a target. -/
structure Applied (ρ : Type) where
  capability : String
  target : Target
  report : ρ

/-- **Run of some capabilities**: the state afterwards, the log, and the failure
that stopped it. -/
structure Run (ε ρ : Type) where
  state : Generation ε
  log : List (Applied ρ)
  fault? : Option Fault

namespace Run

variable {ε ρ : Type}

/-- The run of nothing. -/
def nothing (g : Generation ε) : Run ε ρ := ⟨g, [], none⟩

/-- Goes on with another run, unless this one was stopped. -/
def andThen (r : Run ε ρ) (next : Generation ε → Run ε ρ) : Run ε ρ :=
  match r.fault? with
  | some _ => r
  | none =>
    let rest := next r.state
    ⟨rest.state, r.log ++ rest.log, rest.fault?⟩

/-- Applies one capability to a target, which is opened first. -/
def one (behave : Behaviour ε ρ) (t : Target) (c : Capability ε) (g : Generation ε) : Run ε ρ :=
  let result := behave c t (g.openTarget t)
  ⟨result.1, [⟨c.name, t, result.2.1⟩], result.2.2⟩

/-- Applies capabilities to a target, one after the other. -/
def each (behave : Behaviour ε ρ) (t : Target) : List (Capability ε) → Generation ε → Run ε ρ
  | [], g => nothing g
  | c :: rest, g => (one behave t c g).andThen (each behave t rest)

/-- Applies the capabilities of each target, one target after the other. -/
def targets (behave : Behaviour ε ρ) (p : Partition ε) : List Target → Generation ε → Run ε ρ
  | [], g => nothing g
  | t :: rest, g =>
    (each behave t ((p.subset? t).getD .empty).ordered (g.setScope t)).andThen
      (targets behave p rest)

@[simp] theorem each_nil (behave : Behaviour ε ρ) (t : Target) (g : Generation ε) :
    each behave t [] g = nothing g := rfl

@[simp] theorem targets_nil (behave : Behaviour ε ρ) (p : Partition ε) (g : Generation ε) :
    targets behave p [] g = nothing g := rfl

end Run

namespace Generation

variable {ε ρ : Type}

/-- In a function build the shared scope sees only its own capabilities once
they are applied. -/
def hideTargetFeatures (g : Generation ε) : Generation ε :=
  if g.options.applicationType = .function then { g with hidesTargetFeatures := true } else g

/-- **Applies the capabilities of every active target.** -/
def apply (behave : Behaviour ε ρ) (g : Generation ε) : Run ε ρ :=
  let run := Run.targets behave g.partition g.partition.activeTargets g.hideTargetFeatures
  { run with state := run.state.resetScope }

end Generation

end Fanout
