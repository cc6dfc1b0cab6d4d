import Fanout.Generation.Output
import Fanout.Proofs.Generation.Calls
import Fanout.Proofs.Template.Index

/-!
# Reachable generations

A run starts from a plan and an index that may hold templates already.  From
then on it changes by the operations that a caller and the capabilities have, in
any order and for any target.

## Main definitions

* `Generation.Operation` — one change to a run, and `Operation.perform`.
* `Generation.Reachable` — what operations make of a start.

## Main statements

* `Generation.Reachable.apply` — applying capabilities that only perform
  operations leads to a reachable run.
* `Generation.Reachable.index` — the index of a reachable run is reachable.

## Design notes

A configuration and the build properties are handed out to be changed in place,
so the operations on them take any change.
-/

namespace Fanout.Generation

variable {ε ρ : Type}

/-! ## Operations -/

/-- **One change to a run.** -/
inductive Operation where
  | setScope (t : Target)
  | resetScope
  | openTarget (t : Target)
  | hideTargetFeatures
  | configuration (t : Target) (kind : ConfigurationKind) (environment? : Option String)
    (f : Configuration → Configuration)
  | dependency (t : Target) (d : Dependency)
  | properties (t : Target) (f : BuildProperties → BuildProperties)
  | plugin (t : Target) (p : Plugin)
  | template (t : Target) (key : String) (file : Template)
  | languageTemplate (module : Module) (key path : String) (templates : LanguageTemplates)
  | testTemplate (module : Module) (key path : String) (templates : TestTemplates)
  | helperTemplate (module : Module) (key path : String) (templates : LanguageTemplates)
  | resource (t : Target) (key path location : String)
  | removeTemplate (key : String)
  | reviseKey (key : String) (f : Revision)
  | revisePattern (p : Pattern) (f : Revision)
  | registerConfigurations

/-- The run after an operation, whatever its answer. -/
def Operation.perform (g : Generation ε) : Operation → Generation ε
  | .setScope t => g.setScope t
  | .resetScope => g.resetScope
  | .openTarget t => g.openTarget t
  | .hideTargetFeatures => g.hideTargetFeatures
  | .configuration t kind environment? f => g.updateConfiguration t kind environment? f
  | .dependency t d => (g.addDependency t d).1
  | .properties t f => g.updateProperties t f
  | .plugin t p => (g.addPlugin t p).1
  | .template t key file => (g.addTemplate t key file).1
  | .languageTemplate module key path templates =>
    (g.addLanguageTemplate module key path templates).1
  | .testTemplate module key path templates => (g.addTestTemplate module key path templates).1
  | .helperTemplate module key path templates =>
    (g.addHelperTemplate module key path templates).1
  | .resource t key path location => (g.addResource t key path location).1
  | .removeTemplate key => g.removeTemplate key
  | .reviseKey key f => g.reviseKey key f
  | .revisePattern p f => g.revisePattern p f
  | .registerConfigurations => g.registerConfigurations.1

/-- **What operations make of a start.** -/
inductive Reachable : Generation ε → Prop where
  | start {plan : GenerationPlan ε} {g : Generation ε} (h : start plan = .ok g)
      {x : TemplateIndex} (hx : x.Reachable) : Reachable { g with index := x }
  | perform {g : Generation ε} (h : Reachable g) (o : Operation) : Reachable (o.perform g)

/-- The index that a plan starts with is one without templates. -/
theorem Reachable.of_start {plan : GenerationPlan ε} {g : Generation ε}
    (h : Generation.start plan = .ok g) : Reachable g := by
  obtain ⟨p, -, hg⟩ := Fault.bind_ok h
  obtain rfl := Except.ok.inj hg
  exact Reachable.start h (.empty plan.extraRules)

/-! ## Applying capabilities -/

section Apply

variable {behave : Behaviour ε ρ}

/-- **What applying the capabilities keeps**: all that opening targets, moving the
scope, hiding features and what the capabilities do keep. -/
theorem apply_preserves {P : Generation ε → Prop} (hopen : ∀ g t, P g → P (openTarget g t))
    (hscope : ∀ g t, P g → P (setScope g t))
    (hhide : ∀ g, P g → P (hideTargetFeatures g)) (hbehave : ∀ c t g, P g → P (behave c t g).1)
    {g : Generation ε} (h : P g) : P (g.apply behave).state := by
  obtain ⟨calls, hcalls⟩ := performs_apply behave g
  exact (hcalls.made.preserves hopen hscope (fun _ _ => hbehave _ _ _) (hhide g h)).1

/-- **Applying the capabilities** leads to a reachable run, if what each of them
does is reachable. -/
theorem Reachable.apply (hbehave : ∀ c t g, Reachable g → Reachable (behave c t g).1)
    {g : Generation ε} (h : Reachable g) : Reachable (g.apply behave).state :=
  apply_preserves (fun _ t hg => hg.perform (.openTarget t))
    (fun _ t hg => hg.perform (.setScope t))
    (fun _ hg => hg.perform .hideTargetFeatures) hbehave h

end Apply

/-! ## The index -/

theorem index_openTarget (g : Generation ε) (t : Target) : (g.openTarget t).index = g.index := by
  unfold openTarget
  split <;> rfl

theorem index_hideTargetFeatures (g : Generation ε) : g.hideTargetFeatures.index = g.index := by
  unfold hideTargetFeatures
  split <;> rfl

theorem index_updateConfiguration (g : Generation ε) (t : Target) (kind : ConfigurationKind)
    (environment? : Option String) (f : Configuration → Configuration) :
    (g.updateConfiguration t kind environment? f).index = g.index := by
  cases kind <;> cases environment? <;> rfl

theorem index_addDependency (g : Generation ε) (t : Target) (d : Dependency) :
    (g.addDependency t d).1.index = g.index := by
  unfold addDependency
  dsimp only
  split <;> rfl

theorem index_addPlugin (g : Generation ε) (t : Target) (p : Plugin) :
    (g.addPlugin t p).1.index = g.index := by
  unfold addPlugin
  split <;> rfl

theorem index_addModel {g : Generation ε} (h : g.index.Reachable) (module : Module)
    (key path : String) (model? : Option Model) :
    (g.addModel module key path model?).1.index.Reachable := by
  cases model? with
  | none => exact h
  | some model => exact h.insert key _

/-- What each step of a collection keeps, the collection keeps. -/
theorem collect_preserves {α : Type} {step : TemplateIndex → α → TemplateIndex × Registration}
    {P : TemplateIndex → Prop} (hstep : ∀ x a, P x → P (step x a).1) (as : List α)
    {x : TemplateIndex} (h : P x) : P (collect step as x).1 := by
  induction as generalizing x with
  | nil => exact h
  | cons a as ih => exact ih (hstep x a h)

theorem index_registerConfigurations {g : Generation ε} (h : g.index.Reachable) :
    g.registerConfigurations.1.index.Reachable :=
  collect_preserves (P := TemplateIndex.Reachable) (fun _ _ hx => hx.insert _ _) _
    (collect_preserves (P := TemplateIndex.Reachable) (fun _ _ hx => hx.register _ _ _ _) _ h)

/-- One operation. -/
theorem Operation.index_perform {g : Generation ε} (h : g.index.Reachable) (o : Operation) :
    (o.perform g).index.Reachable := by
  cases o with
  | setScope t => exact (index_openTarget g t).symm ▸ h
  | resetScope => exact h
  | openTarget t => exact (index_openTarget g t).symm ▸ h
  | hideTargetFeatures => exact (index_hideTargetFeatures g).symm ▸ h
  | configuration t kind environment? f =>
    exact (index_updateConfiguration g t kind environment? f).symm ▸ h
  | dependency t d => exact (index_addDependency g t d).symm ▸ h
  | properties t f => exact h
  | plugin t p => exact (index_addPlugin g t p).symm ▸ h
  | template t key file => exact h.register key file t g.isSingleModule
  | languageTemplate module key path templates => exact index_addModel h module key path _
  | testTemplate module key path templates => exact index_addModel h module key path _
  | helperTemplate module key path templates => exact index_addModel h module key _ _
  | resource t key path location => exact h.register key _ t g.isSingleModule
  | removeTemplate key => exact h.remove key
  | reviseKey key f => exact h.reviseKey key f
  | revisePattern p f => exact h.revisePattern p f
  | registerConfigurations => exact index_registerConfigurations h

/-- **The index of a reachable run is reachable.** -/
theorem Reachable.index {g : Generation ε} (h : Reachable g) : g.index.Reachable := by
  induction h with
  | start _ hx => exact hx
  | perform _ o ih => exact o.index_perform ih

end Fanout.Generation
