import Fanout.Proofs.Generation.Reachable
import Fanout.Proofs.Template.Routing

/-!
# Template calls of different targets

All targets of a run share one index, so a template that one target registers
can take the key of another target's template, which is then gone.  The answer
to a call says when that happens, and no call does any other harm.  Keys that
routing has marked with a target's module are safe from the templates that
routing sends to the others.

## Main definitions

* `Generation.TemplateCall` — a call that registers a template, and
  `TemplateCall.perform`, the call on behalf of a target.

## Main statements

* `Generation.TemplateCall.perform_describes` — the answer to a call says what
  became of the index.
* `Generation.stored_after_call` — which templates survive a call.
-/

namespace Fanout.Generation

variable {ε : Type} {g : Generation ε} {u : Target}

/-! ## Calls -/

/-- **Call that registers a template.** -/
inductive TemplateCall where
  | template (key : String) (file : Template)
  | language (key path : String) (templates : LanguageTemplates)
  | test (key path : String) (templates : TestTemplates)
  | helper (key path : String) (templates : LanguageTemplates)
  | resource (key path location : String)

namespace TemplateCall

/-- The call on a run in which its target is open. -/
def answer (u : Target) (g : Generation ε) : TemplateCall → Generation ε × Registration
  | template key file => g.addTemplate u key file
  | language key path templates => g.addLanguageTemplate u.module key path templates
  | test key path templates => g.addTestTemplate u.module key path templates
  | helper key path templates => g.addHelperTemplate u.module key path templates
  | resource key path location => g.addResource u key path location

/-- **The call on behalf of a target**, which is opened first. -/
def perform (u : Target) (g : Generation ε) (call : TemplateCall) :
    Generation ε × Registration :=
  call.answer u (g.openTarget u)

/-- A call leads to a reachable run. -/
theorem reachable_perform (h : Reachable g) (u : Target) (call : TemplateCall) :
    Reachable (call.perform u g).1 := by
  have hopen := h.perform (.openTarget u)
  cases call with
  | template key file => exact hopen.perform (.template u key file)
  | language key path templates =>
    exact hopen.perform (.languageTemplate u.module key path templates)
  | test key path templates => exact hopen.perform (.testTemplate u.module key path templates)
  | helper key path templates =>
    exact hopen.perform (.helperTemplate u.module key path templates)
  | resource key path location => exact hopen.perform (.resource u key path location)

theorem addModel_describes (h : g.index.Consistent) (module : Module) (key path : String)
    (model? : Option Model) :
    (g.addModel module key path model?).2.Describes g.index
      (g.addModel module key path model?).1.index := by
  cases model? with
  | none => rfl
  | some model => exact TemplateIndex.insert_describes h key _

/-- **The answer to a call says what became of the index.** -/
theorem perform_describes (hg : Reachable g) (u : Target) (call : TemplateCall) :
    (call.perform u g).2.Describes g.index (call.perform u g).1.index := by
  unfold perform
  rw [← index_openTarget g u]
  have h := TemplateIndex.consistent_of_reachable (hg.perform (.openTarget u)).index
  cases call with
  | template key file => exact TemplateIndex.register_describes h key file u _
  | language key path templates => exact addModel_describes h u.module key path _
  | test key path templates => exact addModel_describes h u.module key path _
  | helper key path templates => exact addModel_describes h u.module key _ _
  | resource key path location => exact TemplateIndex.register_describes h key _ u _

/-- A foreign template is registered under a key that its target marks, if at
all. -/
theorem registered_of_isForeign (hg : Reachable g) {key key' : String} {file : Template}
    {module : Module} {singleModule : Bool}
    (hforeign : RoutingQuestion.IsForeign ⟨key, file, u, singleModule⟩)
    (hanswer : ((template key file).perform u g).2 = .registered key' module) :
    u.Marks key' := by
  have hrules := TemplateIndex.rules_of_reachable (hg.perform (.openTarget u)).index
  -- opening the target has no part in the question
  have hopened :
      RoutingQuestion.IsForeign ⟨key, file, u, (g.openTarget u).isSingleModule⟩ :=
    ⟨hforeign.concrete, hforeign.routable, hforeign.module, hforeign.key⟩
  exact ⟨key, (TemplateIndex.register_of_isForeign hrules hopened hanswer).1⟩

end TemplateCall

/-- **Which templates survive a call** of a target.  A template is still stored,
unchanged, unless the answer says that another one is registered under its key.
If the call registers a template for a module that is not the target's own, then
that key is no one that another target marks. -/
theorem stored_after_call (hg : Reachable g) (u : Target) (call : TemplateCall) {key : String}
    {t : Template} (hstored : g.index.find? key = some t) :
    ((call.perform u g).1.index.find? key = some t ↔
      ∀ module, (call.perform u g).2 ≠ .registered key module) ∧
    ∀ k file, call = .template k file →
      RoutingQuestion.IsForeign ⟨k, file, u, g.isSingleModule⟩ →
      ∀ other : Target, other ≠ .shared → other ≠ u → other.Marks key →
        (call.perform u g).1.index.find? key = some t := by
  have hkept := (call.perform_describes hg u).kept_iff hstored
  refine ⟨hkept, ?_⟩
  rintro k file rfl hforeign other hconcrete hother hmarks
  rw [hkept]
  intro module hanswer
  have hmine := TemplateCall.registered_of_isForeign hg hforeign hanswer
  exact hother (Target.eq_of_marks hconcrete hforeign.concrete hmarks hmine)

/-- A run without capabilities. -/
def bareRun : GenerationPlan Unit := { project := .parse "com.example.demo" }

/-- A file whose author does not know its module. -/
def manual : Template := .new .default "manual.md" (.text "manual")

/-- The AWS target's manual survives that of the GCP target. -/
theorem manual_survives :
    ∃ (g : Generation Unit) (t : Template), Reachable g ∧
      g.index.find? "manual-aws" = some t ∧
      ((TemplateCall.template "manual" manual).perform .gcp g).1.index.find? "manual-aws" =
        some t := by
  have hstart : start bareRun = .ok _ := rfl
  have hreach := TemplateCall.reachable_perform (Reachable.of_start hstart) .aws
    (.template "manual" manual)
  refine ⟨_, manual.withModule (.target .aws), hreach, rfl, ?_⟩
  exact (stored_after_call hreach .gcp (.template "manual" manual) rfl).2 "manual" manual rfl
    ⟨by decide, rfl, by decide, by decide⟩ .aws (by decide) (by decide) ⟨"manual", rfl⟩

/-- A file that a target registers for its own module. -/
def readme (t : Target) : Template := .new t.module "README.md" (.text "readme")

/-- The AWS target's own file does not survive that of the GCP target, whose key
is the same. -/
theorem readme_replaced :
    ∃ (g : Generation Unit) (t : Template), Reachable g ∧
      g.index.find? "readme" = some t ∧ t.module = Target.module .aws ∧
      ((TemplateCall.template "readme" (readme .gcp)).perform .gcp g).1.index.find? "readme" ≠
        some t := by
  have hstart : start bareRun = .ok _ := rfl
  have hreach := TemplateCall.reachable_perform (Reachable.of_start hstart) .aws
    (.template "readme" (readme .aws))
  refine ⟨_, readme .aws, hreach, rfl, rfl, fun hkept => ?_⟩
  have hanswer := ((TemplateCall.perform_describes hreach .gcp
    (.template "readme" (readme .gcp))).kept_iff rfl).1 hkept
  exact hanswer (.target .gcp) rfl

end Fanout.Generation
