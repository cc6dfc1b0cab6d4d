import Fanout.Proofs.Configuration.Place
import Fanout.Proofs.Generation.Isolation
import Fanout.Proofs.Generation.Reachable

/-!
# Labels of the stored configurations

A configuration carries its kind and its environment, and stands in a place that
says both once more.  As long as a run only sets values in its configurations, the
labels agree with the places.

## Main definitions

* `Generation.stored?` — the configuration in a place.
* `Generation.Labelled` — every configuration is labelled with its place.
* `Generation.Configured` — what operations make of a start, if all they do to
  configurations is to set values.

## Main statements

* `Generation.Labelled.perform` — such an operation keeps the labels.
* `Generation.Configured.labelled` — so do all of them.
-/

namespace Fanout

/-- Setting values leaves the label alone. -/
theorem Place.Fits.addAll {p : Place} {c : Configuration} (h : p.Fits c)
    (settings : List (String × Setting)) : p.Fits (c.addAll settings) := by
  unfold Configuration.addAll
  induction settings generalizing c with
  | nil => exact h
  | cons setting settings ih => exact ih ⟨h.kind, h.environment⟩

namespace Generation

variable {ε ρ : Type} {g g' : Generation ε}

/-! ## What is in a place -/

/-- The configurations of a kind that are for all environments. -/
def bases (g : Generation ε) : ConfigurationKind → Scoped Configuration
  | .application => g.application
  | .bootstrap => g.bootstrap

/-- **The configuration in a place**, if there is one. -/
def stored? (g : Generation ε) (p : Place) : Option Configuration :=
  match p.environment? with
  | none => (g.bases p.kind).find? p.target
  | some environment => g.overlay? p.target p.kind environment

theorem stored?_congr (hbases : g'.bases = g.bases) (hoverlays : g'.overlays = g.overlays) :
    g'.stored? = g.stored? := by
  funext p
  unfold stored? overlay?
  rw [hbases, hoverlays]

/-- A change to a configuration is seen in its place, which may be new, and nowhere
else. -/
theorem stored?_updateConfiguration (g : Generation ε) (p q : Place)
    (f : Configuration → Configuration) :
    (g.updateConfiguration p.target p.kind p.environment? f).stored? q =
      if q = p then some (f ((g.stored? p).getD p.fresh)) else g.stored? q := by
  obtain ⟨t, kind, environment?⟩ := p
  obtain ⟨u, kind', environment?'⟩ := q
  cases kind <;> cases environment? <;> cases kind' <;> cases environment?' <;>
    simp [stored?, bases, overlay?, overlays, updateConfiguration, Scoped.find?_update,
      Overlays.update, Overlays.find?_put, Place.fresh, Configuration.application,
      Configuration.bootstrap]

/-- Opening a target puts fresh configurations into places that had none. -/
theorem stored?_openTarget (g : Generation ε) (t : Target) (p : Place) :
    (g.openTarget t).stored? p = g.stored? p ∨ (g.openTarget t).stored? p = some p.fresh := by
  have hensure : ∀ (s : Scoped Configuration) (c : Configuration),
      (s.ensure t c).find? p.target = s.find? p.target ∨
        (s.ensure t c).find? p.target = some c := by
    intro s c
    rw [Scoped.find?_ensure]
    split
    next htarget =>
      rw [htarget]
      cases s.find? t with
      | none => exact Or.inr rfl
      | some _ => exact Or.inl rfl
    next => exact Or.inl rfl
  unfold openTarget
  split
  · exact Or.inl rfl
  · obtain ⟨u, kind, environment?⟩ := p
    cases environment? with
    | none => cases kind <;> exact hensure _ _
    | some environment => cases kind <;> exact Or.inl (Overlays.find?_openTarget ..)

/-! ## Labels -/

/-- **Every configuration is labelled with its place**, and the shared scope has no
place among those of the concrete targets. -/
structure Labelled (g : Generation ε) : Prop where
  fits : ∀ p c, g.stored? p = some c → p.Fits c
  concrete : ∀ kind, (g.bases kind).opened.find? .shared = none

/-- The labels are about nothing but the configurations. -/
theorem Labelled.congr (h : g.Labelled) (hbases : g'.bases = g.bases)
    (hoverlays : g'.overlays = g.overlays) : g'.Labelled where
  fits := by
    rw [stored?_congr hbases hoverlays]
    exact h.fits
  concrete := by
    rw [hbases]
    exact h.concrete

theorem labelled_of_start {plan : GenerationPlan ε} (h : start plan = .ok g) : g.Labelled := by
  obtain ⟨p, -, hg⟩ := Fault.bind_ok h
  obtain rfl := Except.ok.inj hg
  constructor
  case fits =>
    rintro ⟨t, kind, environment?⟩ c hc
    cases environment? with
    | none =>
      -- only the shared scope has configurations, and these are fresh
      cases kind <;> cases t <;> cases hc <;> exact ⟨rfl, rfl⟩
    | some environment => cases kind <;> cases hc
  case concrete => intro kind; cases kind <;> rfl

theorem Labelled.openTarget (h : g.Labelled) (t : Target) : (g.openTarget t).Labelled where
  fits := by
    intro p c hc
    rcases stored?_openTarget g t p with hkept | hfresh
    · exact h.fits p c (hkept ▸ hc)
    · rw [hfresh] at hc
      obtain rfl := Option.some.inj hc
      exact p.fits_fresh
  concrete := by
    intro kind
    rw [← h.concrete kind]
    unfold Generation.openTarget
    split
    · rfl
    · cases kind <;> exact Scoped.opened_shared_ensure ..

theorem Labelled.updateConfiguration (h : g.Labelled) (t : Target) (kind : ConfigurationKind)
    (environment? : Option String) {f : Configuration → Configuration}
    (hf : ∀ p c, Place.Fits p c → p.Fits (f c)) :
    (g.updateConfiguration t kind environment? f).Labelled where
  fits := by
    intro p c hc
    rw [stored?_updateConfiguration g ⟨t, kind, environment?⟩ p] at hc
    split at hc
    next hp =>
      subst hp
      obtain rfl := Option.some.inj hc
      refine hf _ _ ?_
      cases hold : g.stored? ⟨t, kind, environment?⟩ with
      | none => exact Place.fits_fresh _
      | some old => exact h.fits _ old hold
    next => exact h.fits p c hc
  concrete := by
    intro kind'
    rw [← h.concrete kind']
    cases kind <;> cases environment? <;> cases kind' <;> first
      | rfl
      | exact Scoped.opened_shared_put ..

theorem Labelled.addModel (h : g.Labelled) (module : Module) (key path : String)
    (model? : Option Model) : (g.addModel module key path model?).1.Labelled := by
  cases model? with
  | none => exact h
  | some model => exact h.congr rfl rfl

/-! ## Operations that set values -/

/-- **All the operation does to a configuration** is to set values in it. -/
def Operation.OnlySets : Operation → Prop
  | .configuration _ _ _ f => ∃ settings, ∀ c, f c = c.addAll settings
  | _ => True

/-- One operation. -/
theorem Labelled.perform (h : g.Labelled) {o : Operation} (ho : o.OnlySets) :
    (o.perform g).Labelled := by
  cases o with
  | setScope t => exact (h.openTarget t).congr rfl rfl
  | openTarget t => exact h.openTarget t
  | hideTargetFeatures =>
    show Labelled (g.hideTargetFeatures)
    unfold hideTargetFeatures
    split
    · exact h.congr rfl rfl
    · exact h
  | configuration t kind environment? f =>
    obtain ⟨settings, hf⟩ := ho
    refine h.updateConfiguration t kind environment? fun p c hc => ?_
    rw [hf]
    exact hc.addAll settings
  | dependency t d =>
    obtain ⟨lists, hadd, -⟩ := g.addDependency_eq t d
    show Labelled (g.addDependency t d).1
    rw [hadd]
    exact h.congr rfl rfl
  | plugin t p =>
    show Labelled (g.addPlugin t p).1
    rw [addPlugin_eq]
    exact h.congr rfl rfl
  | languageTemplate module key path templates => exact h.addModel module key path _
  | testTemplate module key path templates => exact h.addModel module key path _
  | helperTemplate module key path templates => exact h.addModel module key _ _
  | resetScope | properties | template | resource | removeTemplate | reviseKey | revisePattern
  | registerConfigurations => exact h.congr rfl rfl

/-- **What operations make of a start**, if all they do to configurations is to set
values. -/
inductive Configured : Generation ε → Prop where
  | start {plan : GenerationPlan ε} {g : Generation ε} (h : start plan = .ok g)
      {x : TemplateIndex} (hx : x.Reachable) : Configured { g with index := x }
  | perform {g : Generation ε} (h : Configured g) {o : Operation} (ho : o.OnlySets) :
      Configured (o.perform g)

/-- The index that a plan starts with is one without templates. -/
theorem Configured.of_start {plan : GenerationPlan ε} (h : Generation.start plan = .ok g) :
    Configured g := by
  obtain ⟨p, -, hg⟩ := Fault.bind_ok h
  obtain rfl := Except.ok.inj hg
  exact Configured.start h (.empty plan.extraRules)

theorem Configured.reachable (h : Configured g) : Reachable g := by
  induction h with
  | start h hx => exact .start h hx
  | perform _ _ ih => exact ih.perform _

/-- **The labels agree with the places.** -/
theorem Configured.labelled (h : Configured g) : g.Labelled := by
  induction h with
  | start h hx => exact (labelled_of_start h).congr rfl rfl
  | perform _ ho ih => exact ih.perform ho

/-- Applying the capabilities is nothing but operations, if what each of them does
is. -/
theorem Configured.apply {behave : Behaviour ε ρ}
    (hbehave : ∀ c t g, Configured g → Configured (behave c t g).1) (h : Configured g) :
    Configured (g.apply behave).state :=
  apply_preserves (fun _ t hg => hg.perform (o := .openTarget t) trivial)
    (fun _ t hg => hg.perform (o := .setScope t) trivial)
    (fun _ hg => hg.perform (o := .hideTargetFeatures) trivial) hbehave h

end Generation

end Fanout
