import Fanout.Generation.Contribution
import Fanout.Proofs.Generation.Isolation
import Fanout.Proofs.Generation.Reachable
import Fanout.Proofs.Plugin.Union

/-!
# Contributions that nothing can stop

Three things that a contribution brings along may be missing when they are asked for:
the coordinate of an artifact, when the contribution is made; the release of a plugin,
when the coordinates of all plugins are asked for; and the text of a model, when the
files are rendered.  A contribution that has all three is sound, and what it is made in
stays sound, so that neither making it nor any of the two questions afterwards fails.

## Main definitions

* `Contribution.IsSound` — nothing that the contribution needs is missing.
* `Generation.IsSound` — nothing that was contributed so far needs what is missing.

## Main statements

* `Generation.IsSound.makeAll` — sound contributions are made, and keep soundness.
* `Generation.IsSound.pluginCoordinates_isOk`, `Generation.IsSound.render_isOk` — a
  sound run answers.
-/

namespace Fanout

variable {ε : Type} {known : Resolver} {r : Registry}

/-! ## What may be missing -/

/-- The template has a content; a model may fail to produce one. -/
def Template.HasOutput (file : Template) : Prop := ∃ output, file.content.output = .ok output

/-- **Nothing that a contribution needs is missing.** -/
def Contribution.IsSound (known : Resolver) (r : Registry) : Contribution → Prop
  | .setting .. => True
  | .dependency d => ∃ settled, d.settled known = .ok settled
  | .property .. => True
  | .plugin p => ∃ settled, p.settled known = .ok settled ∧ settled.IsPublished r
  | .template _ file => file.HasOutput

/-! ## Which contributions are sound -/

namespace Contribution

theorem isSound_setting {kind : ConfigurationKind} {environment? : Option String} {path : String}
    {value : Setting} : (setting kind environment? path value).IsSound known r ↔ True :=
  Iff.rfl

theorem isSound_text {key path text : String} {module : Module} {executable : Bool} :
    (template key (.new module path (.text text) executable)).IsSound known r ↔ True :=
  iff_true_intro ⟨_, rfl⟩

theorem isSound_resource {key path location : String} {module : Module} {executable : Bool} :
    (template key (.new module path (.resource location) executable)).IsSound known r ↔ True :=
  iff_true_intro ⟨_, rfl⟩

/-- An artifact that is looked up has to be known. -/
theorem isSound_lookup {artifact : String} {scope : DependencyScope} :
    (dependency (.lookup artifact scope)).IsSound known r ↔ (known artifact).isSome = true := by
  rw [← Resolver.resolve_isOk_iff]
  constructor
  · rintro ⟨settled, h⟩
    change known.resolve artifact >>= _ = _ at h
    obtain ⟨c, hc, -⟩ := Fault.bind_ok h
    exact ⟨c, hc⟩
  · rintro ⟨c, hc⟩
    refine ⟨⟨some c.group, c.artifact, some c.version, scope, false⟩, ?_⟩
    show known.resolve artifact >>= _ = _
    rw [hc]
    rfl

/-- A version that is given has to be released. -/
theorem isSound_versioned {id version : String} :
    (plugin (.gradle id (some version) none)).IsSound known r ↔
      (r.find? (id ++ ":" ++ version)).isSome = true := by
  rw [← Registry.coordinate_isOk_iff]
  constructor
  · rintro ⟨settled, hsettled, h⟩
    obtain rfl := Except.ok.inj hsettled
    exact h id version rfl
  · intro h
    refine ⟨_, rfl, fun id' version' heq => ?_⟩
    obtain ⟨rfl, rfl⟩ := Prod.mk.inj (Option.some.inj heq)
    exact h

/-- An artifact that the version is looked up for has to be known, and its version to be
released. -/
theorem isSound_unversioned {id artifact : String} :
    (plugin (.gradle id none (some artifact))).IsSound known r ↔
      (known artifact).any (fun c => (r.find? (id ++ ":" ++ c.version)).isSome) = true := by
  have hresolve : (Plugin.gradle id none (some artifact)).settled known =
      known.resolve artifact >>= fun c => .ok (.gradle id (some c.version) none) := rfl
  cases hknown : known artifact with
  | none =>
    refine iff_of_false ?_ Bool.false_ne_true
    rintro ⟨settled, h, -⟩
    rw [hresolve, Resolver.resolve, hknown] at h
    cases h
  | some c =>
    have hsettled : (Plugin.gradle id none (some artifact)).settled known =
        (Plugin.gradle id (some c.version) none).settled known := by
      rw [hresolve, Resolver.resolve, hknown]
      rfl
    rw [Option.any_some, ← @isSound_versioned known]
    show (∃ _, _) ↔ ∃ _, _
    rw [hsettled]

end Contribution

/-! ## The index -/

namespace TemplateIndex

variable {x : TemplateIndex}

/-- Every stored template has a content. -/
def HasOutputs (x : TemplateIndex) : Prop := ∀ key file, x.find? key = some file → file.HasOutput

theorem hasOutputs_empty (extraRules : List RoutingRule) : (empty extraRules).HasOutputs :=
  fun _ _ h => by cases h

theorem HasOutputs.insert (h : x.HasOutputs) (key : String) {file : Template}
    (hfile : file.HasOutput) : (x.insert key file).1.HasOutputs := by
  intro k stored hstored
  rcases stored_of_insert hstored with hold | ⟨-, rfl, -⟩
  · exact h k stored hold
  · exact hfile

/-- Routing changes the module of a template, not its content. -/
theorem HasOutputs.register (h : x.HasOutputs) (key : String) {file : Template}
    (hfile : file.HasOutput) (scope : Target) (singleModule : Bool) :
    (x.register key file scope singleModule).1.HasOutputs := by
  unfold TemplateIndex.register
  split
  · exact h
  · exact h.insert _ hfile

end TemplateIndex

namespace Generation

variable {g g' : Generation ε}

/-- **Nothing that was contributed needs what is missing.** -/
structure IsSound (known : Resolver) (r : Registry) (g : Generation ε) : Prop where
  resolver : g.resolver = known
  registry : g.registry = r
  /-- The shared scope has no set among those of the concrete targets. -/
  concrete : g.plugins.sets.opened.find? .shared = none
  plugins : ∀ t, ∀ p ∈ g.plugins.plugins t, p.IsPublished r
  files : g.index.HasOutputs

/-- A plan whose capabilities have a partition can be started with it. -/
theorem start_of_compute {plan : GenerationPlan ε} {p : Partition ε}
    (h : Partition.compute plan.capabilities plan.selection plan.options.singletonPolicy = .ok p) :
    ∃ g, start plan = .ok g ∧ g.partition = p := by
  unfold start
  rw [h]
  exact ⟨_, rfl, rfl⟩

/-- A plan without contributions needs nothing. -/
theorem isSound_of_start {plan : GenerationPlan ε} (h : start plan = .ok g) :
    g.IsSound plan.resolver plan.registry := by
  obtain ⟨p, -, hg⟩ := Fault.bind_ok h
  obtain rfl := Except.ok.inj hg
  exact {
    resolver := rfl
    registry := rfl
    concrete := rfl
    plugins := fun t p hp => absurd hp (PluginSets.notMem_plugins_empty plan.policy t p)
    files := TemplateIndex.hasOutputs_empty plan.extraRules }

namespace IsSound

/-! ## What nothing depends on -/

/-- Only what may be missing counts. -/
theorem congr (h : g.IsSound known r) (hresolver : g'.resolver = g.resolver)
    (hregistry : g'.registry = g.registry) (hplugins : g'.plugins = g.plugins)
    (hindex : g'.index = g.index) : g'.IsSound known r where
  resolver := hresolver.trans h.resolver
  registry := hregistry.trans h.registry
  concrete := by rw [hplugins]; exact h.concrete
  plugins := by rw [hplugins]; exact h.plugins
  files := by rw [hindex]; exact h.files

theorem openTarget (h : g.IsSound known r) (t : Target) : (g.openTarget t).IsSound known r := by
  unfold Generation.openTarget
  split
  · exact h
  · exact h.congr rfl rfl rfl rfl

theorem setScope (h : g.IsSound known r) (t : Target) : (g.setScope t).IsSound known r :=
  (h.openTarget t).congr rfl rfl rfl rfl

theorem hideTargetFeatures (h : g.IsSound known r) : g.hideTargetFeatures.IsSound known r := by
  unfold Generation.hideTargetFeatures
  split
  · exact h.congr rfl rfl rfl rfl
  · exact h

/-! ## Contributions -/

theorem configure (h : g.IsSound known r) (t : Target) (kind : ConfigurationKind)
    (environment? : Option String) (path : String) (value : Setting) :
    (g.configure t kind environment? path value).IsSound known r := by
  unfold Generation.configure updateConfiguration
  cases kind <;> cases environment? <;> exact h.congr rfl rfl rfl rfl

/-- A dependency is added if its coordinate is known. -/
theorem addDependency (h : g.IsSound known r) (t : Target) {d settled : Dependency}
    (hd : d.settled known = .ok settled) :
    (g.addDependency t d).2 = .ok () ∧ (g.addDependency t d).1.IsSound known r := by
  obtain ⟨lists, hadd, -⟩ := g.addDependency_eq t d
  rw [hadd]
  refine ⟨?_, h.congr rfl rfl rfl rfl⟩
  unfold DependencyList.add
  rw [h.resolver, hd]
  rfl

/-- A plugin is added if what it looks up is known.  What is stored has to be released. -/
theorem addPlugin (h : g.IsSound known r) (t : Target) {p settled : Plugin}
    (hp : p.settled known = .ok settled) (hpublished : settled.IsPublished r) :
    (g.addPlugin t p).2 = .ok () ∧ (g.addPlugin t p).1.IsSound known r := by
  have hp' : p.settled g.resolver = .ok settled := h.resolver ▸ hp
  rw [addPlugin_eq, hp', PluginSets.attempt_of_ok hp']
  refine ⟨rfl, { h with concrete := ?_, plugins := ?_ }⟩
  · rw [PluginSets.opened_shared_addSettled, h.concrete]
  · intro u q hq
    rcases PluginSets.exists_mem_plugins_addSettled.1 ⟨u, hq⟩ with rfl | ⟨u', hold⟩
    · exact hpublished
    · exact h.plugins u' q hold

/-- **A sound contribution** is made, and keeps soundness. -/
theorem make (h : g.IsSound known r) (t : Target) {c : Contribution} (hc : c.IsSound known r) :
    (c.make t g).2 = .ok () ∧ (c.make t g).1.IsSound known r := by
  cases c with
  | setting kind environment? path value =>
    exact ⟨rfl, h.configure t kind environment? path value⟩
  | dependency d =>
    obtain ⟨settled, hd⟩ := hc
    exact h.addDependency t hd
  | property key value => exact ⟨rfl, h.congr rfl rfl rfl rfl⟩
  | plugin p =>
    obtain ⟨settled, hp, hpublished⟩ := hc
    exact h.addPlugin t hp hpublished
  | template key file =>
    exact ⟨rfl, { h with files := h.files.register key hc t g.isSingleModule }⟩

/-- **Sound contributions, one after the other**, are all made, and keep soundness. -/
theorem makeAll (h : g.IsSound known r) (t : Target) {cs : List Contribution}
    (hcs : ∀ c ∈ cs, c.IsSound known r) :
    (Contribution.makeAll t cs g).2 = none ∧ (Contribution.makeAll t cs g).1.IsSound known r := by
  induction cs generalizing g with
  | nil => exact ⟨rfl, h⟩
  | cons c cs ih =>
    obtain ⟨hfirst, hrest⟩ := List.forall_mem_cons.1 hcs
    obtain ⟨hmade, hsound⟩ := h.make t hfirst
    have hstep : Contribution.makeAll t (c :: cs) g = Contribution.makeAll t cs (c.make t g).1 := by
      rw [Contribution.makeAll, ← Prod.eta (c.make t g), hmade]
    rw [hstep]
    exact ih hsound hrest

/-! ## Answers -/

/-- The text of a configuration needs nothing. -/
theorem registerConfigurations (h : g.IsSound known r) :
    g.registerConfigurations.1.IsSound known r :=
  { h with
    files := collect_preserves (P := TemplateIndex.HasOutputs)
      (fun _ _ hx => hx.insert _ ⟨_, rfl⟩) _
      (collect_preserves (P := TemplateIndex.HasOutputs)
        (fun _ _ hx => hx.register _ ⟨_, rfl⟩ _ _) _ h.files) }

/-- **There are coordinates of all plugins.** -/
theorem pluginCoordinates_isOk (h : g.IsSound known r) : ∃ cs, g.pluginCoordinates = .ok cs := by
  unfold pluginCoordinates
  rw [PluginSets.coordinates_isOk_iff, h.registry]
  intro p hp
  obtain ⟨t, ht⟩ := (PluginSets.mem_all h.concrete).1 hp
  exact h.plugins t p ht

end IsSound

/-- A template is rendered exactly when it has a content. -/
theorem renderOne_isOk_iff {revisions : Revisions} {key : String} {file : Template} :
    (∃ rendered, renderOne revisions key file = .ok rendered) ↔ file.HasOutput := by
  constructor
  · rintro ⟨rendered, h⟩
    obtain ⟨_, hrevised, -⟩ := Fault.bind_ok h
    obtain ⟨output, houtput, -⟩ := Fault.bind_ok hrevised
    exact ⟨output, houtput⟩
  · rintro ⟨output, h⟩
    unfold renderOne revised
    rw [h]
    cases output with
    | text => exact ⟨_, rfl⟩
    | resource => exact ⟨_, rfl⟩

/-- The files are rendered exactly when every stored template has a content. -/
theorem render_isOk_iff : (∃ files, g.render = .ok files) ↔ g.index.HasOutputs := by
  unfold render
  rw [Fault.mapM_isOk_iff]
  simp only [renderOne_isOk_iff, Prod.forall, ← SortedMap.find?_eq_some_iff]
  rfl

/-- **All files are rendered.** -/
theorem IsSound.render_isOk (h : g.IsSound known r) : ∃ files, g.render = .ok files :=
  render_isOk_iff.2 h.files

end Generation

end Fanout
