import Fanout.Proofs.Generation.Isolation
import Fanout.Proofs.Generation.Templates
import Fanout.Proofs.Project

/-!
# Open targets

A concrete target counts as open when it has a project.  The entries of a target
lie in seven stores, and in all but one of them a write can make the target's entry
before the target is opened.  The project is the entry that no write makes: it comes
with opening the target, which gives it all the others.  So an open target reads
nothing of the shared scope's, and opening it leaves what it has already.

## Main definitions

* `Generation.TargetEntries.IsWhole` — every store has an entry.
* `Generation.TargetEntries.Extends` — all entries that there were are still there.
* `Generation.OpensWhole` — every open target has all entries, and its own project.
* `Generation.ReadsOwn` — whatever is read for a target is the target's own.
* `Generation.Operation.performAll` — operations one after the other.

## Main statements

* `Generation.Operation.perform_cases` — all that an operation can do to the stores.
* `Generation.OpensWhole.perform` — every operation keeps that open targets have all
  entries.
* `Generation.TargetEntries.IsWhole.readsOwn` — so an open target reads its own entries.
* `Generation.opened_whole` — the same said of whole runs, and what opening keeps.
-/

namespace Fanout.Generation

variable {ε : Type} {g g' : Generation ε} {t u : Target} {base : Project}

/-! ## Entries -/

/-- **Every store has an entry.**  Plugins are in no store: there are sets of them
from the first one on. -/
structure TargetEntries.IsWhole (e : TargetEntries) : Prop where
  application : e.application?.isSome = true
  bootstrap : e.bootstrap?.isSome = true
  applicationOverlays : e.applicationOverlays?.isSome = true
  bootstrapOverlays : e.bootstrapOverlays?.isSome = true
  dependencies : e.dependencies?.isSome = true
  project : e.project?.isSome = true
  buildProperties : e.buildProperties?.isSome = true

/-- **All entries that there were are still there**, as they were. -/
structure TargetEntries.Extends (before after : TargetEntries) : Prop where
  application : ∀ c, before.application? = some c → after.application? = some c
  bootstrap : ∀ c, before.bootstrap? = some c → after.bootstrap? = some c
  applicationOverlays : ∀ environments,
    before.applicationOverlays? = some environments → after.applicationOverlays? = some environments
  bootstrapOverlays : ∀ environments,
    before.bootstrapOverlays? = some environments → after.bootstrapOverlays? = some environments
  dependencies : ∀ l, before.dependencies? = some l → after.dependencies? = some l
  project : ∀ p, before.project? = some p → after.project? = some p
  buildProperties : ∀ p, before.buildProperties? = some p → after.buildProperties? = some p
  plugins : before.plugins? = after.plugins?

theorem TargetEntries.Extends.refl (e : TargetEntries) : e.Extends e := by
  constructor <;> first | exact fun _ h => h | rfl

/-- Opening a target leaves every entry of every target as it is. -/
theorem entries_openTarget_extends (g : Generation ε) (t u : Target) :
    (g.entries u).Extends ((g.openTarget t).entries u) := by
  by_cases hne : u = t
  case neg => rw [entries_openTarget_of_ne hne g]; exact .refl _
  subst hne
  unfold openTarget
  split
  · exact .refl _
  · constructor <;>
      simp +contextual [entries, Scoped.find?_ensure, Overlays.environments?_openTarget,
        Overlays.environments]

/-- A target that is opened gets the project of its module, and has all entries. -/
theorem entries_openTarget (h : (g.entries t).project? = none) :
    ((g.openTarget t).entries t).project? = some (g.projectFor t) ∧
      ((g.openTarget t).entries t).IsWhole := by
  have hproject : g.projects.find? t = none := h
  have hclosed : g.projects.isOpen t = false := by rw [Scoped.isOpen, hproject]; rfl
  unfold openTarget
  rw [hclosed]
  refine ⟨?_, ?_⟩
  · simp [entries, Scoped.find?_ensure, hproject]
  · constructor <;> simp [entries, Scoped.find?_ensure, Overlays.environments?_openTarget]

theorem openTarget_of_open {p : Project} (h : (g.entries t).project? = some p) :
    g.openTarget t = g := by
  have hopen : g.projects.isOpen t = true := by
    rw [Scoped.isOpen, show g.projects.find? t = some p from h]
    rfl
  unfold openTarget
  rw [if_pos hopen]

/-! ## Writes -/

theorem projects_answer (t : Target) (g : Generation ε) (w : Write) :
    (w.answer t g).1.projects = g.projects := by
  cases w with
  | configuration kind environment? f => cases kind <;> cases environment? <;> rfl
  | dependency d =>
    obtain ⟨lists, hadd, -⟩ := g.addDependency_eq t d
    rw [Write.answer, hadd]
  | properties f => rfl
  | plugin p => rw [Write.answer, addPlugin_eq]

/-- No write takes an entry away. -/
theorem isWhole_answer (h : (g.entries u).IsWhole) (t : Target) (w : Write) :
    ((w.answer t g).1.entries u).IsWhole := by
  by_cases hne : u = t
  case neg => rw [w.entries_answer_of_ne hne g]; exact h
  subst hne
  cases w with
  | configuration kind environment? f =>
    match kind, environment? with
    | .application, none =>
      exact { h with
        application := by simp [entries, Write.answer, updateConfiguration, Scoped.find?_update] }
    | .bootstrap, none =>
      exact { h with
        bootstrap := by simp [entries, Write.answer, updateConfiguration, Scoped.find?_update] }
    | .application, some environment =>
      exact { h with
        applicationOverlays := by
          simp [entries, Write.answer, updateConfiguration, Overlays.update,
            Overlays.environments?_put] }
    | .bootstrap, some environment =>
      exact { h with
        bootstrapOverlays := by
          simp [entries, Write.answer, updateConfiguration, Overlays.update,
            Overlays.environments?_put] }
  | dependency d =>
    obtain ⟨lists, hadd, hlists⟩ := g.addDependency_eq u d
    rw [Write.answer, hadd]
    exact { h with dependencies := by simp [entries, hlists] }
  | properties f =>
    exact { h with
      buildProperties := by simp [entries, Write.answer, updateProperties, Scoped.find?_update] }
  | plugin p =>
    rw [Write.answer, addPlugin_eq]
    exact { h with }

/-! ## What an operation does to the stores -/

/-- **The stores are the same.** -/
structure SameStores (g g' : Generation ε) : Prop where
  projects : g'.projects = g.projects
  entries : ∀ t, g'.entries t = g.entries t

theorem SameStores.refl (g : Generation ε) : g.SameStores g := ⟨rfl, fun _ => rfl⟩

theorem addModel_sameStores (g : Generation ε) (module : Module) (key path : String)
    (model? : Option Model) : g.SameStores (g.addModel module key path model?).1 := by
  cases model? <;> exact ⟨rfl, fun _ => rfl⟩

/-- The operation opens a target. -/
def Operation.Opens (t : Target) (o : Operation) : Prop := o = .openTarget t ∨ o = .setScope t

/-- **What an operation does to the stores**: it opens a target, it is a write of a
target, or it leaves them alone. -/
theorem Operation.perform_cases (o : Operation) (g : Generation ε) :
    (∃ t, o.Opens t ∧ (g.openTarget t).SameStores (o.perform g)) ∨
    (∃ t w, o.perform g = (Write.answer t g w).1) ∨ g.SameStores (o.perform g) := by
  cases o with
  | setScope t => exact .inl ⟨t, .inr rfl, ⟨rfl, fun _ => rfl⟩⟩
  | openTarget t => exact .inl ⟨t, .inl rfl, .refl _⟩
  | configuration t kind environment? f =>
    exact .inr (.inl ⟨t, .configuration kind environment? f, rfl⟩)
  | dependency t d => exact .inr (.inl ⟨t, .dependency d, rfl⟩)
  | properties t f => exact .inr (.inl ⟨t, .properties f, rfl⟩)
  | plugin t p => exact .inr (.inl ⟨t, .plugin p, rfl⟩)
  | hideTargetFeatures =>
    refine .inr (.inr ?_)
    show g.SameStores g.hideTargetFeatures
    unfold Generation.hideTargetFeatures
    split <;> exact ⟨rfl, fun _ => rfl⟩
  | languageTemplate module key path templates =>
    exact .inr (.inr (g.addModel_sameStores module key path _))
  | testTemplate module key path templates =>
    exact .inr (.inr (g.addModel_sameStores module key path _))
  | helperTemplate module key path templates =>
    exact .inr (.inr (g.addModel_sameStores module key _ _))
  | resetScope | template | resource | removeTemplate | reviseKey | revisePattern
  | registerConfigurations => exact .inr (.inr ⟨rfl, fun _ => rfl⟩)

/-- Once there, a project stays. -/
theorem Operation.project_perform {p : Project} (h : (g.entries t).project? = some p)
    (o : Operation) : ((o.perform g).entries t).project? = some p := by
  rcases o.perform_cases g with ⟨u, -, hsame⟩ | ⟨u, w, hwrite⟩ | hsame
  · rw [hsame.entries]
    exact (entries_openTarget_extends g u t).project p h
  · rw [hwrite, ← h]
    exact congrArg (Scoped.find? · t) (projects_answer u g w)
  · rw [hsame.entries]
    exact h

theorem Operation.project_of_opens {o : Operation} (h : o.Opens t) (g : Generation ε) :
    ∃ p, ((o.perform g).entries t).project? = some p := by
  have hopened : ∃ p, ((g.openTarget t).entries t).project? = some p := by
    cases hold : (g.entries t).project? with
    | none => exact ⟨_, (entries_openTarget hold).1⟩
    | some p => exact ⟨p, (entries_openTarget_extends g t t).project p hold⟩
  rcases h with rfl | rfl <;> exact hopened

/-! ## Open targets -/

/-- **Every open target has all entries**, and the project of its own module. -/
structure OpensWhole (base : Project) (g : Generation ε) : Prop where
  base_eq : g.projects.base = base
  whole : ∀ t, t ≠ .shared → ∀ p, (g.entries t).project? = some p →
    p = base.forModule t.moduleName ∧ (g.entries t).IsWhole

namespace OpensWhole

/-- The stores are all that this is about. -/
theorem congr (h : g.OpensWhole base) (hsame : g.SameStores g') : g'.OpensWhole base where
  base_eq := by rw [hsame.projects, h.base_eq]
  whole := by
    intro t
    rw [hsame.entries]
    exact h.whole t

theorem of_start {plan : GenerationPlan ε} (h : start plan = .ok g) :
    g.OpensWhole plan.project := by
  obtain ⟨p, -, hg⟩ := Fault.bind_ok h
  obtain rfl := Except.ok.inj hg
  refine ⟨rfl, fun t ht p hp => ?_⟩
  -- no concrete target is open yet
  cases t with
  | shared => exact absurd rfl ht
  | aws | azure | gcp | oci => cases hp

theorem openTarget (h : g.OpensWhole base) (t : Target) : (g.openTarget t).OpensWhole base where
  base_eq := by
    rw [← h.base_eq]
    exact (terms_eq_iff.1 (g.terms_openTarget t)).2.2
  whole := by
    intro u hu p hp
    by_cases hne : u = t
    case neg =>
      rw [entries_openTarget_of_ne hne] at hp ⊢
      exact h.whole u hu p hp
    subst hne
    cases hold : (g.entries u).project? with
    | some old =>
      rw [openTarget_of_open hold] at hp ⊢
      exact h.whole u hu p hp
    | none =>
      obtain ⟨hnew, hwhole⟩ := entries_openTarget hold
      rw [hnew] at hp
      obtain rfl := Option.some.inj hp
      exact ⟨by rw [projectFor, h.base_eq], hwhole⟩

theorem answer (h : g.OpensWhole base) (t : Target) (w : Write) :
    (w.answer t g).1.OpensWhole base where
  base_eq := by rw [projects_answer, h.base_eq]
  whole := by
    intro u hu p hp
    have hold : (g.entries u).project? = some p := by
      rw [← hp]
      exact congrArg (Scoped.find? · u) (projects_answer t g w).symm
    obtain ⟨hown, hwhole⟩ := h.whole u hu p hold
    exact ⟨hown, isWhole_answer hwhole t w⟩

/-- **Every operation keeps that open targets have all entries.** -/
theorem perform (h : g.OpensWhole base) (o : Operation) : (o.perform g).OpensWhole base := by
  rcases o.perform_cases g with ⟨t, -, hsame⟩ | ⟨t, w, hwrite⟩ | hsame
  · exact (h.openTarget t).congr hsame
  · rw [hwrite]
    exact h.answer t w
  · exact h.congr hsame

end OpensWhole

/-! ## What an open target reads -/

/-- **Whatever is read for a target is the target's own**, and nothing the shared
scope's. -/
structure ReadsOwn (g : Generation ε) (t : Target) : Prop where
  application : g.application.opened.find? t = some (g.configuration t .application)
  bootstrap : g.bootstrap.opened.find? t = some (g.configuration t .bootstrap)
  applicationOverlays :
    g.applicationOverlays.opened.find? t = some (g.applicationOverlays.environments t)
  bootstrapOverlays :
    g.bootstrapOverlays.opened.find? t = some (g.bootstrapOverlays.environments t)
  dependencies : g.dependencies.opened.find? t = some (g.dependencies.get t)
  project : g.projects.opened.find? t = some (g.projects.get t)
  buildProperties : g.buildProperties.opened.find? t = some (g.buildProperties.get t)

theorem TargetEntries.IsWhole.readsOwn (ht : t.isShared = false) (h : (g.entries t).IsWhole) :
    g.ReadsOwn t where
  application := Scoped.opened_of_isOpen ht h.application
  bootstrap := Scoped.opened_of_isOpen ht h.bootstrap
  applicationOverlays := Overlays.opened_of_isOpen h.applicationOverlays
  bootstrapOverlays := Overlays.opened_of_isOpen h.bootstrapOverlays
  dependencies := Scoped.opened_of_isOpen ht h.dependencies
  project := Scoped.opened_of_isOpen ht h.project
  buildProperties := Scoped.opened_of_isOpen ht h.buildProperties

/-! ## Whole runs -/

/-- **Operations one after the other.** -/
def Operation.performAll (operations : List Operation) (g : Generation ε) : Generation ε :=
  operations.foldl perform g

theorem Reachable.performAll (h : Reachable g) (operations : List Operation) :
    Reachable (Operation.performAll operations g) := by
  induction operations generalizing g with
  | nil => exact h
  | cons o operations ih => exact ih (h.perform o)

theorem OpensWhole.performAll (h : g.OpensWhole base) (operations : List Operation) :
    (Operation.performAll operations g).OpensWhole base := by
  induction operations generalizing g with
  | nil => exact h
  | cons o operations ih => exact ih (h.perform o)

theorem Operation.project_performAll {p : Project} (h : (g.entries t).project? = some p)
    (operations : List Operation) :
    ((performAll operations g).entries t).project? = some p := by
  induction operations generalizing g with
  | nil => exact h
  | cons o operations ih => exact ih (project_perform h o)

/-- A target that one of the operations opens is open from then on. -/
theorem Operation.project_of_mem {o : Operation} {operations : List Operation}
    (ho : o ∈ operations) (hopens : o.Opens t) (g : Generation ε) :
    ∃ p, ((performAll operations g).entries t).project? = some p := by
  induction operations generalizing g with
  | nil => cases ho
  | cons first operations ih =>
    rcases List.mem_cons.1 ho with rfl | hrest
    · obtain ⟨p, hp⟩ := project_of_opens hopens g
      exact ⟨p, project_performAll hp operations⟩
    · exact ih hrest _

/-- **Open targets.**  Whatever operations a run has seen, in whatever order: a
concrete target that has a project has the project of its module, in the package of
the shared scope's, and whatever is read for it is its own; this is so from the moment
that an operation opens it; and opening a target, or moving the scope to it, leaves
every entry of every target and all plugins as they are. -/
theorem opened_whole {plan : GenerationPlan ε} {qualified : String}
    (hproject : plan.project = .parse qualified) (hstart : start plan = .ok g)
    (x : TemplateIndex) (operations : List Operation) (ht : t ≠ .shared) :
    let after := Operation.performAll operations { g with index := x }
    after.projects.base = .parse qualified ∧
    (∀ p, after.projects.opened.find? t = some p →
      p = ⟨t.moduleName, (Project.parse qualified).packageName⟩ ∧ after.ReadsOwn t) ∧
    (∀ o ∈ operations, o.Opens t → (after.projects.opened.find? t).isSome = true) ∧
    ∀ u,
      (∀ v, (after.entries v).Extends ((after.openTarget u).entries v) ∧
        (after.entries v).Extends ((after.setScope u).entries v)) ∧
      (after.openTarget u).plugins = after.plugins ∧
      (after.setScope u).plugins = after.plugins := by
  intro after
  have hconcrete : t.isShared = false := Bool.eq_false_iff.2 (mt Target.isShared_iff.1 ht)
  have hinitial : OpensWhole plan.project { g with index := x } :=
    (OpensWhole.of_start hstart).congr ⟨rfl, fun _ => rfl⟩
  have hafter : after.OpensWhole plan.project := hinitial.performAll operations
  have hopened : after.projects.opened.find? t = (after.entries t).project? :=
    (Scoped.find?_of_concrete hconcrete _).symm
  refine ⟨hafter.base_eq.trans hproject, fun p hp => ?_, fun o ho hopens => ?_, fun u => ?_⟩
  · obtain ⟨hown, hwhole⟩ := hafter.whole t ht p (hopened ▸ hp)
    refine ⟨?_, hwhole.readsOwn hconcrete⟩
    rw [hown, hproject, Project.forModule_parse]
  · obtain ⟨p, hp⟩ := Operation.project_of_mem ho hopens { g with index := x }
    rw [hopened, hp]
    rfl
  · have hextends := fun v => entries_openTarget_extends after u v
    exact ⟨fun v => ⟨hextends v, hextends v⟩, plugins_openTarget .., plugins_openTarget ..⟩

/-- A build property of the AWS target, put before the target is opened. -/
def earlyProperty : List Operation :=
  [.properties .aws fun p => p.put "jdkVersion" "21", .openTarget .aws]

/-- The target has all entries then, and the property. -/
theorem aws_opened_after_write :
    ∃ g : Generation Unit, start bareRun = .ok g ∧
      (Operation.performAll earlyProperty g).ReadsOwn .aws ∧
      (Operation.performAll earlyProperty g).projects.get .aws = ⟨"aws", "com.example"⟩ ∧
      ((Operation.performAll earlyProperty g).buildProperties.get .aws).find? "jdkVersion" =
        some "21" := by
  have hstart : start bareRun = .ok _ := rfl
  have hproject : bareRun.project = .parse "com.example.demo" := rfl
  have hopened := opened_whole hproject hstart (.empty []) earlyProperty (t := .aws) (by decide)
  obtain ⟨p, hp⟩ := Option.isSome_iff_exists.1
    (hopened.2.2.1 (.openTarget .aws) (by simp [earlyProperty]) (.inl rfl))
  exact ⟨_, hstart, (hopened.2.1 p hp).2, rfl, rfl⟩

end Fanout.Generation
