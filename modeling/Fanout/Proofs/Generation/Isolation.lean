import Fanout.Generation.Contribution
import Fanout.Proofs.Artifact.Additions
import Fanout.Proofs.Plugin.Sets

/-!
# Targets do not see each other's writes

A capability that is applied to a target writes into the entries of that target:
its configurations and overlays, its dependencies, its build properties and its
plugins.  The entries of the other targets are not touched, and what a write
does and answers depends on its own target's entries alone.  So a target cannot
tell a run with other targets from a run without them, and the writes of
different targets can come in any order.

## Main definitions

* `Generation.TargetEntries`, `Generation.entries` — what a run has stored for a target.
* `Generation.Terms`, `Generation.terms` — what all writes go by and none changes.
* `Generation.Write`, `Generation.Write.perform` — a write on behalf of a target.
* `Generation.performAll` — writes one after the other, with their answers.
* `Generation.boundTo` — those of one target among writes or answers.

## Main statements

* `Generation.Write.entries_perform_of_ne` — a write of another target is not seen.
* `Generation.Write.perform_congr` — what a write does and answers is settled by
  the entries of its target and by the terms.
* `Generation.performAll_boundTo` — the same said of whole runs.
* `Generation.writes_isolated` — and of all the orders in which the writes of
  several targets can be mixed.

## Design notes

The shared scope is a target like any other here, but for its plugins: the shared
module takes over plugins of the other targets, so its plugin set is none of the
entries that are kept apart.  It does not depend on the order of the writes.
-/

namespace Fanout

namespace Generation

variable {ε : Type} {g g' : Generation ε} {t u : Target}

/-! ## What a target can see -/

/-- **Entries of a target**; `none` where nothing is opened. -/
structure TargetEntries where
  application? : Option Configuration
  bootstrap? : Option Configuration
  applicationOverlays? : Option (SortedMap String Configuration)
  bootstrapOverlays? : Option (SortedMap String Configuration)
  dependencies? : Option DependencyList
  project? : Option Project
  buildProperties? : Option BuildProperties
  /-- The plugin set of a concrete target. -/
  plugins? : Option (SortedSet Plugin)

/-- What a run has stored for a target. -/
def entries (g : Generation ε) (t : Target) : TargetEntries where
  application? := g.application.find? t
  bootstrap? := g.bootstrap.find? t
  applicationOverlays? := g.applicationOverlays.environments? t
  bootstrapOverlays? := g.bootstrapOverlays.environments? t
  dependencies? := g.dependencies.find? t
  project? := g.projects.find? t
  buildProperties? := g.buildProperties.find? t
  plugins? := if t.isShared then none else g.plugins.sets.find? t

/-- **What all writes go by.** -/
structure Terms where
  resolver : Resolver
  /-- The build properties every module starts with. -/
  seed : BuildProperties
  /-- The project that the modules' projects are made from. -/
  project : Project

/-- The terms of a run. -/
def terms (g : Generation ε) : Terms := ⟨g.resolver, g.seed, g.projects.base⟩

/-! ## Writes -/

/-- **Write of a target.**  A configuration and the build properties are handed out
to be changed in place, so any change can be made to them. -/
inductive Write where
  | configuration (kind : ConfigurationKind) (environment? : Option String)
    (f : Configuration → Configuration)
  | dependency (d : Dependency)
  | properties (f : BuildProperties → BuildProperties)
  | plugin (p : Plugin)

/-- **Answer to a write**: what was handed out, or whether the write succeeded. -/
inductive Answer where
  | configuration (c : Configuration)
  | properties (p : BuildProperties)
  | outcome (result : Except Fault Unit)

/-- The configuration of a target that is handed out to be changed, a fresh one
if there is none yet. -/
def handedOut (g : Generation ε) (t : Target) :
    ConfigurationKind → Option String → Configuration
  | .application, none => (g.application.find? t).getD .application
  | .bootstrap, none => (g.bootstrap.find? t).getD .bootstrap
  | kind, some environment => (g.overlay? t kind environment).getD (.ofKind kind environment)

namespace Write

/-- The write on a run in which its target is open. -/
def answer (t : Target) (g : Generation ε) : Write → Generation ε × Answer
  | configuration kind environment? f =>
    (g.updateConfiguration t kind environment? f, .configuration (g.handedOut t kind environment?))
  | dependency d =>
    let result := g.addDependency t d
    (result.1, .outcome result.2)
  | properties f =>
    (g.updateProperties t f, .properties ((g.buildProperties.find? t).getD g.seed))
  | plugin p =>
    let result := g.addPlugin t p
    (result.1, .outcome result.2)

/-- **The write on behalf of a target**, which is opened first. -/
def perform (t : Target) (g : Generation ε) (w : Write) : Generation ε × Answer :=
  w.answer t (g.openTarget t)

/-- The write that makes a contribution; a template is no entry of a target. -/
def ofContribution? : Contribution → Option Write
  | .setting kind environment? path value =>
    some (.configuration kind environment? fun c => c.add path value)
  | .dependency d => some (.dependency d)
  | .property key value => some (.properties fun p => p.put key value)
  | .plugin p => some (.plugin p)
  | .template _ _ => none

theorem answer_of_contribution {c : Contribution} {w : Write} (h : ofContribution? c = some w)
    (t : Target) (g : Generation ε) : (w.answer t g).1 = (c.make t g).1 := by
  cases c with
  | template key file => cases h
  | setting | dependency | property | plugin =>
    obtain rfl := Option.some.inj h
    rfl

end Write

/-- Writes of targets one after the other, with the answers. -/
def performAll : List (Target × Write) → Generation ε → Generation ε × List (Target × Answer)
  | [], g => (g, [])
  | (t, w) :: rest, g =>
    let first := w.perform t g
    let others := performAll rest first.1
    (others.1, (t, first.2) :: others.2)

/-- What is one target's: among writes, or among answers. -/
def boundTo {α : Type} (t : Target) (l : List (Target × α)) : List (Target × α) :=
  l.filter fun a => a.1 = t

/-! ## What a run has stored, entry by entry -/

theorem entries_eq_iff : g.entries t = g'.entries t ↔
    g.application.find? t = g'.application.find? t ∧ g.bootstrap.find? t = g'.bootstrap.find? t ∧
    g.applicationOverlays.environments? t = g'.applicationOverlays.environments? t ∧
    g.bootstrapOverlays.environments? t = g'.bootstrapOverlays.environments? t ∧
    g.dependencies.find? t = g'.dependencies.find? t ∧ g.projects.find? t = g'.projects.find? t ∧
    g.buildProperties.find? t = g'.buildProperties.find? t ∧
    (t.isShared = false → g.plugins.sets.find? t = g'.plugins.sets.find? t) := by
  unfold entries
  rw [TargetEntries.mk.injEq]
  cases t.isShared <;> simp

theorem terms_eq_iff : g.terms = g'.terms ↔
    g.resolver = g'.resolver ∧ g.seed = g'.seed ∧ g.projects.base = g'.projects.base := by
  unfold terms
  rw [Terms.mk.injEq]

/-! ## Opening a target -/

theorem terms_openTarget (g : Generation ε) (t : Target) : (g.openTarget t).terms = g.terms := by
  unfold openTarget
  split
  · rfl
  · exact terms_eq_iff.2 ⟨rfl, rfl, Scoped.base_ensure ..⟩

theorem entries_openTarget_of_ne (hne : u ≠ t) (g : Generation ε) :
    (g.openTarget t).entries u = g.entries u := by
  unfold openTarget
  split
  · rfl
  · simp only [entries_eq_iff, Scoped.find?_ensure, Overlays.environments?_openTarget, if_neg hne,
      implies_true, and_self]

/-- What a target is opened with is settled by what it has already. -/
theorem openTarget_congr (hterms : g.terms = g'.terms) (h : g.entries t = g'.entries t) :
    (g.openTarget t).entries t = (g'.openTarget t).entries t := by
  obtain ⟨-, hseed, hbase⟩ := terms_eq_iff.1 hterms
  obtain ⟨happlication, hbootstrap, hoverlays, hbootstrapOverlays, hdependencies, hproject,
    hproperties, hplugins⟩ := entries_eq_iff.1 h
  have hfresh : g.projectFor t = g'.projectFor t := by rw [projectFor, projectFor, hbase]
  unfold openTarget Scoped.isOpen
  rw [hproject]
  split
  · exact h
  · simp only [entries_eq_iff, Scoped.find?_ensure, Overlays.environments?_openTarget, if_true,
      Overlays.environments, happlication, hbootstrap, hoverlays, hbootstrapOverlays, hdependencies,
      hproject, hproperties, hfresh, hseed, true_and]
    exact hplugins

theorem plugins_openTarget (g : Generation ε) (t : Target) :
    (g.openTarget t).plugins = g.plugins := by
  unfold openTarget
  split <;> rfl

/-! ## Dependencies and plugins -/

/-- A dependency goes into the list of its target, which starts empty, and nothing
else is changed. -/
theorem addDependency_eq (g : Generation ε) (t : Target) (d : Dependency) :
    ∃ lists : Scoped DependencyList,
      g.addDependency t d = ({ g with dependencies := lists },
        (((g.dependencies.find? t).getD .empty).add d g.resolver).map fun _ => ()) ∧
      ∀ u, lists.find? u =
        if u = t then some (((g.dependencies.find? t).getD .empty).attempt g.resolver d)
        else g.dependencies.find? u := by
  have hown : (g.dependencies.ensure t .empty).get t = (g.dependencies.find? t).getD .empty := by
    rw [Scoped.get, Scoped.find?_ensure, if_pos rfl, Option.getD_some]
  unfold addDependency DependencyList.attempt
  simp only [hown]
  cases ((g.dependencies.find? t).getD .empty).add d g.resolver with
  | error fault => exact ⟨_, rfl, fun u => Scoped.find?_ensure ..⟩
  | ok added =>
    refine ⟨_, rfl, fun u => ?_⟩
    rw [Scoped.find?_put, Scoped.find?_ensure]
    split <;> rfl

/-- A plugin goes into the plugin sets, and the resolver settles whether it is
refused. -/
theorem addPlugin_eq (g : Generation ε) (t : Target) (p : Plugin) :
    g.addPlugin t p = ({ g with plugins := g.plugins.attempt g.resolver (t, p) },
      (p.settled g.resolver).map fun _ => ()) := by
  unfold addPlugin PluginSets.attempt PluginSets.add
  cases p.settled g.resolver <;> rfl

/-! ## One write -/

namespace Write

theorem terms_answer (t : Target) (g : Generation ε) (w : Write) :
    (w.answer t g).1.terms = g.terms := by
  cases w with
  | configuration kind environment? f => cases kind <;> cases environment? <;> rfl
  | dependency d =>
    obtain ⟨lists, hadd, -⟩ := g.addDependency_eq t d
    rw [answer, hadd]
    rfl
  | properties f => rfl
  | plugin p =>
    rw [answer, addPlugin_eq]
    rfl

/-- A write leaves the entries of other targets alone. -/
theorem entries_answer_of_ne (hne : u ≠ t) (g : Generation ε) (w : Write) :
    (w.answer t g).1.entries u = g.entries u := by
  rw [entries_eq_iff]
  cases w with
  | configuration kind environment? f =>
    cases kind <;> cases environment? <;>
      simp [answer, updateConfiguration, Scoped.find?_update, Overlays.update,
        Overlays.environments?_put, hne]
  | dependency d =>
    obtain ⟨lists, hadd, hlists⟩ := g.addDependency_eq t d
    rw [answer, hadd]
    simp [hlists, hne]
  | properties f => simp [answer, updateProperties, Scoped.find?_update, hne]
  | plugin p =>
    rw [answer, addPlugin_eq]
    simp +contextual [PluginSets.find?_attempt, hne]

/-- What a write does to the entries of its target, and what it answers, is settled
by those entries. -/
theorem answer_congr (hterms : g.terms = g'.terms) (h : g.entries t = g'.entries t) (w : Write) :
    (w.answer t g).1.entries t = (w.answer t g').1.entries t ∧
      (w.answer t g).2 = (w.answer t g').2 := by
  have hterms := terms_eq_iff.1 hterms
  have hown := entries_eq_iff.1 h
  rw [entries_eq_iff]
  cases w with
  | configuration kind environment? f =>
    cases kind <;> cases environment? <;>
      simp +contextual [answer, updateConfiguration, Scoped.find?_update, Overlays.update,
        Overlays.environments?_put, handedOut, overlay?, overlays, Overlays.find?,
        Overlays.environments, hown]
  | dependency d =>
    obtain ⟨lists, hadd, hlists⟩ := g.addDependency_eq t d
    obtain ⟨lists', hadd', hlists'⟩ := g'.addDependency_eq t d
    rw [answer, answer, hadd, hadd']
    simp +contextual [hlists, hlists', hown, hterms]
  | properties f =>
    simp +contextual [answer, updateProperties, Scoped.find?_update, hown, hterms]
  | plugin p =>
    rw [answer, answer, addPlugin_eq, addPlugin_eq]
    simp +contextual [PluginSets.find?_attempt, hown, hterms]

/-! ### Opening the target and writing -/

theorem terms_perform (t : Target) (g : Generation ε) (w : Write) :
    (w.perform t g).1.terms = g.terms :=
  (w.terms_answer t _).trans (g.terms_openTarget t)

/-- **Frame of a write**: the entries of other targets stay as they are. -/
theorem entries_perform_of_ne (hne : u ≠ t) (g : Generation ε) (w : Write) :
    (w.perform t g).1.entries u = g.entries u :=
  (w.entries_answer_of_ne hne _).trans (entries_openTarget_of_ne hne g)

/-- **Locality of a write**: what it does to the entries of its target, and what it
answers, depends on those entries and on the terms. -/
theorem perform_congr (hterms : g.terms = g'.terms) (h : g.entries t = g'.entries t) (w : Write) :
    (w.perform t g).1.entries t = (w.perform t g').1.entries t ∧
      (w.perform t g).2 = (w.perform t g').2 := by
  have hopened : (g.openTarget t).terms = (g'.openTarget t).terms := by
    rw [terms_openTarget, terms_openTarget, hterms]
  exact w.answer_congr hopened (openTarget_congr hterms h)

/-- A write other than that of a plugin leaves the plugin sets alone. -/
theorem plugins_perform (t : Target) (g : Generation ε) (w : Write) :
    (w.perform t g).1.plugins =
      match w with
      | plugin p => g.plugins.attempt g.resolver (t, p)
      | _ => g.plugins := by
  have hplugins := g.plugins_openTarget t
  have hresolver : (g.openTarget t).resolver = g.resolver := by unfold openTarget; split <;> rfl
  cases w with
  | configuration kind environment? f =>
    rw [← hplugins]
    cases kind <;> cases environment? <;> rfl
  | dependency d =>
    obtain ⟨lists, hadd, -⟩ := (g.openTarget t).addDependency_eq t d
    rw [perform, answer, hadd]
    exact hplugins
  | properties f => exact hplugins
  | plugin p =>
    rw [perform, answer, addPlugin_eq, hplugins, hresolver]

end Write

/-! ## Whole runs -/

theorem boundTo_cons_self {α : Type} (t : Target) (a : α) (l : List (Target × α)) :
    boundTo t ((t, a) :: l) = (t, a) :: boundTo t l :=
  List.filter_cons_of_pos (decide_eq_true rfl)

theorem boundTo_cons_of_ne {α : Type} (hne : u ≠ t) (a : α) (l : List (Target × α)) :
    boundTo t ((u, a) :: l) = boundTo t l :=
  List.filter_cons_of_neg fun h => hne (of_decide_eq_true h)

/-- **A run as one target sees it** is the run of that target's writes, from any
state that has the same for the target. -/
theorem performAll_boundTo (writes : List (Target × Write)) (hterms : g.terms = g'.terms)
    (h : g.entries t = g'.entries t) :
    (performAll writes g).1.entries t = (performAll (boundTo t writes) g').1.entries t ∧
      boundTo t (performAll writes g).2 = (performAll (boundTo t writes) g').2 := by
  induction writes generalizing g g' with
  | nil => exact ⟨h, rfl⟩
  | cons first rest ih =>
    obtain ⟨u, w⟩ := first
    by_cases hu : u = t
    · -- a write of the target does the same on both sides
      subst hu
      obtain ⟨hentries, hanswer⟩ := w.perform_congr hterms h
      have hterms' : (w.perform u g).1.terms = (w.perform u g').1.terms := by
        rw [w.terms_perform, w.terms_perform, hterms]
      have hrest := ih hterms' hentries
      rw [boundTo_cons_self]
      refine ⟨hrest.1, ?_⟩
      show boundTo u ((u, (w.perform u g).2) :: _) = (u, (w.perform u g').2) :: _
      rw [boundTo_cons_self, hanswer, hrest.2]
    · -- a write of another target is left out on the right, and not seen on the left
      have hterms' : (w.perform u g).1.terms = g'.terms := (w.terms_perform u g).trans hterms
      have hentries : (w.perform u g).1.entries t = g'.entries t :=
        (w.entries_perform_of_ne (Ne.symm hu) g).trans h
      have hrest := ih hterms' hentries
      rw [boundTo_cons_of_ne hu]
      refine ⟨hrest.1, ?_⟩
      show boundTo t ((u, (w.perform u g).2) :: _) = _
      rw [boundTo_cons_of_ne hu, hrest.2]

/-- The plugins among the writes. -/
def additions (writes : List (Target × Write)) : List (Target × Plugin) :=
  writes.filterMap fun
    | (t, .plugin p) => some (t, p)
    | _ => none

theorem plugins_performAll (writes : List (Target × Write)) (g : Generation ε) :
    (performAll writes g).1.plugins = g.plugins.addAll g.resolver (additions writes) := by
  induction writes generalizing g with
  | nil => rfl
  | cons first rest ih =>
    obtain ⟨t, w⟩ := first
    have hresolver : (w.perform t g).1.resolver = g.resolver :=
      congrArg Terms.resolver (w.terms_perform t g)
    show (performAll rest (w.perform t g).1).1.plugins = _
    rw [ih, hresolver, w.plugins_perform]
    cases w <;> rfl

/-- Lists of writes that differ in how the targets' writes are mixed. -/
theorem perm_of_boundTo {writes writes' : List (Target × Write)}
    (h : ∀ t, boundTo t writes = boundTo t writes') : writes.Perm writes' := by
  classical
  -- a write occurs among all as often as among those of its target
  refine List.perm_iff_count.2 fun w => ?_
  have hcount : ∀ l : List (Target × Write), (boundTo w.1 l).count w = l.count w :=
    fun l => List.count_filter (decide_eq_true rfl)
  calc writes.count w = (boundTo w.1 writes).count w := (hcount writes).symm
    _ = (boundTo w.1 writes').count w := by rw [h]
    _ = writes'.count w := hcount writes'

/-- **Targets are isolated from each other.**  At the end of a run, what is stored
for a target and what its writes answered are what they are in the run of its
writes alone.  So runs that mix the writes of their targets in different ways end
in the same entries of every target, with the same answers, and the plugin sets
are the same, too, that of the shared module included. -/
theorem writes_isolated (g : Generation ε) (writes : List (Target × Write)) :
    (∀ t, (performAll writes g).1.entries t = (performAll (boundTo t writes) g).1.entries t ∧
      boundTo t (performAll writes g).2 = (performAll (boundTo t writes) g).2) ∧
    ∀ writes', (∀ t, boundTo t writes' = boundTo t writes) →
      (∀ t, (performAll writes' g).1.entries t = (performAll writes g).1.entries t ∧
        boundTo t (performAll writes' g).2 = boundTo t (performAll writes g).2) ∧
      (performAll writes' g).1.plugins = (performAll writes g).1.plugins := by
  refine ⟨fun t => performAll_boundTo writes rfl rfl, fun writes' h => ⟨fun t => ?_, ?_⟩⟩
  · obtain ⟨hentries, hanswers⟩ := performAll_boundTo (t := t) writes (g := g) rfl rfl
    obtain ⟨hentries', hanswers'⟩ := performAll_boundTo (t := t) writes' (g := g) rfl rfl
    rw [hentries, hanswers, hentries', hanswers', h]
    exact ⟨rfl, rfl⟩
  · have hadditions : (additions writes').Perm (additions writes) :=
      (perm_of_boundTo h).filterMap _
    rw [plugins_performAll, plugins_performAll, PluginSets.addAll_perm hadditions]

end Generation

end Fanout
