import Fanout.Plugin.Sets
import Fanout.Proofs.Fault
import Fanout.Proofs.SortedMap

/-!
# What the plugin sets collect

Plugins are added one after the other, under any targets, and an addition whose
artifact is unknown has no effect.  In the end a module's set is a condition on
the additions alone: what was settled under the module's own target, and for the
shared module also what the policy propagates from the others.  No order is left
in it.

## Main definitions

* `Plugin.source?` — the artifact that a plugin is resolved with.
* `PluginSets.attempt`, `PluginSets.addAll` — one addition, and all of them.

## Main statements

* `PluginSets.add_eq_error_iff` — when an addition fails, and with which fault.
* `PluginSets.mem_plugins_addAll` — what is in a set after additions to any sets.
* `PluginSets.addAll_perm` — the order of additions does not matter.
* `PluginSets.plugins_addAll_empty` — all of it, for sets that start empty.
-/

namespace Fanout

variable {known : Resolver}

/-! ## Settling a plugin -/

namespace Plugin

variable {p r : Plugin} {fault : Fault}

/-- The artifact whose coordinate a plugin is resolved with. -/
def source? : Plugin → Option String
  | gradle _ _ lookup? => lookup?
  | maven _ artifact _ _ => some artifact

/-- Resolving fails when there is an artifact to resolve and it is unknown. -/
theorem resolved_eq_error_iff : p.resolved known = .error fault ↔
    ∃ artifact, p.source? = some artifact ∧ known artifact = none ∧
      fault = .coordinateNotFound artifact := by
  have hsome : ∀ artifact, known.resolve artifact = .error fault ↔
      ∃ a, some artifact = some a ∧ known a = none ∧ fault = .coordinateNotFound a := by
    intro artifact
    rw [Resolver.resolve_eq_error_iff]
    simp
  cases p with
  | gradle id version? lookup? =>
    cases lookup? with
    | none => simp [resolved, source?]
    | some artifact => exact Fault.bind_pure_eq_error_iff.trans (hsome artifact)
  | maven group? artifact version? needsLookup =>
    exact Fault.bind_pure_eq_error_iff.trans (hsome artifact)

theorem settled_eq_error_iff : p.settled known = .error fault ↔ p.needsLookup = true ∧
    ∃ artifact, p.source? = some artifact ∧ known artifact = none ∧
      fault = .coordinateNotFound artifact := by
  unfold settled
  split
  next hlookup => simp [hlookup, resolved_eq_error_iff]
  next hlookup => simp [hlookup]

/-- A plugin that was resolved needs no lookup any more. -/
theorem needsLookup_of_resolved (h : p.resolved known = .ok r) (hlookup : p.needsLookup = true) :
    r.needsLookup = false := by
  cases p with
  | gradle id version? lookup? =>
    cases lookup? with
    | none => cases hlookup
    | some artifact =>
      obtain ⟨c, -, hr⟩ := Fault.bind_ok h
      obtain rfl := Except.ok.inj hr
      rfl
  | maven group? artifact version? needsLookup =>
    obtain ⟨c, -, hr⟩ := Fault.bind_ok h
    obtain rfl := Except.ok.inj hr
    rfl

/-- **A settled plugin needs no lookup.** -/
theorem needsLookup_of_settled (h : p.settled known = .ok r) : r.needsLookup = false := by
  unfold settled at h
  split at h
  next hlookup => exact needsLookup_of_resolved h hlookup
  next hlookup =>
    obtain rfl := Except.ok.inj h
    exact Bool.not_eq_true _ ▸ hlookup

end Plugin

namespace PluginSets

variable {s : PluginSets} {t u : Target} {p q r : Plugin}

/-! ## One addition -/

/-- **An addition fails** when the plugin needs a lookup and its artifact is
unknown. -/
theorem add_eq_error_iff {fault : Fault} : s.add t p known = .error fault ↔
    p.needsLookup = true ∧ ∃ artifact, p.source? = some artifact ∧ known artifact = none ∧
      fault = .coordinateNotFound artifact :=
  Fault.bind_pure_eq_error_iff.trans Plugin.settled_eq_error_iff

/-- The sets after a plugin was added, which are those before if it failed. -/
def attempt (known : Resolver) (s : PluginSets) (a : Target × Plugin) : PluginSets :=
  match s.add a.1 a.2 known with
  | .ok s' => s'
  | .error _ => s

theorem attempt_of_ok (h : p.settled known = .ok r) : attempt known s (t, p) = s.addSettled t r := by
  unfold attempt add
  rw [h]
  rfl

theorem attempt_of_error {fault : Fault} (h : p.settled known = .error fault) :
    attempt known s (t, p) = s := by
  unfold attempt add
  rw [h]
  rfl

theorem find?_putIn (s : PluginSets) (t : Target) (r : Plugin) (u : Target) :
    (s.putIn t r).sets.find? u =
      if u = t then some ((s.plugins u).insert r) else s.sets.find? u := by
  unfold putIn plugins
  rw [Scoped.find?_update]
  split
  next h => rw [h]
  next => rfl

/-- A settled plugin is put into the set of its target, and into that of the shared
module if it is propagated. -/
theorem find?_addSettled (s : PluginSets) (t : Target) (r : Plugin) (u : Target) :
    (s.addSettled t r).sets.find? u =
      if u = t ∨ u = .shared ∧ s.policy.propagates r = true then some ((s.plugins u).insert r)
      else s.sets.find? u := by
  unfold addSettled
  split
  next hpropagates =>
    rw [find?_putIn, plugins, find?_putIn]
    -- under the shared scope itself, the plugin is put into the same set twice
    by_cases hu : u = .shared
    · simp [hu, hpropagates, SortedSet.insert_insert]
    · simp [hu, plugins]
  next hpropagates => simp [find?_putIn, hpropagates]

theorem plugins_addSettled (s : PluginSets) (t : Target) (r : Plugin) (u : Target) :
    (s.addSettled t r).plugins u =
      if u = t ∨ u = .shared ∧ s.policy.propagates r = true then (s.plugins u).insert r
      else s.plugins u := by
  rw [plugins, find?_addSettled]
  split <;> rfl

theorem policy_addSettled (s : PluginSets) (t : Target) (r : Plugin) :
    (s.addSettled t r).policy = s.policy := by
  unfold addSettled
  split <;> rfl

theorem opened_shared_addSettled (s : PluginSets) (t : Target) (r : Plugin) :
    (s.addSettled t r).sets.opened.find? .shared = s.sets.opened.find? .shared := by
  have hput : ∀ (s : PluginSets) (t : Target),
      (s.putIn t r).sets.opened.find? .shared = s.sets.opened.find? .shared :=
    fun s t => Scoped.opened_shared_put s.sets t _
  unfold addSettled
  split
  · rw [hput, hput]
  · rw [hput]

/-- **Settled plugins are added in any order.** -/
theorem addSettled_comm (s : PluginSets) (t u : Target) (q r : Plugin) :
    (s.addSettled t q).addSettled u r = (s.addSettled u r).addSettled t q := by
  have hsets : ((s.addSettled t q).addSettled u r).sets =
      ((s.addSettled u r).addSettled t q).sets := by
    refine Scoped.ext_find? (fun v => ?_) ?_
    · simp only [find?_addSettled, plugins_addSettled, policy_addSettled]
      -- whether a set takes a plugin does not depend on what was added before
      by_cases ht : v = t ∨ v = .shared ∧ s.policy.propagates q = true
      · by_cases hu : v = u ∨ v = .shared ∧ s.policy.propagates r = true
        · simp only [if_pos ht, if_pos hu, SortedSet.insert_comm]
        · simp only [if_pos ht, if_neg hu]
      · simp only [if_neg ht]
    · simp only [opened_shared_addSettled]
  have hpolicy : ((s.addSettled t q).addSettled u r).policy =
      ((s.addSettled u r).addSettled t q).policy := by
    simp only [policy_addSettled]
  calc (s.addSettled t q).addSettled u r
      = ⟨((s.addSettled t q).addSettled u r).sets, ((s.addSettled t q).addSettled u r).policy⟩ := rfl
    _ = (s.addSettled u r).addSettled t q := by rw [hsets, hpolicy]

/-! ## All additions -/

/-- The sets after plugins were added one after the other. -/
def addAll (known : Resolver) (s : PluginSets) (adds : List (Target × Plugin)) : PluginSets :=
  adds.foldl (attempt known) s

theorem attempt_comm (s : PluginSets) (a b : Target × Plugin) :
    attempt known (attempt known s a) b = attempt known (attempt known s b) a := by
  obtain ⟨t, p⟩ := a
  obtain ⟨u, q⟩ := b
  cases hp : p.settled known with
  | error fault => rw [attempt_of_error hp, attempt_of_error hp]
  | ok p' =>
    cases hq : q.settled known with
    | error fault => rw [attempt_of_error hq, attempt_of_error hq]
    | ok q' =>
      rw [attempt_of_ok hp, attempt_of_ok hq, attempt_of_ok hq, attempt_of_ok hp, addSettled_comm]

/-- **The order of additions does not matter.** -/
theorem addAll_perm {adds adds' : List (Target × Plugin)} (h : adds.Perm adds') (s : PluginSets) :
    addAll known s adds = addAll known s adds' :=
  h.foldl_eq' (fun a _ b _ s => attempt_comm s a b) s

/-- A set is settled by what it was before an addition; that of a concrete target is
changed by additions under that target alone. -/
theorem find?_attempt (s : PluginSets) (a : Target × Plugin) (hu : u.isShared = false) :
    (attempt known s a).sets.find? u =
      if u = a.1 then
        match a.2.settled known with
        | .ok r => some (((s.sets.find? u).getD .empty).insert r)
        | .error _ => s.sets.find? u
      else s.sets.find? u := by
  obtain ⟨t, p⟩ := a
  have hshared : u ≠ .shared := fun h => by cases h ▸ hu
  cases hp : p.settled known with
  | error fault => simp [attempt_of_error hp]
  | ok r =>
    rw [attempt_of_ok hp, find?_addSettled]
    simp [hshared, plugins]

theorem policy_attempt (s : PluginSets) (a : Target × Plugin) :
    (attempt known s a).policy = s.policy := by
  obtain ⟨t, p⟩ := a
  cases hp : p.settled known with
  | error fault => rw [attempt_of_error hp]
  | ok r => rw [attempt_of_ok hp, policy_addSettled]

/-- One addition: what is in a set that was not there before was added under the
target of the set, or is propagated. -/
theorem mem_plugins_attempt : r ∈ (attempt known s (t, p)).plugins u ↔
    p.settled known = .ok r ∧ (u = t ∨ u = .shared ∧ s.policy.propagates r = true) ∨
      r ∈ s.plugins u := by
  cases hp : p.settled known with
  | error fault => simp [attempt_of_error hp]
  | ok q =>
    rw [attempt_of_ok hp, plugins_addSettled, Except.ok.injEq]
    split
    next hplace =>
      rw [SortedSet.mem_insert]
      constructor
      · rintro (rfl | hr)
        · exact Or.inl ⟨rfl, hplace⟩
        · exact Or.inr hr
      · exact Or.imp (fun h => h.1.symm) id
    next hplace =>
      refine (or_iff_right ?_).symm
      rintro ⟨rfl, h⟩
      exact hplace h

/-- **What additions collect.**  A plugin is in a set if it was there before, or was
settled for an addition under the target of the set, or, in the shared module,
for an addition under any target if the policy propagates it. -/
theorem mem_plugins_addAll (adds : List (Target × Plugin)) (s : PluginSets) :
    r ∈ (addAll known s adds).plugins u ↔
      (∃ t p, (t, p) ∈ adds ∧ p.settled known = .ok r ∧
        (u = t ∨ u = .shared ∧ s.policy.propagates r = true)) ∨ r ∈ s.plugins u := by
  induction adds generalizing s with
  | nil => simp [addAll]
  | cons a adds ih =>
    obtain ⟨t, p⟩ := a
    show r ∈ (addAll known (attempt known s (t, p)) adds).plugins u ↔ _
    rw [ih, mem_plugins_attempt, policy_attempt, ← or_assoc]
    refine or_congr_left ?_
    constructor
    · rintro (⟨t', p', hmem, h⟩ | h)
      · exact ⟨t', p', List.mem_cons_of_mem _ hmem, h⟩
      · exact ⟨t, p, List.mem_cons_self, h⟩
    · rintro ⟨t', p', hmem, h⟩
      rcases List.mem_cons.1 hmem with heq | hmem
      · obtain ⟨rfl, rfl⟩ := Prod.mk.inj heq
        exact Or.inr h
      · exact Or.inl ⟨t', p', hmem, h⟩

theorem notMem_plugins_empty (policy : PropagationPolicy) (t : Target) (r : Plugin) :
    r ∉ (empty policy).plugins t := by
  cases t <;> exact SortedSet.notMem_empty r

variable {policy : PropagationPolicy} {adds : List (Target × Plugin)}

/-- From nothing, a concrete target collects what was added under it. -/
theorem mem_plugins_addAll_empty_of_ne (ht : t ≠ .shared) :
    r ∈ (addAll known (.empty policy) adds).plugins t ↔
      ∃ p, (t, p) ∈ adds ∧ p.settled known = .ok r := by
  rw [mem_plugins_addAll, or_iff_left (notMem_plugins_empty policy t r)]
  constructor
  · rintro ⟨u, p, hmem, hp, rfl | ⟨hshared, -⟩⟩
    · exact ⟨p, hmem, hp⟩
    · exact absurd hshared ht
  · rintro ⟨p, hmem, hp⟩
    exact ⟨t, p, hmem, hp, Or.inl rfl⟩

/-- From nothing, the shared module collects what was added under it and what is
propagated to it. -/
theorem mem_plugins_addAll_empty_shared :
    r ∈ (addAll known (.empty policy) adds).plugins .shared ↔
      (∃ p, (.shared, p) ∈ adds ∧ p.settled known = .ok r) ∨
      ∃ t p, t ≠ .shared ∧ (t, p) ∈ adds ∧ p.settled known = .ok r ∧
        policy.propagates r = true := by
  rw [mem_plugins_addAll, or_iff_left (notMem_plugins_empty policy .shared r)]
  constructor
  · rintro ⟨t, p, hmem, hp, hplace⟩
    by_cases ht : t = .shared
    · subst ht
      exact Or.inl ⟨p, hmem, hp⟩
    · obtain hshared | ⟨-, hpropagates⟩ := hplace
      · exact absurd hshared.symm ht
      · exact Or.inr ⟨t, p, ht, hmem, hp, hpropagates⟩
  · rintro (⟨p, hmem, hp⟩ | ⟨t, p, -, hmem, hp, hpropagates⟩)
    · exact ⟨.shared, p, hmem, hp, Or.inl rfl⟩
    · exact ⟨t, p, hmem, hp, Or.inr ⟨rfl, hpropagates⟩⟩

/-- **What the sets of a run's modules collect**, from nothing.  A concrete target's
set is what was settled for the additions under it; the shared set, what was
settled for those under the shared scope and what the policy propagates of the
others.  An addition fails when it needs a lookup whose artifact is unknown, and
leaves the sets alone then; what is stored needs no lookup.  The order of the
additions does not matter, and what the policy keeps out is in the shared set
only if it was added there. -/
theorem plugins_addAll_empty (policy : PropagationPolicy) (known : Resolver)
    (adds : List (Target × Plugin)) :
    (∀ t, t ≠ .shared → ∀ r, r ∈ (addAll known (.empty policy) adds).plugins t ↔
      ∃ p, (t, p) ∈ adds ∧ p.settled known = .ok r) ∧
    (∀ r, r ∈ (addAll known (.empty policy) adds).plugins .shared ↔
      (∃ p, (.shared, p) ∈ adds ∧ p.settled known = .ok r) ∨
      ∃ t p, t ≠ .shared ∧ (t, p) ∈ adds ∧ p.settled known = .ok r ∧
        policy.propagates r = true) ∧
    (∀ (s : PluginSets) (t : Target) (p : Plugin),
      ((∃ fault, s.add t p known = .error fault) ↔
        p.needsLookup = true ∧ ∃ artifact, p.source? = some artifact ∧ known artifact = none) ∧
      ∀ fault, s.add t p known = .error fault → attempt known s (t, p) = s) ∧
    (∀ t, ∀ r ∈ (addAll known (.empty policy) adds).plugins t, r.needsLookup = false) ∧
    (∀ adds', adds.Perm adds' →
      addAll known (.empty policy) adds' = addAll known (.empty policy) adds) ∧
    ∀ r, policy.propagates r = false → r ∈ (addAll known (.empty policy) adds).plugins .shared →
      ∃ p, (.shared, p) ∈ adds ∧ p.settled known = .ok r := by
  refine ⟨fun t ht r => mem_plugins_addAll_empty_of_ne ht,
    fun r => mem_plugins_addAll_empty_shared, fun s t p => ⟨?_, ?_⟩, ?_,
    fun adds' h => (addAll_perm h _).symm, ?_⟩
  · simp only [add_eq_error_iff]
    constructor
    · rintro ⟨fault, hlookup, artifact, hsource, hknown, -⟩
      exact ⟨hlookup, artifact, hsource, hknown⟩
    · rintro ⟨hlookup, artifact, hsource, hknown⟩
      exact ⟨_, hlookup, artifact, hsource, hknown, rfl⟩
  · intro fault hfault
    exact attempt_of_error (Fault.bind_pure_eq_error_iff.1 hfault)
  · intro t r hr
    rw [mem_plugins_addAll, or_iff_left (notMem_plugins_empty policy t r)] at hr
    obtain ⟨u, p, -, hp, -⟩ := hr
    exact Plugin.needsLookup_of_settled hp
  · intro r hexcluded hr
    rcases mem_plugins_addAll_empty_shared.1 hr with hadded | ⟨t, p, -, -, -, hpropagates⟩
    · exact hadded
    · rw [hexcluded] at hpropagates
      cases hpropagates

end PluginSets

end Fanout
