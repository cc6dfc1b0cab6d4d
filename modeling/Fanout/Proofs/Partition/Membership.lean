import Fanout.Proofs.Partition.Pass

/-!
# Who is in which set

A partition says of every capability of a run where it is applied.  Membership
in each of its sets is a condition on the run and on the caller's choices.

## Main definitions

* `Partition.GatedOut` — a capability's gate is missing from the run.
* `Partition.common` — the capabilities that every active target has.

## Main statements

* `mem_shared` — who is in the shared set.
* `byTarget_compute` — which targets are active, and who is in their sets.

## Design notes

The order of a run matters in one place: a role that several capabilities claim
goes to the first of them.
-/

namespace Fanout.Partition

variable {ε : Type} {cs ds : List (Capability ε)} {selection : Selection}
  {policy : SingletonPolicy} {p : Partition ε} {c : Capability ε} {t : Target}

/-! ## Gates -/

/-- **A capability is gated out** when its gate is a target that no capability of
the run is for. -/
def GatedOut (cs : List (Capability ε)) (c : Capability ε) : Prop :=
  ∃ gate, c.gate? = some gate ∧ ∀ d ∈ cs, d.isFor gate = false

theorem isGatedOut_iff : isGatedOut cs c = true ↔ GatedOut cs c := by
  unfold isGatedOut GatedOut isDeclared
  cases hgate : c.gate? with
  | none => simp
  | some gate => simp

instance (cs : List (Capability ε)) (c : Capability ε) : Decidable (GatedOut cs c) :=
  decidable_of_iff _ isGatedOut_iff

theorem isGatedOut_eq_false_iff : isGatedOut cs c = false ↔ ¬ GatedOut cs c := by
  rw [← isGatedOut_iff, Bool.not_eq_true]

/-! ## The parts of a run -/

/-- The capabilities that every active target has. -/
def common (cs : List (Capability ε)) (selection : Selection) (ds : List (Capability ε)) :
    List (Capability ε) :=
  (neutrals cs ds).filter isIncluded
    ++ (neutrals cs ds).filter (fun c => selection.isSelected c.name)
    ++ singletonRoles.filterMap fun role => (claimants cs ds role).head?

theorem mem_neutrals : c ∈ neutrals cs ds ↔ c ∈ ds ∧ ¬ GatedOut cs c ∧ c.isNeutral = true := by
  rw [neutrals, List.mem_filter, Bool.and_eq_true, Bool.not_eq_true', isGatedOut_eq_false_iff,
    and_comm (a := c.isNeutral = true)]

theorem mem_own : c ∈ own cs selection t ds ↔ c ∈ ds ∧ ¬ GatedOut cs c ∧
    (c.isFor t = true ∨ c.isNeutral = true ∧ t ∈ selection.targets c.name) := by
  rw [own, List.mem_filter, activates, Bool.and_eq_true, Bool.not_eq_true', Bool.or_eq_true,
    Bool.and_eq_true, isGatedOut_eq_false_iff]
  rfl

theorem mem_common : c ∈ common cs selection ds ↔ c ∈ neutrals cs ds ∧
    (isIncluded c = true ∨ selection.isSelected c.name = true ∨
      ∃ role, (claimants cs ds role).head? = some c) := by
  unfold common
  rw [List.mem_append, List.mem_append, List.mem_filter, List.mem_filter, List.mem_filterMap]
  constructor
  · rintro ((⟨hc, h⟩ | ⟨hc, h⟩) | ⟨role, -, h⟩)
    · exact ⟨hc, Or.inl h⟩
    · exact ⟨hc, Or.inr (Or.inl h)⟩
    · exact ⟨(List.mem_filter.1 (List.mem_of_head? h)).1, Or.inr (Or.inr ⟨role, h⟩)⟩
  · rintro ⟨hc, h | h | ⟨role, h⟩⟩
    · exact Or.inl (Or.inl ⟨hc, h⟩)
    · exact Or.inl (Or.inr ⟨hc, h⟩)
    · exact Or.inr ⟨role, mem_singletonRoles role, h⟩

theorem isIncluded_iff : isIncluded c = true ↔
    c.roles.default = true ∧ c.roles.build = false ∧ c.gate? = none := by
  simp [isIncluded, and_assoc]

/-! ## The sets of a partition -/

/-- A partition is what the pass has collected when it is over. -/
theorem compute_ok (h : compute cs selection policy = .ok p) :
    ∃ s, Gathered.Covers cs selection (firsts cs) s ∧ p = s.partition selection := by
  obtain ⟨s, hpass, hp⟩ := Fault.bind_ok h
  exact ⟨s, Gathered.covers_of_pass hpass, (Except.ok.inj hp).symm⟩

theorem mem_all (h : compute cs selection policy = .ok p) : c ∈ p.all ↔ c ∈ firsts cs := by
  obtain ⟨s, hs, rfl⟩ := compute_ok h
  show c ∈ s.all ↔ _
  rw [hs.all]
  exact FeatureSet.mem_ofList (unambiguous_firsts cs)

/-- The set of a target: those that make it active, and what all of them have. -/
theorem find?_byTarget (h : compute cs selection policy = .ok p) (t : Target) :
    p.byTarget.find? t = (setOf? (own cs selection t (firsts cs))).map fun set =>
      set.insertAll (common cs selection (firsts cs)) := by
  obtain ⟨s, hs, rfl⟩ := compute_ok h
  have hcommon : s.common = common cs selection (firsts cs) := by
    unfold Gathered.common common
    rw [hs.included, hs.specified, funext hs.holder]
  show (s.byTarget.mapValues _).find? t = _
  rw [SortedMap.find?_mapValues, hs.byTarget, hcommon]

/-- A target is active when some capability makes it so. -/
theorem mem_concreteTargets (h : compute cs selection policy = .ok p) :
    t ∈ p.concreteTargets ↔ ∃ c, c ∈ own cs selection t (firsts cs) := by
  rw [concreteTargets, SortedMap.mem_keys_iff, find?_byTarget h]
  unfold setOf?
  cases own cs selection t (firsts cs) with
  | nil => simp
  | cons d ds => simp

/-- The shared scope has no entry among the targets. -/
theorem shared_notMem_concreteTargets (h : compute cs selection policy = .ok p) :
    .shared ∉ p.concreteTargets := by
  rw [mem_concreteTargets h]
  rintro ⟨c, hc⟩
  obtain ⟨-, -, hfor | ⟨-, htarget⟩⟩ := mem_own.1 hc
  · exact (Capability.isFor_iff.1 hfor).2 rfl
  · exact selection.shared_notMem_targets _ htarget

theorem mem_targetSet (h : compute cs selection policy = .ok p) {set : FeatureSet ε}
    (hset : p.byTarget.find? t = some set) :
    c ∈ set ↔ c ∈ own cs selection t (firsts cs) ∨ c ∈ common cs selection (firsts cs) := by
  rw [find?_byTarget h, Option.map_eq_some_iff] at hset
  obtain ⟨ownSet, hown, rfl⟩ := hset
  unfold setOf? at hown
  split at hown
  · cases hown
  obtain rfl := Option.some.inj hown
  rw [← FeatureSet.ofList_append, FeatureSet.mem_ofList, List.mem_append]
  refine (unambiguous_firsts cs).subset fun d hd => ?_
  rcases List.mem_append.1 hd with hd | hd
  · exact (mem_own.1 hd).1
  · exact (mem_neutrals.1 (mem_common.1 hd).1).1

/-- **Who is in the shared set.**  A neutral capability is, if it has one of the
roles that the shared scope always has, or is gated out, or is propagated
nowhere. -/
theorem mem_shared (h : compute cs selection policy = .ok p) :
    c ∈ p.shared ↔ c ∈ p.all ∧ c.isNeutral = true ∧
      (c.roles.buildPlugin = true ∨ c.roles.sharedService = true ∨ GatedOut cs c ∨
        ∀ t, t ∉ selection.targets c.name) := by
  obtain ⟨s, hs, rfl⟩ := compute_ok h
  show c ∈ FeatureSet.ofList (s.all.toList.filter (s.staysShared selection)) ↔ c ∈ s.all ∧ _
  rw [FeatureSet.mem_ofList (s.all.unambiguous_toList.subset List.filter_sublist.subset),
    List.mem_filter, FeatureSet.mem_toList]
  refine and_congr_right fun hc => ?_
  have hgated : s.gatedOut.contains c.name = true ↔ GatedOut cs c := by
    show c.name ∈ s.gatedOut ↔ _
    rw [hs.gatedOut, SortedSet.mem_ofList, List.mem_map, ← isGatedOut_iff]
    rw [hs.all, FeatureSet.mem_ofList (unambiguous_firsts cs)] at hc
    constructor
    · rintro ⟨d, hd, hname⟩
      obtain ⟨hd, hgate⟩ := List.mem_filter.1 hd
      rwa [unambiguous_firsts cs d hd c hc hname] at hgate
    · intro hgate
      exact ⟨c, List.mem_filter.2 ⟨hc, hgate⟩, rfl⟩
  have hpropagated : selection.isPropagated c.name = false ↔ ∀ t, t ∉ selection.targets c.name := by
    rw [← Bool.not_eq_true, Selection.isPropagated_iff, not_exists]
  simp only [Gathered.staysShared, Bool.and_eq_true, Bool.or_eq_true, Bool.not_eq_true', hgated,
    hpropagated, or_assoc]

/-- What is in a set is among the first capabilities of their names. -/
theorem mem_all_of_mem_subset (h : compute cs selection policy = .ok p) {t : Target}
    {set : FeatureSet ε} (hset : p.subset? t = some set) (hc : c ∈ set) : c ∈ p.all := by
  unfold subset? at hset
  split at hset
  · obtain rfl := Option.some.inj hset
    exact ((mem_shared h).1 hc).1
  · rw [mem_all h]
    rcases (mem_targetSet h hset).1 hc with hown | hcommon
    · exact (mem_own.1 hown).1
    · exact (mem_neutrals.1 (mem_common.1 hcommon).1).1

/-- An active target's set is the one that the target is generated with. -/
theorem subset?_of_find?_byTarget (h : compute cs selection policy = .ok p) {t : Target}
    {set : FeatureSet ε} (hset : p.byTarget.find? t = some set) : p.subset? t = some set := by
  unfold subset?
  rw [if_neg, hset]
  intro ht
  obtain rfl := Target.isShared_iff.1 ht
  exact shared_notMem_concreteTargets h ((SortedMap.mem_keys_iff _).2 ⟨set, hset⟩)

/-! ## Targets and their sets -/

/-- **The targets of a run and their sets**, for the caller's choices.  A
concrete target is active when an admitted capability is for it, or is neutral
and propagated to it.  Its set has the admitted capabilities that are for it,
and the neutral ones that are included without being selected, selected,
propagated to it, or the first to claim a singleton role. -/
theorem byTarget_compute (cs : List (Capability ε)) (choices : List Selection.Choice)
    (policy : SingletonPolicy) {p : Partition ε}
    (h : compute cs (.ofChoices choices) policy = .ok p) :
    (∀ c, c ∈ p.all ↔ (cs.find? fun d => d.name == c.name) = some c) ∧
    (∀ t, t ≠ .shared → (t ∈ p.concreteTargets ↔
      ∃ c ∈ p.all, ¬ GatedOut cs c ∧
        (c.isFor t = true ∨ c.isNeutral = true ∧ .propagate c.name t ∈ choices))) ∧
    (∀ t set, p.byTarget.find? t = some set → ∀ c, c ∈ set ↔
      c ∈ p.all ∧ ¬ GatedOut cs c ∧
        (c.isFor t = true ∨
          c.isNeutral = true ∧
            (c.roles.default = true ∧ c.roles.build = false ∧ c.gate? = none ∨
              .select c.name ∈ choices ∨ .propagate c.name t ∈ choices ∨
              ∃ role, (claimants cs (firsts cs) role).head? = some c))) ∧
    .shared ∉ p.concreteTargets ∧
    (p.isSingleModule = true ↔ p.activeTargets = [.shared]) := by
  have htargets : ∀ (name : String) (t : Target), t ≠ .shared →
      (t ∈ (Selection.ofChoices choices).targets name ↔ .propagate name t ∈ choices) := by
    intro name t ht
    rw [Selection.mem_targets_ofChoices]
    exact and_iff_left ht
  have hshared := shared_notMem_concreteTargets h
  refine ⟨fun c => ?_, fun t ht => ?_, fun t set hset c => ?_, hshared, ?_⟩
  · rw [mem_all h, mem_firsts]
  · rw [mem_concreteTargets h]
    refine exists_congr fun c => ?_
    rw [mem_own, mem_all h, htargets _ _ ht]
  · have ht : t ≠ .shared := by
      rintro rfl
      exact hshared ((SortedMap.mem_keys_iff _).2 ⟨set, hset⟩)
    rw [mem_targetSet h hset, mem_own, mem_common, mem_neutrals, mem_all h, isIncluded_iff,
      Selection.isSelected_ofChoices, htargets _ _ ht]
    constructor
    · rintro (⟨hc, hgate, hfor | ⟨hneutral, htarget⟩⟩ | ⟨⟨hc, hgate, hneutral⟩, hwhy⟩)
      · exact ⟨hc, hgate, Or.inl hfor⟩
      · exact ⟨hc, hgate, Or.inr ⟨hneutral, Or.inr (Or.inr (Or.inl htarget))⟩⟩
      · refine ⟨hc, hgate, Or.inr ⟨hneutral, ?_⟩⟩
        exact hwhy.imp_right (Or.imp_right Or.inr)
    · rintro ⟨hc, hgate, hfor | ⟨hneutral, hincluded | hselected | htarget | hclaim⟩⟩
      · exact Or.inl ⟨hc, hgate, Or.inl hfor⟩
      · exact Or.inr ⟨⟨hc, hgate, hneutral⟩, Or.inl hincluded⟩
      · exact Or.inr ⟨⟨hc, hgate, hneutral⟩, Or.inr (Or.inl hselected)⟩
      · exact Or.inl ⟨hc, hgate, Or.inr ⟨hneutral, htarget⟩⟩
      · exact Or.inr ⟨⟨hc, hgate, hneutral⟩, Or.inr (Or.inr hclaim)⟩
  · rw [isSingleModule, SortedMap.isEmpty_iff, activeTargets, concreteTargets,
      List.append_left_eq_self]

/-- A capability for the AWS target. -/
def metrics : Capability Unit := { name := "metrics", target? := some .aws, effect := () }

/-- A neutral capability that gives the application its identity. -/
def shop : Capability Unit :=
  { name := "shop", roles := { application := true }, gate? := some .aws, effect := () }

/-- A capability whose gate is in the run fills a role in the targets. -/
theorem byTarget_compute_shop :
    ∃ p set, compute [shop, metrics] (.ofChoices []) .reject = .ok p ∧
      p.byTarget.find? .aws = some set ∧ shop ∈ set := by
  refine ⟨_, _, rfl, rfl, ?_⟩
  have h := byTarget_compute [shop, metrics] [] .reject rfl
  have hrole : (claimants [shop, metrics] (firsts [shop, metrics]) .application).head? =
      some shop := rfl
  exact (h.2.2.1 .aws _ rfl shop).2
    ⟨(h.1 shop).2 rfl, by decide, Or.inr ⟨rfl, Or.inr (Or.inr (Or.inr ⟨_, hrole⟩))⟩⟩

end Fanout.Partition
