import Fanout.Proofs.Generation.Schedule
import Fanout.Proofs.Partition.Membership

/-!
# Which capabilities are applied at all

A capability of a run belongs to no set when it is for a target and its own gate
is missing: its gate keeps it out of the targets, and its target keeps it out of
the shared scope.  Every other capability is in some set, and is applied.

## Main statements

* `Partition.mem_subset_iff` — who is in some set of a partition.
* `Partition.placed_and_applied_iff` — the same said of a whole run.
-/

namespace Fanout.Partition

variable {ε ρ : Type} {cs : List (Capability ε)} {selection : Selection}
  {policy : SingletonPolicy} {p : Partition ε} {c : Capability ε}

/-- **A capability is in some set** unless it is for a target and gated out. -/
theorem mem_subset_iff (h : compute cs selection policy = .ok p) (hc : c ∈ p.all) :
    (c ∈ p.shared ∨ ∃ t set, p.byTarget.find? t = some set ∧ c ∈ set) ↔
      c.isNeutral = true ∨ ¬ GatedOut cs c := by
  have hfirst : c ∈ firsts cs := (mem_all h).1 hc
  -- what makes a target active is in its set
  have hown : ∀ t, c ∈ own cs selection t (firsts cs) →
      ∃ t set, p.byTarget.find? t = some set ∧ c ∈ set := by
    intro t hmem
    obtain ⟨set, hset⟩ := (SortedMap.mem_keys_iff _).1 ((mem_concreteTargets h).2 ⟨c, hmem⟩)
    exact ⟨t, set, hset, (mem_targetSet h hset).2 (Or.inl hmem)⟩
  constructor
  · rintro (hshared | ⟨t, set, hset, hmem⟩)
    · exact Or.inl ((mem_shared h).1 hshared).2.1
    · rcases (mem_targetSet h hset).1 hmem with hmem | hmem
      · exact Or.inr (mem_own.1 hmem).2.1
      · exact Or.inl (mem_neutrals.1 (mem_common.1 hmem).1).2.2
  · intro hwhy
    by_cases hneutral : c.isNeutral = true
    · by_cases hgate : GatedOut cs c
      · exact Or.inl ((mem_shared h).2 ⟨hc, hneutral, Or.inr (Or.inr (Or.inl hgate))⟩)
      by_cases htargets : ∀ t, t ∉ selection.targets c.name
      · exact Or.inl ((mem_shared h).2 ⟨hc, hneutral, Or.inr (Or.inr (Or.inr htargets))⟩)
      · obtain ⟨t, ht⟩ := Classical.not_forall_not.1 htargets
        exact Or.inr (hown t (mem_own.2 ⟨hfirst, hgate, Or.inr ⟨hneutral, ht⟩⟩))
    · have hgate : ¬ GatedOut cs c := hwhy.resolve_left hneutral
      rw [Bool.not_eq_true, Capability.isNeutral_eq_false_iff] at hneutral
      obtain ⟨t, hfor⟩ := hneutral
      exact Or.inr (hown t (mem_own.2 ⟨hfirst, hgate, Or.inl hfor⟩))

/-- **Which capabilities a run applies.**  A capability is in the shared set or in
the set of a target, and a run that no fault stops applies it, unless it is for a
target and gated out. -/
theorem placed_and_applied_iff (h : compute cs selection policy = .ok p) (hc : c ∈ p.all) :
    ((c ∈ p.shared ∨ ∃ t set, p.byTarget.find? t = some set ∧ c ∈ set) ↔
      c.isNeutral = true ∨ ¬ GatedOut cs c) ∧
    ∀ (behave : Behaviour ε ρ) (g : Generation ε), g.partition = p →
      (g.apply behave).fault? = none →
      ((∃ e ∈ (g.apply behave).log, e.capability = c.name) ↔
        c.isNeutral = true ∨ ¬ GatedOut cs c) := by
  refine ⟨mem_subset_iff h hc, fun behave g hg hfault => ?_⟩
  subst hg
  rw [← mem_subset_iff h hc]
  have hlog := (Generation.follows_apply behave g).complete hfault
  have hscheduled : (∃ e ∈ (g.apply behave).log, e.capability = c.name) ↔
      ∃ t, (c.name, t) ∈ g.partition.schedule := by
    rw [← hlog]
    constructor
    · rintro ⟨e, he, hname⟩
      exact ⟨e.target, List.mem_map.2 ⟨e, he, Prod.ext hname rfl⟩⟩
    · rintro ⟨t, ht⟩
      obtain ⟨e, he, hplace⟩ := List.mem_map.1 ht
      exact ⟨e, he, congrArg Prod.fst hplace⟩
  rw [hscheduled]
  constructor
  · rintro ⟨t, ht⟩
    obtain ⟨set, hset, hname⟩ := mem_schedule.1 ht
    obtain ⟨d, hd, hname⟩ := FeatureSet.contains_iff.1 hname
    obtain rfl := FeatureSet.eq_of_name_eq (mem_all_of_mem_subset h hset hd) hc hname
    unfold subset? at hset
    split at hset
    · obtain rfl := Option.some.inj hset
      exact Or.inl hd
    · exact Or.inr ⟨t, set, hset, hd⟩
  · rintro (hshared | ⟨t, set, hset, hmem⟩)
    · exact ⟨.shared, mem_schedule.2 ⟨_, rfl, FeatureSet.contains_iff.2 ⟨c, hshared, rfl⟩⟩⟩
    · exact ⟨t, mem_schedule.2
        ⟨set, subset?_of_find?_byTarget h hset, FeatureSet.contains_iff.2 ⟨c, hmem, rfl⟩⟩⟩

/-- A capability for the AWS target that wants the GCP target in the build. -/
def queue : Capability Unit :=
  { name := "queue", target? := some .aws, gate? := some .gcp, effect := () }

/-- Alone, it is in no set. -/
theorem queue_not_placed :
    ∃ p, compute [queue] .empty .keepFirst = .ok p ∧ queue ∈ p.all ∧
      ¬ (queue ∈ p.shared ∨ ∃ t set, p.byTarget.find? t = some set ∧ queue ∈ set) := by
  have hcompute : compute [queue] .empty .keepFirst = .ok _ := rfl
  refine ⟨_, hcompute, rfl, fun hplaced => ?_⟩
  have hwhy := (mem_subset_iff hcompute rfl).1 hplaced
  revert hwhy
  decide

/-- A neutral capability that wants the GCP target in the build. -/
def gauge : Capability Unit := { name := "gauge", gate? := some .gcp, effect := () }

/-- A plan without the GCP target, which two capabilities want. -/
def gatedPlan : GenerationPlan Unit where
  project := .parse "com.example.demo"
  capabilities := [gauge, queue, metrics]

/-- A behaviour that never fails. -/
def comply : Behaviour Unit Unit := fun _ _ g => (g, (), none)

/-- Of two capabilities that are gated out, the neutral one is applied, and the one for a
target is not.  A capability without a gate is applied beside them. -/
theorem all_applied_but_queue :
    GatedOut gatedPlan.capabilities gauge ∧ GatedOut gatedPlan.capabilities queue ∧
    ∃ g, Generation.start gatedPlan = .ok g ∧
      (∃ e ∈ (g.apply comply).log, e.capability = "gauge") ∧
      (queue ∈ g.partition.all ∧ ¬ ∃ e ∈ (g.apply comply).log, e.capability = "queue") ∧
      ∃ e ∈ (g.apply comply).log, e.capability = "metrics" := by
  obtain ⟨g, hg, hcompute, hgauge, hqueue, hmetrics⟩ : ∃ g, Generation.start gatedPlan = .ok g ∧
      compute gatedPlan.capabilities .empty .keepFirst = .ok g.partition ∧
      gauge ∈ g.partition.all ∧ queue ∈ g.partition.all ∧ metrics ∈ g.partition.all :=
    ⟨_, rfl, rfl, rfl, rfl, rfl⟩
  have hfault : (g.apply comply).fault? = none := Generation.apply_faultless (fun _ _ _ => rfl) g
  have happlied : ∀ c ∈ g.partition.all, (∃ e ∈ (g.apply comply).log, e.capability = c.name) ↔
      c.isNeutral = true ∨ ¬ GatedOut gatedPlan.capabilities c :=
    fun c hc => (placed_and_applied_iff hcompute hc).2 comply g rfl hfault
  refine ⟨by decide, by decide, g, hg, ?_, ⟨hqueue, ?_⟩, ?_⟩
  · exact (happlied gauge hgauge).2 (Or.inl rfl)
  · exact mt (happlied queue hqueue).1 (by decide)
  · exact (happlied metrics hmetrics).2 (Or.inr (by decide))

end Fanout.Partition
