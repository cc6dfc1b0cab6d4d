import Fanout.Proofs.Partition.Membership

/-!
# Gates

A gate names a target without which a capability stays out of every target.  What
counts is whether some capability of the run is for that target.  This is not the
same as the target being active: a target can be active by propagation alone, and
a capability for a target need not be kept.  The shared scope is no target that a
capability is for, so a gate that names it is never open.

## Main statements

* `Partition.mem_targetSet_of_gate` — a selected capability with a gate is in the
  sets of all targets or in none, as its gate is declared.
* `Partition.shared_compute` — who is in the shared set, for the caller's choices,
  and that every set takes its members from the first of each name.
-/

namespace Fanout.Partition

variable {ε : Type} {cs : List (Capability ε)} {selection : Selection}
  {policy : SingletonPolicy} {p : Partition ε} {c : Capability ε} {t gate : Target}
  {set : FeatureSet ε}

/-! ## Open and closed gates -/

/-- A gate is closed when no capability of the run declares its target, and when
it is the shared scope. -/
theorem gatedOut_iff_of_gate (hgate : c.gate? = some gate) :
    GatedOut cs c ↔ ∀ d ∈ cs, d.target? = some gate → gate = .shared := by
  unfold GatedOut
  rw [hgate]
  constructor
  · rintro ⟨gate', heq, hclosed⟩ d hd htarget
    obtain rfl := Option.some.inj heq
    refine Decidable.byContradiction fun hconcrete => ?_
    have hopen : d.isFor gate = true := Capability.isFor_iff.2 ⟨htarget, hconcrete⟩
    rw [hclosed d hd] at hopen
    cases hopen
  · intro hclosed
    refine ⟨gate, rfl, fun d hd => ?_⟩
    rw [← Bool.not_eq_true, Capability.isFor_iff]
    rintro ⟨htarget, hconcrete⟩
    exact hconcrete (hclosed d hd htarget)

/-- For a gate that is a concrete target, it is open when the run declares it. -/
theorem gatedOut_iff_of_concrete_gate (hgate : c.gate? = some gate) (hconcrete : gate ≠ .shared) :
    GatedOut cs c ↔ ∀ d ∈ cs, d.target? ≠ some gate := by
  rw [gatedOut_iff_of_gate hgate]
  exact forall₂_congr fun _ _ => imp_congr_right fun _ => iff_false_intro hconcrete

/-! ## Target sets -/

/-- A capability that is gated out is in no target's set. -/
theorem notMem_targetSet_of_gatedOut (h : compute cs selection policy = .ok p)
    (hset : p.byTarget.find? t = some set) (hgate : GatedOut cs c) : c ∉ set := by
  rw [mem_targetSet h hset]
  rintro (hown | hcommon)
  · exact (mem_own.1 hown).2.1 hgate
  · exact (mem_neutrals.1 (mem_common.1 hcommon).1).2.1 hgate

/-- A selected neutral capability that its gate admits is in every target's set. -/
theorem mem_targetSet_of_isSelected (h : compute cs selection policy = .ok p)
    (hset : p.byTarget.find? t = some set) (hc : c ∈ p.all) (hgate : ¬ GatedOut cs c)
    (hneutral : c.isNeutral = true) (hselected : selection.isSelected c.name = true) :
    c ∈ set := by
  rw [mem_targetSet h hset]
  refine Or.inr (mem_common.2 ⟨mem_neutrals.2 ⟨?_, hgate, hneutral⟩, Or.inr (Or.inl hselected)⟩)
  rwa [← mem_all h]

/-- **A selected capability with a gate.**  If some capability of the run is for
the gate's target, whatever becomes of that one, it is in the set of every active
target; else it is in the set of none. -/
theorem mem_targetSet_of_gate (h : compute cs selection policy = .ok p) (hc : c ∈ p.all)
    (hneutral : c.isNeutral = true) (hselected : selection.isSelected c.name = true)
    (hgate : c.gate? = some gate) (hconcrete : gate ≠ .shared) :
    ((∃ d ∈ cs, d.target? = some gate) →
      ∀ t set, p.byTarget.find? t = some set → c ∈ set) ∧
    ((∀ d ∈ cs, d.target? ≠ some gate) →
      ∀ t set, p.byTarget.find? t = some set → c ∉ set) := by
  have hclosed : GatedOut cs c ↔ ∀ d ∈ cs, d.target? ≠ some gate :=
    gatedOut_iff_of_concrete_gate hgate hconcrete
  constructor
  · rintro ⟨d, hd, htarget⟩ t set hset
    have hopen : ¬ GatedOut cs c := fun hout => hclosed.1 hout d hd htarget
    exact mem_targetSet_of_isSelected h hset hc hopen hneutral hselected
  · intro hnone t set hset
    exact notMem_targetSet_of_gatedOut h hset (hclosed.2 hnone)

/-- A neutral capability that wants the AWS target in the build. -/
def lambda : Capability Unit := { name := "lambda", gate? := some .aws, effect := () }

/-- A neutral capability without a gate. -/
def tracing : Capability Unit := { name := "tracing", effect := () }

/-- A capability for the AWS target that wants the Azure target in the build. -/
def relay : Capability Unit :=
  { name := "relay", target? := some .aws, gate? := some .azure, effect := () }

/-- A capability for the GCP target. -/
def streaming : Capability Unit := { name := "streaming", target? := some .gcp, effect := () }

/-- The gate of `lambda` is open when `metrics` is in the run. -/
theorem mem_targetSet_of_gate_metrics :
    ∃ p set, compute [lambda, metrics, streaming] (.ofChoices [.select "lambda"]) .reject = .ok p ∧
      p.byTarget.find? .gcp = some set ∧ lambda ∈ set := by
  have hcompute :
      compute [lambda, metrics, streaming] (.ofChoices [.select "lambda"]) .reject = .ok _ := rfl
  refine ⟨_, _, hcompute, rfl, ?_⟩
  have hgate := mem_targetSet_of_gate hcompute (c := lambda) rfl rfl rfl rfl (by decide)
  exact hgate.1 ⟨metrics, by simp, rfl⟩ .gcp _ rfl

/-- **An active target need not open a gate, nor an inactive one close it.**
Propagation makes the AWS target active, and `lambda` is not in its set; without
`relay`, which its own gate keeps out, nothing is for that target, and `lambda` is
in the set of the GCP target. -/
theorem active_target_ne_open_gate :
    (lambda.isNeutral = true ∧ lambda.gate? = some .aws) ∧
    (∃ p set, compute [lambda, tracing]
        (.ofChoices [.select "lambda", .propagate "tracing" .aws]) .keepFirst = .ok p ∧
      lambda ∈ p.all ∧ .aws ∈ p.concreteTargets ∧
      p.byTarget.find? .aws = some set ∧ lambda ∉ set) ∧
    (∃ p set,
      compute [lambda, relay, streaming] (.ofChoices [.select "lambda"]) .keepFirst = .ok p ∧
      lambda ∈ p.all ∧ .aws ∉ p.concreteTargets ∧
      p.byTarget.find? .gcp = some set ∧ lambda ∈ set) := by
  refine ⟨⟨rfl, rfl⟩, ⟨_, _, rfl, rfl, by decide, rfl, ?_⟩, ⟨_, _, rfl, rfl, by decide, rfl, rfl⟩⟩
  intro hmem
  cases hmem

/-! ## The shared set -/

/-- **The shared set**, for the caller's choices.  A neutral capability is in it if
it has a role that the shared scope always has, or is propagated to no concrete
target, or is gated out: nothing in the run declares its gate, or its gate is the
shared scope.  What any set has under a name is the first capability of the name. -/
theorem shared_compute (cs : List (Capability ε)) (choices : List Selection.Choice)
    (policy : SingletonPolicy) {p : Partition ε}
    (h : compute cs (.ofChoices choices) policy = .ok p) :
    (∀ c, c ∈ p.all ↔ (cs.find? fun d => d.name == c.name) = some c) ∧
    (∀ c, c ∈ p.shared ↔
      c ∈ p.all ∧ (c.target? = none ∨ c.target? = some .shared) ∧
        (c.roles.buildPlugin = true ∨ c.roles.sharedService = true ∨
          (∃ gate, c.gate? = some gate ∧
            ∀ d ∈ cs, d.target? = some gate → gate = .shared) ∨
          ∀ t, t ≠ .shared → .propagate c.name t ∉ choices)) ∧
    (∀ t set, p.subset? t = some set → ∀ name c, set.find? name = some c →
      p.all.find? name = some c) := by
  refine ⟨fun c => ?_, fun c => ?_, fun t set hset name c hfind => ?_⟩
  · rw [mem_all h, mem_firsts]
  · have hneutral : c.isNeutral = true ↔ c.target? = none ∨ c.target? = some .shared := by
      unfold Capability.isNeutral
      cases c.target? with
      | none => simp
      | some t => simp [Target.isShared_iff]
    have hgate : GatedOut cs c ↔ ∃ gate, c.gate? = some gate ∧
        ∀ d ∈ cs, d.target? = some gate → gate = .shared := by
      constructor
      · rintro ⟨gate, hgate, hclosed⟩
        exact ⟨gate, hgate, (gatedOut_iff_of_gate hgate).1 ⟨gate, hgate, hclosed⟩⟩
      · rintro ⟨gate, hgate, hclosed⟩
        exact (gatedOut_iff_of_gate hgate).2 hclosed
    have htargets : (∀ t, t ∉ (Selection.ofChoices choices).targets c.name) ↔
        ∀ t, t ≠ .shared → .propagate c.name t ∉ choices := by
      refine forall_congr' fun t => ?_
      rw [Selection.mem_targets_ofChoices, not_and']
    rw [mem_shared h, hneutral, hgate, htargets]
  · obtain ⟨hmem, rfl⟩ := FeatureSet.find?_eq_some_iff.1 hfind
    exact mem_all_of_mem_subset h hset hmem

/-- A neutral capability that wants the shared scope for its gate. -/
def banner : Capability Unit := { name := "banner", gate? := some .shared, effect := () }

/-- A capability for the shared scope. -/
def guide : Capability Unit := { name := "guide", target? := some .shared, effect := () }

/-- `banner` is in the shared set, with what that says of it. -/
theorem shared_compute_banner :
    ∃ p, compute [banner, guide] (.ofChoices [.propagate "banner" .aws]) .reject = .ok p ∧
      banner ∈ p.shared := by
  have hcompute :
      compute [banner, guide] (.ofChoices [.propagate "banner" .aws]) .reject = .ok _ := rfl
  refine ⟨_, hcompute, ?_⟩
  have hshared := (shared_compute _ _ _ hcompute).2.1 banner
  exact hshared.2 ⟨rfl, Or.inl rfl, Or.inr (Or.inr (Or.inl ⟨.shared, rfl, fun _ _ _ => rfl⟩))⟩

/-- **A capability that declares a gate need not open it.**  The gate of `banner`
is the shared scope, which `guide` declares; `banner` is propagated to the AWS
target, and is in the shared set all the same. -/
theorem banner_stays_shared :
    (∃ d ∈ [banner, guide], d.target? = banner.gate?) ∧
    ∃ p, compute [banner, guide] (.ofChoices [.propagate "banner" .aws]) .keepFirst = .ok p ∧
      banner ∈ p.all ∧ banner.isNeutral = true ∧ banner.roles.buildPlugin = false ∧
      banner.roles.sharedService = false ∧
      .aws ∈ (Selection.ofChoices [.propagate "banner" .aws]).targets "banner" ∧
      banner ∈ p.shared :=
  ⟨⟨guide, by simp, rfl⟩, _, rfl, rfl, rfl, rfl, rfl, by decide, rfl⟩

end Fanout.Partition
