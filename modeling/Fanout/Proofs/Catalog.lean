import Fanout.Catalog
import Fanout.Proofs.Generation.Faultless
import Fanout.Proofs.Partition.Conflicts

/-!
# The catalog and its tables

What the capabilities of the catalog look up stands in two tables apart from it: the
coordinates of artifacts, and the registry of plugins.  They are in step: neither lacks
anything that a capability asks for.  Nor do capabilities of the catalog get in each
other's way, since no two of them claim a singleton role.  So any of them together can
be applied, whatever is selected.

## Main statements

* `Catalog.isSound_of_mem_effect` — the tables have all that a capability asks for.
* `Catalog.compute_isOk` — any capabilities of the catalog have a partition.
* `Catalog.apply_sound` — applying them does not fail, and what they make is sound.
-/

namespace Fanout.Catalog

open Contribution

/-- **The tables are in step with the catalog.** -/
theorem isSound_of_mem_effect (project : Project) : ∀ c ∈ capabilities, ∀ k ∈ c.effect project,
    k.IsSound coordinates.resolver .bundled := by
  simp only [capabilities, entries, configured, configuredFor, needed, textFile, List.map_cons,
    List.map_nil, List.forall_mem_cons, List.not_mem_nil, false_implies, implies_true, and_true,
    true_and, isSound_setting, isSound_text, isSound_resource, isSound_lookup,
    isSound_versioned, isSound_unversioned]
  -- what is left are the entries of the tables
  decide +kernel

/-! ## Capabilities of the catalog together -/

/-- The names in the catalog are different. -/
theorem names_ne : capabilities.Pairwise fun c d => c.name ≠ d.name := by decide

/-- Each singleton role is claimed once in the catalog. -/
theorem length_claims (role : SingletonRole) :
    (capabilities.filter (Partition.claims role)).length = 1 := by
  cases role <;> rfl

variable {cs : List (Capability CatalogEffect)}

/-- **Capabilities of the catalog have a partition**, whatever the policy. -/
theorem compute_isOk (hcs : cs.Sublist capabilities) (selection : Selection)
    (policy : SingletonPolicy) : ∃ p, Partition.compute cs selection policy = .ok p := by
  rw [Partition.compute_isOk_iff_of_names (names_ne.sublist hcs)]
  intro _ role
  have hclaimants : (Partition.claimants cs cs role).Sublist
      (capabilities.filter (Partition.claims role)) :=
    (List.filter_sublist.trans hcs).filter _
  exact (length_claims role).symm ▸ hclaimants.length_le

/-- **Applying capabilities of the catalog does not fail**, and all they contribute is
sound. -/
theorem apply_sound {g : Generation CatalogEffect} {selection : Selection}
    {policy : SingletonPolicy} (hcs : cs.Sublist capabilities)
    (hcompute : Partition.compute cs selection policy = .ok g.partition)
    (h : g.IsSound coordinates.resolver .bundled) :
    (g.apply behave).fault? = none ∧
      (g.apply behave).state.IsSound coordinates.resolver .bundled := by
  refine Generation.apply_sound (fun _ t hg => hg.openTarget t) (fun _ t hg => hg.setScope t)
    (fun turn hturn g' hg' => ?_) h.hideTargetFeatures
  have hc : turn.capability ∈ capabilities :=
    hcs.subset (Partition.mem_of_mem_turns hcompute hturn)
  exact (hg'.makeAll turn.target (isSound_of_mem_effect _ _ hc)).symm

end Fanout.Catalog
