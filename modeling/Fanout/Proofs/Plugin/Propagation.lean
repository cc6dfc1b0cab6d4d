import Fanout.Plugin.Propagation
import Fanout.Proofs.SortedMap

/-!
# The last word on a plugin

A propagation policy is made by rulings, each about the plugins of one identifier.  It keeps
the exclusions and the inclusions in two tables, and asks the exclusions first.  That order
is without effect: a ruling that enters its identifier in one table strikes it from the
other, so no identifier stands in both, and what is said of a plugin is what the last ruling
on its identifier says.

## Main definitions

* `PropagationPolicy.Ruling` — an exclusion or an inclusion, with its identifier.
* `PropagationPolicy.ruleAll` — the policy after rulings.
* `PropagationPolicy.IsLast` — no later ruling has the same identifier.
* `PropagationPolicy.IsInitial` — the policies that rulings start from.

## Main statements

* `PropagationPolicy.entries_ruleAll_of_isLast` — what the tables have under an identifier.
* `PropagationPolicy.isUnambiguous_ruleAll` — rulings keep the tables apart.
* `PropagationPolicy.decided_by_last` — what a policy decides.

## Design notes

All that a policy says of a plugin comes from its two tables under the plugin's identifier
and from its behaviour.  `entries` is the view that the laws are stated in: one ruling
replaces it under one identifier and leaves it alone under every other.
-/

namespace Fanout.PropagationPolicy

/-! ## Rulings -/

/-- **Ruling on the plugins of an identifier.** -/
inductive Ruling where
  | exclude (identifier : String) (reason : ExclusionReason)
  | allow (identifier : String)
deriving DecidableEq, Repr

namespace Ruling

/-- The identifier of the plugins that it is about. -/
def identifier : Ruling → String
  | exclude identifier _ => identifier
  | allow identifier => identifier

/-- Why it keeps them out of the shared module, if it does. -/
def reason? : Ruling → Option ExclusionReason
  | exclude _ reason => some reason
  | allow _ => none

end Ruling

/-- The policy after one more ruling. -/
def rule (p : PropagationPolicy) : Ruling → PropagationPolicy
  | .exclude identifier reason => p.exclude identifier reason
  | .allow identifier => p.allow identifier

/-- **The policy after rulings**, one after the other. -/
def ruleAll (p : PropagationPolicy) (rulings : List Ruling) : PropagationPolicy :=
  rulings.foldl rule p

/-- **The last ruling on its identifier.** -/
def IsLast (rulings : List Ruling) (r : Ruling) : Prop :=
  ∃ before after, rulings = before ++ r :: after ∧ ∀ q ∈ after, q.identifier ≠ r.identifier

/-- **Policies that rulings start from**: those that name no plugin, and the standard one. -/
inductive IsInitial : PropagationPolicy → Prop where
  | ofBehaviour (behaviour : PropagationBehaviour) : IsInitial (.ofBehaviour behaviour)
  | standard : IsInitial .standard

variable {p start : PropagationPolicy} {r : Ruling} {rulings : List Ruling} {identifier : String}

/-! ## What the tables have under an identifier -/

/-- **What the two tables have under an identifier**: the reason of an exclusion, and
whether there is an inclusion. -/
def entries (p : PropagationPolicy) (identifier : String) : Option ExclusionReason × Bool :=
  (p.exclusions.find? identifier, p.inclusions.contains identifier)

theorem exclusion?_eq (p : PropagationPolicy) (plugin : Plugin) :
    p.exclusion? plugin = (p.entries plugin.identifier).1 := rfl

theorem propagates_eq (p : PropagationPolicy) (plugin : Plugin) :
    p.propagates plugin =
      if (p.entries plugin.identifier).1.isSome then false
      else if (p.entries plugin.identifier).2 then true
      else p.behaviour = .propagate := rfl

/-- A ruling enters its identifier in one table and strikes it from the other. -/
theorem entries_rule_self (p : PropagationPolicy) (r : Ruling) :
    (p.rule r).entries r.identifier = (r.reason?, r.reason?.isNone) := by
  cases r with
  | exclude identifier reason =>
    have hstruck : identifier ∉ p.inclusions.erase identifier := fun hmem =>
      (SortedSet.mem_erase.1 hmem).1 rfl
    exact Prod.ext (p.exclusions.find?_insert_self identifier reason)
      (Bool.eq_false_iff.2 hstruck)
  | allow identifier =>
    have hentered : identifier ∈ p.inclusions.insert identifier :=
      SortedSet.mem_insert.2 (Or.inl rfl)
    refine Prod.ext ?_ hentered
    show (p.exclusions.erase identifier).find? identifier = none
    rw [SortedMap.find?_erase, if_pos rfl]

/-- It has nothing to say of any other identifier. -/
theorem entries_rule_of_ne (h : r.identifier ≠ identifier) :
    (p.rule r).entries identifier = p.entries identifier := by
  cases r with
  | exclude other reason =>
    have hne : identifier ≠ other := Ne.symm h
    refine Prod.ext (p.exclusions.find?_insert_of_ne hne reason) (Bool.eq_iff_iff.2 ?_)
    show identifier ∈ p.inclusions.erase other ↔ identifier ∈ p.inclusions
    rw [SortedSet.mem_erase, and_iff_right hne]
  | allow other =>
    have hne : identifier ≠ other := Ne.symm h
    refine Prod.ext ?_ (Bool.eq_iff_iff.2 ?_)
    · show (p.exclusions.erase other).find? identifier = p.exclusions.find? identifier
      rw [SortedMap.find?_erase, if_neg hne]
    · show identifier ∈ p.inclusions.insert other ↔ identifier ∈ p.inclusions
      rw [SortedSet.mem_insert, or_iff_right hne]

theorem entries_ruleAll_of_forall_ne (h : ∀ r ∈ rulings, r.identifier ≠ identifier) :
    (p.ruleAll rulings).entries identifier = p.entries identifier := by
  refine List.foldlRecOn (motive := fun q => q.entries identifier = p.entries identifier)
    rulings rule rfl ?_
  intro q hq r hr
  rw [entries_rule_of_ne (h r hr), hq]

/-- **The last ruling on an identifier** says what the tables have under it. -/
theorem entries_ruleAll_of_isLast (h : IsLast rulings r) :
    (p.ruleAll rulings).entries r.identifier = (r.reason?, r.reason?.isNone) := by
  obtain ⟨before, after, rfl, hafter⟩ := h
  have hsplit : p.ruleAll (before ++ r :: after) = ((p.ruleAll before).rule r).ruleAll after :=
    List.foldl_append
  rw [hsplit, entries_ruleAll_of_forall_ne hafter, entries_rule_self]

/-- Rulings do not touch the behaviour towards plugins without any. -/
theorem behaviour_ruleAll (p : PropagationPolicy) (rulings : List Ruling) :
    (p.ruleAll rulings).behaviour = p.behaviour := by
  refine List.foldlRecOn (motive := fun q => q.behaviour = p.behaviour) rulings rule rfl ?_
  intro q hq r _
  rw [← hq]
  cases r <;> rfl

/-! ## The two tables are kept apart -/

/-- **No identifier is both excluded and included.** -/
def IsUnambiguous (p : PropagationPolicy) : Prop :=
  ∀ identifier, ¬ (p.exclusions.contains identifier = true ∧ identifier ∈ p.inclusions)

theorem isUnambiguous_iff_entries : p.IsUnambiguous ↔ ∀ identifier,
    ¬ ((p.entries identifier).1.isSome = true ∧ (p.entries identifier).2 = true) := Iff.rfl

theorem IsUnambiguous.rule (h : p.IsUnambiguous) (r : Ruling) : (p.rule r).IsUnambiguous := by
  rw [isUnambiguous_iff_entries] at h ⊢
  intro identifier
  by_cases hr : r.identifier = identifier
  · rw [← hr, entries_rule_self]
    cases r.reason? <;> simp
  · rw [entries_rule_of_ne hr]
    exact h identifier

/-- **Rulings keep the tables apart.** -/
theorem isUnambiguous_ruleAll (h : p.IsUnambiguous) (rulings : List Ruling) :
    (p.ruleAll rulings).IsUnambiguous := by
  refine List.foldlRecOn (motive := IsUnambiguous) rulings rule h ?_
  intro q hq r _
  exact hq.rule r

/-- The standard policy is made by rulings as any other. -/
theorem standard_eq : standard = (ofBehaviour .propagate).ruleAll
    [.exclude Plugin.azureFunctionsId .targetSpecific,
      .exclude Plugin.azureFunctionsArtifact .targetSpecific,
      .exclude Plugin.shadowId .alreadyShared, .exclude Plugin.applicationId .alreadyShared,
      .exclude Plugin.libraryId .alreadyShared] := rfl

theorem IsInitial.isUnambiguous (h : p.IsInitial) : p.IsUnambiguous := by
  have hnone : ∀ behaviour, (PropagationPolicy.ofBehaviour behaviour).IsUnambiguous := by
    intro behaviour identifier hboth
    exact SortedSet.notMem_empty identifier hboth.2
  cases h with
  | ofBehaviour behaviour => exact hnone behaviour
  | standard =>
    rw [standard_eq]
    exact isUnambiguous_ruleAll (hnone .propagate) _

/-! ## What a policy decides -/

/-- **The last ruling on a plugin's identifier decides.**  If it is an exclusion, the plugin
is kept out for its reason; if it is an inclusion, the plugin is propagated and there is no
reason against it.  A plugin without a ruling on its identifier is treated as by the policy
at the start.  At no time is an identifier both excluded and included. -/
theorem decided_by_last (hstart : start.IsInitial) (rulings : List Ruling) :
    (∀ (plugin : Plugin) reason, IsLast rulings (.exclude plugin.identifier reason) →
      (start.ruleAll rulings).propagates plugin = false ∧
        (start.ruleAll rulings).exclusion? plugin = some reason) ∧
    (∀ plugin : Plugin, IsLast rulings (.allow plugin.identifier) →
      (start.ruleAll rulings).propagates plugin = true ∧
        (start.ruleAll rulings).exclusion? plugin = none) ∧
    (∀ plugin : Plugin, (∀ r ∈ rulings, r.identifier ≠ plugin.identifier) →
      (start.ruleAll rulings).propagates plugin = start.propagates plugin ∧
        (start.ruleAll rulings).exclusion? plugin = start.exclusion? plugin) ∧
    (start.ruleAll rulings).IsUnambiguous := by
  refine ⟨?_, ?_, ?_, isUnambiguous_ruleAll hstart.isUnambiguous rulings⟩
  · intro plugin reason hlast
    have hentries : (start.ruleAll rulings).entries plugin.identifier = (some reason, false) :=
      entries_ruleAll_of_isLast hlast
    rw [propagates_eq, exclusion?_eq, hentries]
    exact ⟨rfl, rfl⟩
  · intro plugin hlast
    have hentries : (start.ruleAll rulings).entries plugin.identifier = (none, true) :=
      entries_ruleAll_of_isLast hlast
    rw [propagates_eq, exclusion?_eq, hentries]
    exact ⟨rfl, rfl⟩
  · intro plugin hnone
    have hentries := entries_ruleAll_of_forall_ne (p := start) hnone
    rw [propagates_eq, exclusion?_eq, hentries, behaviour_ruleAll]
    exact ⟨rfl, rfl⟩

/-- Rulings on plugins of which the standard policy says something already. -/
def secondThoughts : List Ruling :=
  [.allow Plugin.shadowId, .exclude Plugin.libraryId .targetSpecific,
    .exclude Plugin.shadowId .targetSpecific, .allow Plugin.shadowId]

/-- The packaging plugin is propagated in the end, the library plugin is kept out for
another reason, and the application plugin for the old one. -/
theorem secondThoughts_count :
    (standard.ruleAll secondThoughts).propagates (.gradle Plugin.shadowId none none) = true ∧
    (standard.ruleAll secondThoughts).exclusion? (.gradle Plugin.libraryId none none) =
      some .targetSpecific ∧
    (standard.ruleAll secondThoughts).exclusion? (.gradle Plugin.applicationId none none) =
      some .alreadyShared := by
  obtain ⟨hexcluded, hallowed, hunnamed, -⟩ := decided_by_last .standard secondThoughts
  have hshadow : IsLast secondThoughts (.allow Plugin.shadowId) :=
    ⟨secondThoughts.take 3, [], rfl, by decide⟩
  have hlibrary : IsLast secondThoughts (.exclude Plugin.libraryId .targetSpecific) :=
    ⟨secondThoughts.take 1, secondThoughts.drop 2, rfl, by decide⟩
  refine ⟨(hallowed (.gradle Plugin.shadowId none none) hshadow).1,
    (hexcluded (.gradle Plugin.libraryId none none) _ hlibrary).2, ?_⟩
  exact (hunnamed (.gradle Plugin.applicationId none none) (by decide)).2

end Fanout.PropagationPolicy
