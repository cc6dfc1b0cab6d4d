import Fanout.Template.Index

/-!
# Routes of templates

The standard rules are asked in a fixed order, so where they send a template can
be said in one chain of cases.  What a concrete target registers for another
module is sent into the target's own module, under a key that ends with the
module's name.  So the keys of two targets that are made this way never meet.

Rules behind the standard ones decide where the standard ones leave a template alone,
and nowhere else.

## Main definitions

* `RoutingQuestion.IsSettled` — the standard rules decide, or no rule is asked.
* `RoutingQuestion.IsForeign` — a target registers a template for a module that
  is not its own.
* `Target.Marks` — a key ends with the name of a target's module.

## Main statements

* `Route.ofRules_standard` — where the standard rules send a template.
* `TemplateIndex.route_extraRules` — what rules behind the standard ones can do.
* `Route.ofRules_of_isForeign` — where a foreign template goes, whatever rules
  come behind the standard ones.
* `Target.eq_of_marks` — a key is marked by one target at most.
-/

namespace Fanout

/-! ## The standard rules -/

theorem RoutingRule.applies_targetScope (q : RoutingQuestion) :
    targetScope.applies q = true ↔ q.scope ≠ .shared ∧ q.template.module ≠ q.scope.module := by
  rw [targetScope, Bool.and_eq_true, Bool.not_eq_true', ← Bool.not_eq_true, Target.isShared_iff,
    decide_eq_true_iff]

theorem RoutingRule.applies_singleModule (q : RoutingQuestion) :
    singleModule.applies q = true ↔
      q.singleModule = true ∧ q.template.module.isSharedOrDefault = true := by
  rw [singleModule, Bool.and_eq_true]

/-- **Where the standard rules send a template**, case by case. -/
theorem Route.ofRules_standard (q : RoutingQuestion) :
    ofRules RoutingRule.standard q =
      if isRoutable q.template = false then ⟨q.template.module, none⟩
      else if q.key = clusterManifestKey then ⟨.root, none⟩
      else if q.scope ≠ .shared ∧ q.template.module ≠ q.scope.module then
        ⟨q.scope.module, some q.scope.moduleName⟩
      else if q.singleModule = true ∧ q.template.module.isSharedOrDefault = true then ⟨.root, none⟩
      else if q.template.module = .default then ⟨.lib, none⟩
      else ⟨q.template.module, none⟩ := by
  have hmanifest : RoutingRule.clusterManifest.applies q = true ↔ q.key = clusterManifestKey :=
    decide_eq_true_iff
  have hdefault : RoutingRule.defaultModule.applies q = true ↔ q.template.module = .default :=
    decide_eq_true_iff
  -- with the conditions as answers of the rules, the chain is the search for the first one
  simp only [← hmanifest, ← hdefault, ← RoutingRule.applies_targetScope,
    ← RoutingRule.applies_singleModule]
  rw [ofRules, RoutingRule.standard]
  simp only [List.find?_cons, List.find?_nil]
  cases isRoutable q.template
  case false => rfl
  cases RoutingRule.clusterManifest.applies q
  case true => rfl
  cases RoutingRule.targetScope.applies q
  case true => rfl
  cases RoutingRule.singleModule.applies q
  case true => rfl
  cases RoutingRule.defaultModule.applies q <;> rfl

/-! ## Rules behind the standard ones -/

/-- **A template whose place is settled** without further rules: a resource, a file of the
root module, or a template that a standard rule applies to. -/
def RoutingQuestion.IsSettled (q : RoutingQuestion) : Prop :=
  q.template.kind = .resource ∨ q.template.module = .root ∨
    ∃ rule ∈ RoutingRule.standard, rule.applies q = true

namespace Route

variable {rules before after : List RoutingRule} {rule : RoutingRule} {q : RoutingQuestion}

/-- No rule is asked about resources and files of the root module. -/
theorem isRoutable_eq_false_iff {t : Template} :
    isRoutable t = false ↔ t.kind = .resource ∨ t.module = .root := by
  simp [isRoutable, Decidable.or_iff_not_imp_left]

/-- A place is settled where no rule is asked or a standard rule applies. -/
theorem isSettled_iff : q.IsSettled ↔
    isRoutable q.template = false ∨ ∃ rule ∈ RoutingRule.standard, rule.applies q = true := by
  rw [isRoutable_eq_false_iff, or_assoc]
  rfl

/-- Where no rule is asked, the template stays. -/
theorem ofRules_of_not_isRoutable (h : isRoutable q.template = false) (rules : List RoutingRule) :
    ofRules rules q = ⟨q.template.module, none⟩ := by
  rw [ofRules, h]
  rfl

/-- Where no rule applies, the template stays. -/
theorem ofRules_of_not_applies (h : ∀ rule ∈ rules, rule.applies q = false) :
    ofRules rules q = ⟨q.template.module, none⟩ := by
  have hnone : rules.find? (fun rule => rule.applies q) = none :=
    List.find?_eq_none.2 fun rule hrule => Bool.eq_false_iff.1 (h rule hrule)
  rw [ofRules, hnone, ite_self]

/-- The first rule that applies decides. -/
theorem ofRules_of_first (hroutable : isRoutable q.template = true)
    (hbefore : ∀ r ∈ before, r.applies q = false) (hrule : rule.applies q = true)
    (after : List RoutingRule) : ofRules (before ++ rule :: after) q = rule.route q := by
  have hfirst : (before ++ rule :: after).find? (fun rule => rule.applies q) = some rule :=
    List.find?_eq_some_iff_append.2 ⟨hrule, before, after, rfl, by simpa using hbefore⟩
  rw [ofRules, if_pos hroutable, hfirst]

/-- Rules behind one that applies are not asked. -/
theorem ofRules_append_of_applies (h : ∃ rule ∈ rules, rule.applies q = true)
    (extraRules : List RoutingRule) : ofRules (rules ++ extraRules) q = ofRules rules q := by
  have hsome : (rules.find? fun rule => rule.applies q).isSome = true := List.find?_isSome.2 h
  rw [ofRules, ofRules, List.find?_append, Option.or_of_isSome hsome]

end Route

namespace TemplateIndex

/-- **What rules behind the standard ones can do.**  A template whose place is settled
goes where it goes without them.  Any other template goes where the first of them that
applies sends it, and it stays in its module under its key if none of them applies. -/
theorem route_extraRules (extraRules : List RoutingRule) (q : RoutingQuestion) :
    (q.IsSettled → (empty extraRules).route q = empty.route q) ∧
    (¬ q.IsSettled →
      (∀ before rule after, extraRules = before ++ rule :: after →
        (∀ r ∈ before, r.applies q = false) → rule.applies q = true →
          (empty extraRules).route q = rule.route q) ∧
      ((∀ rule ∈ extraRules, rule.applies q = false) →
        (empty extraRules).route q = ⟨q.template.module, none⟩)) := by
  have hroute : ∀ rules, (empty rules).route q = Route.ofRules (RoutingRule.standard ++ rules) q :=
    fun _ => rfl
  simp only [hroute, List.append_nil, Route.isSettled_iff]
  constructor
  · rintro (hstays | happlies)
    · rw [Route.ofRules_of_not_isRoutable hstays, Route.ofRules_of_not_isRoutable hstays]
    · exact Route.ofRules_append_of_applies happlies extraRules
  · intro hopen
    obtain ⟨hasked, hnone⟩ := not_or.1 hopen
    have hroutable : Route.isRoutable q.template = true := by simpa using hasked
    have hstandard : ∀ rule ∈ RoutingRule.standard, rule.applies q = false := fun rule hrule =>
      Bool.eq_false_iff.2 fun happlies => hnone ⟨rule, hrule, happlies⟩
    constructor
    · rintro before rule after rfl hbefore hrule
      rw [← List.append_assoc]
      exact Route.ofRules_of_first hroutable
        (List.forall_mem_append.2 ⟨hstandard, hbefore⟩) hrule after
    · intro hextra
      exact Route.ofRules_of_not_applies (List.forall_mem_append.2 ⟨hstandard, hextra⟩)

end TemplateIndex

/-! ## Foreign templates -/

/-- **A target registers a template for another module.**  The root module and
the cluster manifest belong to no target. -/
structure RoutingQuestion.IsForeign (q : RoutingQuestion) : Prop where
  concrete : q.scope ≠ .shared
  routable : Route.isRoutable q.template = true
  module : q.template.module ≠ q.scope.module
  key : q.key ≠ clusterManifestKey

namespace Route

/-- A foreign template goes into the module of the target that registers it. -/
theorem ofRules_of_isForeign {q : RoutingQuestion} (h : q.IsForeign)
    (extraRules : List RoutingRule) :
    ofRules (RoutingRule.standard ++ extraRules) q =
      ⟨q.scope.module, some q.scope.moduleName⟩ := by
  have htarget : RoutingRule.targetScope.applies q = true :=
    (RoutingRule.applies_targetScope q).2 ⟨h.concrete, h.module⟩
  have hasked : ¬ isRoutable q.template = false := by simp [h.routable]
  rw [ofRules_append_of_applies ⟨_, by simp [RoutingRule.standard], htarget⟩, ofRules_standard,
    if_neg hasked, if_neg h.key, if_pos ⟨h.concrete, h.module⟩]

end Route

namespace TemplateIndex

theorem insert_registered {x : TemplateIndex} {key key' : String} {t : Template} {module : Module}
    (h : (x.insert key t).2 = .registered key' module) : key' = key ∧ module = t.module := by
  unfold insert at h
  split at h
  · cases h
  · obtain ⟨rfl, rfl⟩ := Registration.registered.inj h
    exact ⟨rfl, rfl⟩

/-- A template is registered where its route leads, if at all. -/
theorem register_registered {x : TemplateIndex} {key key' : String} {t : Template}
    {scope : Target} {singleModule : Bool} {module : Module}
    (h : (x.register key t scope singleModule).2 = .registered key' module) :
    key' = (x.route ⟨key, t, scope, singleModule⟩).keyFor key ∧
      module = (x.route ⟨key, t, scope, singleModule⟩).module.canonical := by
  unfold register at h
  split at h
  · cases h
  · exact insert_registered h

/-- A foreign template is registered in the target's module, if at all, under a
key that ends with the module's name. -/
theorem register_of_isForeign {x : TemplateIndex} {key key' : String} {t : Template}
    {scope : Target} {singleModule : Bool} {module : Module}
    (hrules : ∃ extraRules, x.rules = RoutingRule.standard ++ extraRules)
    (hforeign : RoutingQuestion.IsForeign ⟨key, t, scope, singleModule⟩)
    (h : (x.register key t scope singleModule).2 = .registered key' module) :
    key' = key ++ "-" ++ scope.moduleName ∧ module = scope.module.canonical := by
  obtain ⟨extraRules, hrules⟩ := hrules
  have hroute : x.route ⟨key, t, scope, singleModule⟩ =
      ⟨scope.module, some scope.moduleName⟩ := by
    unfold route
    rw [hrules]
    exact Route.ofRules_of_isForeign hforeign extraRules
  have hplace := register_registered h
  rw [hroute] at hplace
  exact hplace

end TemplateIndex

/-! ## Marked keys -/

namespace Target

/-- **A key ends with the name of a target's module.** -/
def Marks (t : Target) (key : String) : Prop := ∃ base, key = base ++ "-" ++ t.moduleName

/-- A marked key ends with the last letter of the module's name. -/
theorem getLast?_of_marks {t : Target} {key : String} (h : t.Marks key) :
    key.toList.getLast? = t.moduleName.toList.getLast? := by
  obtain ⟨base, rfl⟩ := h
  rw [String.toList_append, List.getLast?_append]
  cases t <;> rfl

/-- A key is marked by one concrete target at most. -/
theorem eq_of_marks {t u : Target} {key : String} (ht : t ≠ .shared) (hu : u ≠ .shared)
    (hkt : t.Marks key) (hku : u.Marks key) : t = u := by
  -- the names of the modules end with different letters
  have h := (getLast?_of_marks hkt).symm.trans (getLast?_of_marks hku)
  revert ht hu h
  cases t <;> cases u <;> decide

end Target

end Fanout
