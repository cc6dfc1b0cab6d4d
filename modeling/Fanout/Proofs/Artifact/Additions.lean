import Fanout.Artifact.Dependency
import Fanout.Proofs.Fault

/-!
# What a dependency list collects

Dependencies are added one after the other.  A dependency is settled before it is
compared with those that are there already: what it counts as is known only then, since
the resolver gives a looked-up dependency its group and may even give it another artifact
id.  The list is therefore the first settled dependency of each identity, however written
and looked-up ones are mixed, and an addition whose artifact is unknown leaves no trace.

## Main definitions

* `DependencyList.attempt`, `DependencyList.addAll` — one addition, and all of them.
* `DependencyList.settledAll` — what the additions settle.

## Main statements

* `Dependency.settled_eq_error_iff` — when a dependency cannot be settled.
* `DependencyList.toList_foldl_addSettled`, `DependencyList.find?_foldl_addSettled` — which
  of settled dependencies are kept.
* `DependencyList.toList_addAll` — all of it, for a list that starts empty.
-/

namespace Fanout

variable {known : Resolver}

/-! ## Settling a dependency -/

namespace Dependency

variable {d e : Dependency} {fault : Fault}

/-- A dependency cannot be settled when it needs a lookup and its artifact is unknown. -/
theorem settled_eq_error_iff : d.settled known = .error fault ↔
    d.needsLookup = true ∧ known d.artifact = none ∧
      fault = .coordinateNotFound d.artifact := by
  unfold settled
  split
  next hlookup =>
    rw [resolved, Fault.bind_pure_eq_error_iff, Resolver.resolve_eq_error_iff,
      and_iff_right hlookup]
  next hlookup => simp [hlookup]

/-- **What a dependency is settled to**: itself, or what the resolver knows of its artifact
in the scope that is asked for. -/
theorem settled_eq_ok_iff : d.settled known = .ok e ↔
    d.needsLookup = false ∧ e = d ∨ d.needsLookup = true ∧ ∃ c, known d.artifact = some c ∧
      e = ⟨some c.group, c.artifact, some c.version, d.scope, false⟩ := by
  unfold settled
  split
  next hlookup =>
    simp only [hlookup, Bool.true_eq_false, false_and, false_or, true_and]
    constructor
    · intro h
      obtain ⟨c, hc, he⟩ := Fault.bind_ok h
      exact ⟨c, Resolver.resolve_eq_ok_iff.1 hc, (Except.ok.inj he).symm⟩
    · rintro ⟨c, hc, rfl⟩
      rw [resolved, Resolver.resolve_eq_ok_iff.2 hc]
      rfl
  next hlookup => simp [hlookup, eq_comm]

/-- A settled dependency needs no lookup. -/
theorem needsLookup_of_settled (h : d.settled known = .ok e) : e.needsLookup = false := by
  rcases settled_eq_ok_iff.1 h with ⟨hlookup, rfl⟩ | ⟨-, c, -, rfl⟩
  · exact hlookup
  · rfl

/-- Whether two dependencies count as one. -/
def sameIdentity (d e : Dependency) : Bool := d.identity = e.identity

theorem sameIdentity_comm (d e : Dependency) : d.sameIdentity e = e.sameIdentity d :=
  decide_eq_decide.2 eq_comm

end Dependency

namespace DependencyList

variable {l l' : DependencyList} {d e : Dependency} {ds : List Dependency}

/-! ## Settled dependencies -/

/-- Whether a dependency counts as one that is in the list is a look-up by identity. -/
theorem hasIdentity_eq_isSome (l : DependencyList) (d : Dependency) :
    l.hasIdentity d = (l.toList.find? fun e => e.identity = d.identity).isSome := by
  rw [List.isSome_find?]
  rfl

theorem addSettled_of_hasIdentity (h : l.hasIdentity d = true) : l.addSettled d = l :=
  if_pos h

theorem toList_addSettled_of_new (h : l.hasIdentity d = false) :
    (l.addSettled d).toList = l.toList ++ [d] := by
  rw [addSettled, if_neg (by simp [h])]

/-- **Settled dependencies are kept by their first occurrence**: behind those that are in
the list stand the first ones of the identities that are new to it. -/
theorem toList_foldl_addSettled (l : DependencyList) (ds : List Dependency) :
    (ds.foldl addSettled l).toList =
      l.toList ++ (ds.filter fun d => !l.hasIdentity d).eraseDupsBy Dependency.sameIdentity := by
  induction ds generalizing l with
  | nil => exact (List.append_nil _).symm
  | cons d ds ih =>
    rw [List.foldl_cons, ih]
    cases hd : l.hasIdentity d with
    | true => rw [addSettled_of_hasIdentity hd, List.filter_cons_of_neg (by simp [hd])]
    | false =>
      -- from here on `d` stands for its identity
      have hothers : ∀ e, (l.addSettled d).hasIdentity e =
          (l.hasIdentity e || e.sameIdentity d) := by
        intro e
        rw [hasIdentity, toList_addSettled_of_new hd, List.any_append, List.any_cons,
          List.any_nil, Bool.or_false, Dependency.sameIdentity_comm]
        rfl
      rw [toList_addSettled_of_new hd, List.filter_cons_of_pos (by simp [hd]),
        List.eraseDupsBy_cons, List.filter_filter, List.append_assoc, List.singleton_append]
      congr 3
      refine List.filter_congr fun e _ => ?_
      rw [hothers]
      cases l.hasIdentity e <;> simp

/-- The first dependency of an identity is the one that is found under it. -/
theorem find?_foldl_addSettled (l : DependencyList) (ds : List Dependency)
    (i : Option String × String × DependencyScope) :
    ((ds.foldl addSettled l).toList.find? fun e => e.identity = i) =
      (l.toList.find? fun e => e.identity = i).or (ds.find? fun e => e.identity = i) := by
  induction ds generalizing l with
  | nil => exact (Option.or_none).symm
  | cons d ds ih =>
    rw [List.foldl_cons, ih]
    cases hd : l.hasIdentity d with
    | true =>
      rw [addSettled_of_hasIdentity hd]
      by_cases hi : d.identity = i
      · rw [hasIdentity_eq_isSome, hi] at hd
        obtain ⟨e, he⟩ := Option.isSome_iff_exists.1 hd
        rw [he]
        rfl
      · rw [List.find?_cons_of_neg (by simp [hi])]
    | false =>
      rw [toList_addSettled_of_new hd, List.find?_append, Option.or_assoc]
      by_cases hi : d.identity = i <;> simp [hi]

/-- Dependencies stay in the order in which they come. -/
theorem toList_foldl_addSettled_sublist (l : DependencyList) (ds : List Dependency) :
    (ds.foldl addSettled l).toList.Sublist (l.toList ++ ds) := by
  induction ds generalizing l with
  | nil => exact (List.append_nil _).symm ▸ List.Sublist.refl _
  | cons d ds ih =>
    refine (ih (l.addSettled d)).trans ?_
    cases hd : l.hasIdentity d with
    | true =>
      rw [addSettled_of_hasIdentity hd]
      exact (List.sublist_cons_self d ds).append_left _
    | false =>
      rw [toList_addSettled_of_new hd, List.append_assoc]
      exact List.Sublist.refl _

/-- **No two dependencies count as one.** -/
def IsDistinct (l : DependencyList) : Prop :=
  l.toList.Pairwise fun d e => d.identity ≠ e.identity

theorem isDistinct_empty : empty.IsDistinct := List.Pairwise.nil

/-- One more settled dependency. -/
theorem IsDistinct.addSettled (h : l.IsDistinct) (d : Dependency) :
    (l.addSettled d).IsDistinct := by
  cases hd : l.hasIdentity d with
  | true => rwa [addSettled_of_hasIdentity hd]
  | false =>
    rw [IsDistinct, toList_addSettled_of_new hd]
    refine List.pairwise_append.2 ⟨h, List.pairwise_singleton _ _, fun e he d' hd' => ?_⟩
    obtain rfl := List.mem_singleton.1 hd'
    have hnone := List.any_eq_false.1 hd e he
    exact of_decide_eq_false (Bool.eq_false_iff.2 hnone)

theorem IsDistinct.foldl_addSettled (h : l.IsDistinct) (ds : List Dependency) :
    (ds.foldl DependencyList.addSettled l).IsDistinct := by
  induction ds generalizing l with
  | nil => exact h
  | cons d ds ih => exact ih (h.addSettled d)

/-! ## Additions -/

/-- The dependencies after one was added, which are those before if it failed. -/
def attempt (known : Resolver) (l : DependencyList) (d : Dependency) : DependencyList :=
  match l.add d known with
  | .ok (l', _) => l'
  | .error _ => l

/-- The list after dependencies were added one after the other to an empty one. -/
def addAll (known : Resolver) (ds : List Dependency) : DependencyList :=
  ds.foldl (attempt known) empty

/-- **What additions settle**, in their order; those that fail settle nothing. -/
def settledAll (known : Resolver) (ds : List Dependency) : List Dependency :=
  ds.filterMap fun d => (d.settled known).toOption

theorem settledAll_cons_of_ok (h : d.settled known = .ok e) (ds : List Dependency) :
    settledAll known (d :: ds) = e :: settledAll known ds := by
  rw [settledAll, List.filterMap_cons, h]
  rfl

theorem settledAll_cons_of_error {fault : Fault} (h : d.settled known = .error fault)
    (ds : List Dependency) : settledAll known (d :: ds) = settledAll known ds := by
  rw [settledAll, List.filterMap_cons, h]
  rfl

/-- An addition fails exactly when its dependency cannot be settled. -/
theorem add_eq_error_iff {fault : Fault} :
    l.add d known = .error fault ↔ d.settled known = .error fault :=
  Fault.bind_pure_eq_error_iff

/-- What an addition that does not fail makes of the list, and what it answers. -/
theorem add_eq_ok_iff {isNew : Bool} : l.add d known = .ok (l', isNew) ↔
    ∃ e, d.settled known = .ok e ∧ l' = l.addSettled e ∧ isNew = !l.hasIdentity e := by
  constructor
  · intro h
    obtain ⟨e, he, hadded⟩ := Fault.bind_ok h
    obtain ⟨rfl, rfl⟩ := Prod.mk.inj (Except.ok.inj hadded)
    exact ⟨e, he, rfl, rfl⟩
  · rintro ⟨e, he, rfl, rfl⟩
    rw [add, he]
    rfl

theorem attempt_of_ok (h : d.settled known = .ok e) : attempt known l d = l.addSettled e := by
  unfold attempt
  rw [add_eq_ok_iff.2 ⟨e, h, rfl, rfl⟩]

theorem attempt_of_error {fault : Fault} (h : d.settled known = .error fault) :
    attempt known l d = l := by
  unfold attempt
  rw [add_eq_error_iff.2 h]

/-- Additions put the settled dependencies into the list. -/
theorem foldl_attempt (known : Resolver) (l : DependencyList) (ds : List Dependency) :
    ds.foldl (attempt known) l = (settledAll known ds).foldl addSettled l := by
  induction ds generalizing l with
  | nil => rfl
  | cons d ds ih =>
    rw [List.foldl_cons, ih]
    cases hd : d.settled known with
    | error fault => rw [attempt_of_error hd, settledAll_cons_of_error hd]
    | ok e => rw [attempt_of_ok hd, settledAll_cons_of_ok hd, List.foldl_cons]

theorem addAll_append_singleton (known : Resolver) (ds : List Dependency) (d : Dependency) :
    addAll known (ds ++ [d]) = attempt known (addAll known ds) d := List.foldl_append

theorem settledAll_append_singleton (known : Resolver) (ds : List Dependency) (d : Dependency) :
    settledAll known (ds ++ [d]) =
      settledAll known ds ++ (d.settled known).toOption.toList := by
  rw [settledAll, List.filterMap_append, settledAll, List.filterMap_cons]
  cases d.settled known <;> rfl

/-- An identity is new to the list if no addition has settled it. -/
theorem isNew_addAll_iff : (!(addAll known ds).hasIdentity e) = true ↔
    ∀ d ∈ settledAll known ds, d.identity ≠ e.identity := by
  have hfind := find?_foldl_addSettled empty (settledAll known ds) e.identity
  rw [hasIdentity_eq_isSome, addAll, foldl_attempt, hfind]
  simp [empty]

/-- What is in the list was settled. -/
theorem needsLookup_of_mem_settledAll (h : e ∈ settledAll known ds) : e.needsLookup = false := by
  obtain ⟨d, -, hd⟩ := List.mem_filterMap.1 h
  cases hsettled : d.settled known with
  | error fault =>
    rw [hsettled] at hd
    cases hd
  | ok e' =>
    rw [hsettled] at hd
    obtain rfl := Option.some.inj hd
    exact Dependency.needsLookup_of_settled hsettled

/-- **What additions to an empty list collect.**  The list has the settled dependencies in
their order, without those that count as an earlier one: under an identity stands the
first dependency that was settled to it.  So no two entries count as one, and none needs
a lookup.  One more addition answers whether the identity of its settled dependency, which
is what the resolver knows if a lookup is needed, is new; it fails exactly when a lookup is
needed and the artifact is unknown, and the list stays as it is then. -/
theorem toList_addAll (known : Resolver) (ds : List Dependency) :
    let l := addAll known ds
    let settled := settledAll known ds
    (l.toList = settled.eraseDupsBy Dependency.sameIdentity ∧ l.toList.Sublist settled ∧
      ∀ i, (l.toList.find? fun e => e.identity = i) = settled.find? fun e => e.identity = i) ∧
    (l.toList.Pairwise fun d e => d.identity ≠ e.identity) ∧
    (∀ e ∈ l.toList, e.needsLookup = false) ∧
    ∀ d,
      (∀ l' isNew, l.add d known = .ok (l', isNew) ↔ l' = addAll known (ds ++ [d]) ∧
        ∃ e, (d.needsLookup = false ∧ e = d ∨ d.needsLookup = true ∧
            ∃ c, known d.artifact = some c ∧
              e = ⟨some c.group, c.artifact, some c.version, d.scope, false⟩) ∧
          settledAll known (ds ++ [d]) = settled ++ [e] ∧
          (isNew = true ↔ ∀ e' ∈ settled, e'.identity ≠ e.identity)) ∧
      (∀ fault, l.add d known = .error fault ↔ d.needsLookup = true ∧
        known d.artifact = none ∧ fault = .coordinateNotFound d.artifact) ∧
      ∀ fault, l.add d known = .error fault →
        addAll known (ds ++ [d]) = l ∧ settledAll known (ds ++ [d]) = settled := by
  intro l settled
  have hl : l = settled.foldl addSettled empty := foldl_attempt known empty ds
  have hsublist : l.toList.Sublist settled := hl ▸ toList_foldl_addSettled_sublist empty settled
  refine ⟨⟨?_, hsublist, fun i => ?_⟩, ?_, fun e he => ?_, fun d => ⟨fun l' isNew => ?_,
    fun fault => ?_, fun fault hadd => ?_⟩⟩
  · have hnew : (settled.filter fun d => !empty.hasIdentity d) = settled :=
      List.filter_eq_self.2 fun _ _ => rfl
    rw [hl, toList_foldl_addSettled, hnew]
    rfl
  · rw [hl, find?_foldl_addSettled]
    exact Option.none_or
  · rw [hl]
    exact isDistinct_empty.foldl_addSettled settled
  · exact needsLookup_of_mem_settledAll (hsublist.subset he)
  · rw [addAll_append_singleton, settledAll_append_singleton, add_eq_ok_iff]
    simp only [← Dependency.settled_eq_ok_iff]
    constructor
    · rintro ⟨e, he, rfl, rfl⟩
      refine ⟨(attempt_of_ok he).symm, e, he, ?_, isNew_addAll_iff⟩
      rw [he]
      rfl
    · rintro ⟨rfl, e, he, -, hnew⟩
      refine ⟨e, he, attempt_of_ok he, Bool.eq_iff_iff.2 ?_⟩
      rw [hnew, isNew_addAll_iff]
  · rw [add_eq_error_iff, Dependency.settled_eq_error_iff]
  · have hd := add_eq_error_iff.1 hadd
    rw [addAll_append_singleton, attempt_of_error hd, settledAll_append_singleton, hd]
    exact ⟨rfl, List.append_nil _⟩

/-- A lookup may give an artifact that is there already under its own id. -/
example : addAll (fun _ => some ⟨"org.apache.kafka", "kafka-clients", "3.7.0"⟩)
    [{ group? := some "org.apache.kafka", artifact := "kafka-clients" }, .lookup "kafka"] =
      ⟨[{ group? := some "org.apache.kafka", artifact := "kafka-clients" }]⟩ := by
  decide

end DependencyList

end Fanout
