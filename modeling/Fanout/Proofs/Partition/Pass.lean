import Fanout.Partition
import Fanout.Proofs.Capability.FeatureSet
import Fanout.Proofs.Capability.Selection
import Fanout.Proofs.Fault

/-!
# The pass over the capabilities

Whatever the order in which the pass meets the capabilities of a run, what it
has collected is a function of those it has read: the first of each name, sorted
out by gate, target and role.

## Main definitions

* `Partition.firsts` — the first capability of each name.
* `Partition.neutrals`, `Partition.claimants`, `Partition.own` — parts of these.
* `Gathered.Covers` — the pass has collected all that some capabilities give.

## Main statements

* `Gathered.Covers.take` — one step of the pass preserves the invariant.
* `covers_of_pass` — a pass that no conflict stops ends with it.

## Design notes

Gates look at the whole run, everything else at the capabilities read so far.
So the parts have two lists: the run `cs`, and the capabilities `ds` that are
sorted out.
-/

namespace Fanout.Partition

variable {ε : Type}

/-! ## The parts of a run -/

/-- Adds a capability to a list, unless the list has one of its name. -/
def addFirst (ds : List (Capability ε)) (c : Capability ε) : List (Capability ε) :=
  if ds.any fun d => d.name == c.name then ds else ds ++ [c]

/-- The first capability of each name, in input order. -/
def firsts (cs : List (Capability ε)) : List (Capability ε) := cs.foldl addFirst []

/-- The neutral capabilities that their gates admit. -/
def neutrals (cs ds : List (Capability ε)) : List (Capability ε) :=
  ds.filter fun c => c.isNeutral && !isGatedOut cs c

/-- The claimants of a role, in input order. -/
def claimants (cs ds : List (Capability ε)) (role : SingletonRole) : List (Capability ε) :=
  (neutrals cs ds).filter (claims role)

/-- Whether a capability makes a target active: it is admitted, and it is for the
target or propagated to it. -/
def activates (cs : List (Capability ε)) (selection : Selection) (t : Target)
    (c : Capability ε) : Bool :=
  !isGatedOut cs c && (c.isFor t || (c.isNeutral && selection.isPropagatedTo c.name t))

/-- The capabilities that make a target active. -/
def own (cs : List (Capability ε)) (selection : Selection) (t : Target)
    (ds : List (Capability ε)) : List (Capability ε) :=
  ds.filter (activates cs selection t)

/-- The set of a list's capabilities, if it has any. -/
def setOf? (ds : List (Capability ε)) : Option (FeatureSet ε) :=
  if ds.isEmpty then none else some (.ofList ds)

/-- One more capability goes into the set, which may be new. -/
theorem setOf?_append (ds : List (Capability ε)) (c : Capability ε) :
    setOf? (ds ++ [c]) = some (((setOf? ds).getD .empty).insert c) := by
  cases ds with
  | nil => rfl
  | cons d ds =>
    show some (FeatureSet.ofList ((d :: ds) ++ [c])) = _
    rw [FeatureSet.ofList_append]
    rfl

theorem setOf?_own_append (cs : List (Capability ε)) (selection : Selection) (t : Target)
    (ds : List (Capability ε)) (c : Capability ε) :
    setOf? (own cs selection t (ds ++ [c])) =
      if activates cs selection t c = true then
        some (((setOf? (own cs selection t ds)).getD .empty).insert c)
      else setOf? (own cs selection t ds) := by
  unfold own
  rw [List.filter_append]
  split
  next h => rw [List.filter_cons_of_pos h, List.filter_nil, setOf?_append]
  next h => rw [List.filter_cons_of_neg h, List.filter_nil, List.append_nil]

/-! ## First capabilities -/

theorem find?_addFirst (ds : List (Capability ε)) (c : Capability ε) (name : String) :
    (addFirst ds c).find? (fun d => d.name == name) =
      (ds.find? fun d => d.name == name).or ([c].find? fun d => d.name == name) := by
  unfold addFirst
  split
  next h =>
    obtain ⟨d, hd, hname⟩ := List.any_eq_true.1 h
    cases hfind : ds.find? fun d => d.name == name with
    | some e => rfl
    | none =>
      have hne : ¬ (d.name == name) = true := List.find?_eq_none.1 hfind d hd
      rw [eq_of_beq hname] at hne
      simp [hne]
  next => rw [List.find?_append]

/-- The first capability of a name in a run is the first one there is. -/
theorem find?_firsts (cs : List (Capability ε)) (name : String) :
    (firsts cs).find? (fun d => d.name == name) = cs.find? fun d => d.name == name := by
  have run : ∀ ds : List (Capability ε),
      (cs.foldl addFirst ds).find? (fun d => d.name == name) =
        (ds.find? fun d => d.name == name).or (cs.find? fun d => d.name == name) := by
    induction cs with
    | nil => simp
    | cons c cs ih =>
      intro ds
      rw [List.foldl_cons, ih, find?_addFirst, Option.or_assoc, ← List.find?_append]
      rfl
  exact run []

/-- The first capabilities have different names. -/
theorem nodup_names_firsts (cs : List (Capability ε)) :
    (firsts cs).Pairwise fun c d => c.name ≠ d.name := by
  have run : ∀ ds : List (Capability ε), (ds.Pairwise fun c d => c.name ≠ d.name) →
      (cs.foldl addFirst ds).Pairwise fun c d => c.name ≠ d.name := by
    induction cs with
    | nil => exact fun _ h => h
    | cons c cs ih =>
      intro ds h
      refine ih (addFirst ds c) ?_
      unfold addFirst
      split
      · exact h
      next hnew =>
        refine List.pairwise_append.2 ⟨h, List.pairwise_singleton _ c, ?_⟩
        intro d hd e he hname
        obtain rfl := List.mem_singleton.1 he
        exact hnew (List.any_eq_true.2 ⟨d, hd, beq_iff_eq.2 hname⟩)
  exact run [] List.Pairwise.nil

theorem unambiguous_firsts (cs : List (Capability ε)) : Capability.Unambiguous (firsts cs) := by
  intro c hc d hd hname
  have hne := nodup_names_firsts cs
  have hsame := List.Pairwise.forall_of_forall_of_flip
    (R := fun c d : Capability ε => c.name = d.name → c = d) (fun _ _ _ => rfl)
    (hne.imp fun h heq => absurd heq h) (hne.imp fun h heq => absurd heq.symm h)
  exact hsame hc hd hname

/-- **A capability is first of its name** when the run has no other one before. -/
theorem mem_firsts {cs : List (Capability ε)} {c : Capability ε} :
    c ∈ firsts cs ↔ (cs.find? fun d => d.name == c.name) = some c := by
  rw [← FeatureSet.mem_ofList (unambiguous_firsts cs), FeatureSet.mem_ofList_iff_find?,
    find?_firsts]

/-! ## What one capability changes -/

/-- Every singleton role is offered. -/
theorem mem_singletonRoles (role : SingletonRole) : role ∈ singletonRoles := by
  cases role <;> simp [singletonRoles]

theorem offer_ok {policy : SingletonPolicy} {role : SingletonRole}
    {holder? holder?' : Option (Capability ε)} {c : Capability ε}
    (h : offer policy role holder? c = .ok holder?') : holder?' = holder?.or (some c) := by
  unfold offer at h
  split at h
  · exact (Except.ok.inj h).symm
  · split at h
    · exact (Except.ok.inj h).symm
    · split at h
      · exact (Except.ok.inj h).symm
      · cases h

/-- A capability fills the roles that it claims and nobody holds. -/
theorem fill_ok {policy : SingletonPolicy} {c : Capability ε}
    {holders holders' : SingletonRole → Option (Capability ε)} {role : SingletonRole}
    (h : fill policy c holders role = .ok holders') :
    ∀ r, holders' r =
      if r = role ∧ claims r c = true then (holders r).or (some c) else holders r := by
  intro r
  unfold fill at h
  split at h
  next hclaims =>
    obtain ⟨holder?, hoffer, hres⟩ := Fault.bind_ok h
    obtain rfl := Except.ok.inj hres
    by_cases hr : r = role
    · subst hr
      simp [hclaims, offer_ok hoffer]
    · simp [hr]
  next hclaims =>
    obtain rfl := Except.ok.inj h
    rw [if_neg]
    rintro ⟨rfl, hr⟩
    exact hclaims hr

theorem foldlM_fill_ok {policy : SingletonPolicy} {c : Capability ε} {roles : List SingletonRole}
    {holders holders' : SingletonRole → Option (Capability ε)}
    (h : roles.foldlM (fill policy c) holders = .ok holders') :
    ∀ r, holders' r =
      if r ∈ roles ∧ claims r c = true then (holders r).or (some c) else holders r := by
  have run := Fault.foldlM_induction
    (fun done s => ∀ r, s r =
      if r ∈ done ∧ claims r c = true then (holders r).or (some c) else holders r)
    [] (fun r => by simp) (fun {done s s' role} hs hstep r => ?_) h
  · simpa using run
  · rw [fill_ok hstep r, hs r]
    by_cases hclaims : claims r c = true
    · by_cases hr : r = role
      · subst hr
        by_cases hmem : r ∈ done
        · simp [hmem, hclaims]
        · simp [hmem, hclaims]
      · simp [hr, hclaims]
    · simp [hclaims]

theorem find?_put (c : Capability ε) (sets : SortedMap Target (FeatureSet ε)) (t u : Target) :
    (put c sets t).find? u =
      if u = t then some (((sets.find? u).getD .empty).insert c) else sets.find? u := by
  rw [put, SortedMap.find?_insert]
  split
  next h => rw [h]
  next => rfl

/-- Putting a capability into the sets of some targets. -/
theorem find?_foldl_put (c : Capability ε) (ts : List Target)
    (sets : SortedMap Target (FeatureSet ε)) (u : Target) :
    (ts.foldl (put c) sets).find? u =
      if u ∈ ts then some (((sets.find? u).getD .empty).insert c) else sets.find? u := by
  induction ts generalizing sets with
  | nil => simp
  | cons t ts ih =>
    rw [List.foldl_cons, ih, find?_put]
    by_cases hu : u = t
    · simp [hu, FeatureSet.insert_insert]
    · simp [hu]

/-! ## The invariant -/

namespace Gathered

variable {cs ds : List (Capability ε)} {selection : Selection} {policy : SingletonPolicy}
  {s s' : Gathered ε} {c : Capability ε}

/-- **All that some capabilities give is collected.** -/
structure Covers (cs : List (Capability ε)) (selection : Selection) (ds : List (Capability ε))
    (s : Gathered ε) : Prop where
  all : s.all = .ofList ds
  gatedOut : s.gatedOut = .ofList ((ds.filter (isGatedOut cs)).map Capability.name)
  byTarget : ∀ t, s.byTarget.find? t = setOf? (own cs selection t ds)
  included : s.included = (neutrals cs ds).filter isIncluded
  specified : s.specified = (neutrals cs ds).filter fun c => selection.isSelected c.name
  holder : ∀ role, s.holder? role = (claimants cs ds role).head?

theorem covers_nil (cs : List (Capability ε)) (selection : Selection) :
    Covers cs selection [] {} where
  all := rfl
  gatedOut := rfl
  byTarget := fun _ => rfl
  included := rfl
  specified := rfl
  holder := fun _ => rfl

theorem Covers.all_append (h : Covers cs selection ds s) (c : Capability ε) :
    s.all.insert c = .ofList (ds ++ [c]) := by
  rw [FeatureSet.ofList_append, ← h.all]
  rfl

theorem Covers.gatedOut_append (h : Covers cs selection ds s) (hgate : isGatedOut cs c = false) :
    s.gatedOut = .ofList (((ds ++ [c]).filter (isGatedOut cs)).map Capability.name) := by
  rw [List.filter_append, List.filter_cons_of_neg (by simp [hgate]), List.filter_nil,
    List.append_nil, h.gatedOut]

/-- A capability that is gated out goes into no target. -/
theorem Covers.takeGatedOut (h : Covers cs selection ds s) (hgate : isGatedOut cs c = true) :
    Covers cs selection (ds ++ [c])
      { s with all := s.all.insert c, gatedOut := s.gatedOut.insert c.name } := by
  have hneutrals : neutrals cs (ds ++ [c]) = neutrals cs ds := by
    simp [neutrals, hgate]
  constructor
  case all => exact h.all_append c
  case gatedOut =>
    show s.gatedOut.insert c.name = _
    rw [h.gatedOut, List.filter_append, List.filter_cons_of_pos hgate, List.filter_nil,
      List.map_append, List.map_singleton, SortedSet.ofList_append_singleton]
  case byTarget =>
    intro t
    rw [setOf?_own_append, if_neg (by simp [activates, hgate])]
    exact h.byTarget t
  case included => rw [hneutrals]; exact h.included
  case specified => rw [hneutrals]; exact h.specified
  case holder => intro role; rw [claimants, hneutrals]; exact h.holder role

/-- An admitted capability for a target goes there. -/
theorem Covers.takeBound (h : Covers cs selection ds s) (hgate : isGatedOut cs c = false)
    (hneutral : c.isNeutral = false) {t : Target} (htarget : c.target? = some t) :
    Covers cs selection (ds ++ [c])
      { s with all := s.all.insert c, byTarget := put c s.byTarget t } := by
  have hneutrals : neutrals cs (ds ++ [c]) = neutrals cs ds := by
    simp [neutrals, hneutral]
  have hactivates : ∀ u, activates cs selection u c = true ↔ u = t := by
    intro u
    obtain ⟨v, hfor⟩ := Capability.isNeutral_eq_false_iff.1 hneutral
    obtain ⟨hv, hconcrete⟩ := Capability.isFor_iff.1 hfor
    rw [htarget] at hv
    obtain rfl := Option.some.inj hv
    simp only [activates, hgate, hneutral, Bool.not_false, Bool.true_and, Bool.false_and,
      Bool.or_false, Capability.isFor_iff, htarget, Option.some.injEq]
    constructor
    · exact fun hu => hu.1.symm
    · rintro rfl
      exact ⟨rfl, hconcrete⟩
  constructor
  case all => exact h.all_append c
  case gatedOut => exact h.gatedOut_append hgate
  case byTarget =>
    intro u
    show (put c s.byTarget t).find? u = _
    rw [find?_put, h.byTarget, setOf?_own_append]
    simp only [hactivates]
  case included => rw [hneutrals]; exact h.included
  case specified => rw [hneutrals]; exact h.specified
  case holder => intro role; rw [claimants, hneutrals]; exact h.holder role

/-- An admitted neutral capability goes where it is propagated, among those that
every target has, and into the roles it claims that nobody holds. -/
theorem Covers.takeNeutral (h : Covers cs selection ds s) (hgate : isGatedOut cs c = false)
    (hneutral : c.isNeutral = true)
    (hok : { s with all := s.all.insert c }.takeNeutral selection policy c = .ok s') :
    Covers cs selection (ds ++ [c]) s' := by
  have hneutrals : neutrals cs (ds ++ [c]) = neutrals cs ds ++ [c] := by
    simp [neutrals, hgate, hneutral]
  have hactivates : ∀ t, activates cs selection t c = true ↔
      t ∈ (selection.targets c.name).toList := by
    intro t
    simp only [activates, hgate, hneutral, Capability.isFor_of_isNeutral hneutral t, Bool.not_false,
      Bool.true_and, Bool.false_or]
    exact SortedSet.mem_toList.symm
  obtain ⟨holders, hfill, hres⟩ := Fault.bind_ok hok
  obtain rfl := Except.ok.inj hres
  constructor
  case all => exact h.all_append c
  case gatedOut => exact h.gatedOut_append hgate
  case byTarget =>
    intro t
    show ((selection.targets c.name).toList.foldl (put c) s.byTarget).find? t = _
    rw [find?_foldl_put, h.byTarget, setOf?_own_append]
    simp only [hactivates]
  case included =>
    show (if isIncluded c then s.included ++ [c] else s.included) = _
    rw [hneutrals, List.filter_append, h.included]
    cases hc : isIncluded c <;> simp [hc]
  case specified =>
    show (if selection.isSelected c.name then s.specified ++ [c] else s.specified) = _
    rw [hneutrals, List.filter_append, h.specified]
    cases hc : selection.isSelected c.name <;> simp [hc]
  case holder =>
    intro role
    have hrole : role ∈ singletonRoles := mem_singletonRoles role
    show holders role = _
    rw [foldlM_fill_ok hfill role, claimants, hneutrals, List.filter_append, List.head?_append]
    show (if _ then (s.holder? role).or (some c) else s.holder? role) = _
    rw [h.holder role]
    -- `c` is the last claimant, so the first one only if there was none before
    cases hc : claims role c with
    | true => simp [hrole, hc, claimants]
    | false => simp [hc, claimants]

/-- **One step of the pass.**  It collects what a capability gives, unless one of
its name was taken before. -/
theorem Covers.take (h : Covers cs selection ds s) (hok : s.take cs selection policy c = .ok s') :
    Covers cs selection (addFirst ds c) s' := by
  unfold Gathered.take at hok
  rw [h.all, FeatureSet.contains_eq, FeatureSet.find?_ofList, List.isSome_find?] at hok
  unfold addFirst
  split at hok
  next hseen =>
    obtain rfl := Except.ok.inj hok
    rw [if_pos hseen]
    exact h
  next hnew =>
    rw [if_neg hnew]
    unfold takeNew at hok
    cases hgate : isGatedOut cs c with
    | true =>
      rw [if_pos hgate] at hok
      obtain rfl := Except.ok.inj hok
      exact h.takeGatedOut hgate
    | false =>
      rw [if_neg (by simp [hgate])] at hok
      cases hneutral : c.isNeutral with
      | true =>
        rw [if_pos hneutral] at hok
        exact h.takeNeutral hgate hneutral hok
      | false =>
        rw [if_neg (by simp [hneutral])] at hok
        split at hok
        next htarget =>
          -- a capability for no target would be neutral
          rw [Capability.isNeutral, htarget] at hneutral
          cases hneutral
        next t htarget =>
          obtain rfl := Except.ok.inj hok
          exact h.takeBound hgate hneutral htarget

/-- **The pass.**  It collects what the first of the capabilities give that it has
read. -/
theorem covers_of_pass (hok : ds.foldlM (Gathered.take cs selection policy) {} = .ok s) :
    Covers cs selection (firsts ds) s := by
  -- the induction is on what the pass has read, while gates look at all of `cs`
  have run := Fault.foldlM_induction (fun done s => Covers cs selection (firsts done) s) []
    (covers_nil cs selection) (fun {done s s' c} hs hstep => ?_) hok
  · exact run
  · rw [firsts, List.foldl_append]
    exact hs.take hstep

end Gathered

end Fanout.Partition
