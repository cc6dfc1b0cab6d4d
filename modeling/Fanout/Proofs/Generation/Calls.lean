import Fanout.Generation.Apply
import Fanout.Proofs.Capability.Order
import Fanout.Proofs.Partition.Membership

/-!
# The calls of a run

Applying the capabilities is a sequence of calls, each in the state that the one
before it has left.  Whose turn it is, and when, is settled by the partition
before the first call.  What a call does is up to the capability, and all it can
do to the sequence is to end it.

## Main definitions

* `Turn` — a capability and the target it is applied to, and `Partition.turns`,
  all turns of a partition.
* `Call` — a turn and the state in which it is taken.
* `Run.Made` — calls one after the other lead from one state to another.
* `Run.Performs` — a run takes turns in order, up to the first that fails.

## Main statements

* `Partition.mem_turns`, `Partition.turns_ascending` — which turns there are, and
  their order; by `Turn.eq_of_before` there is one list only that has both properties.
* `Generation.performs_apply` — applying the capabilities takes these turns.
* `Run.Performs.stops_at` — a run stops at the first turn that fails.
* `Generation.apply_sound` — turns that all succeed make a run without a fault.
* `Generation.turns_of_run` — all of it together, with the scope afterwards.
-/

namespace Fanout

variable {ε ρ : Type}

/-! ## Turns -/

/-- **A capability's turn** to be applied to a target. -/
structure Turn (ε : Type) where
  capability : Capability ε
  target : Target

/-- **A turn comes before another**: by target, the shared scope last, then by the
order of the capabilities, then by their names. -/
def Turn.Before (a b : Turn ε) : Prop :=
  compare a.target b.target = .lt ∨ a.target = b.target ∧ a.capability.Before b.capability

instance (a b : Turn ε) : Decidable (a.Before b) :=
  inferInstanceAs (Decidable (_ ∨ _ ∧ a.capability.Before b.capability))

namespace Partition

variable {p : Partition ε}

/-- The turns for a target, in order. -/
def turnsFor (p : Partition ε) (t : Target) : List (Turn ε) :=
  ((p.subset? t).getD .empty).ordered.map fun c => ⟨c, t⟩

/-- **The turns of a partition**, in order. -/
def turns (p : Partition ε) : List (Turn ε) := p.activeTargets.flatMap p.turnsFor

theorem mem_turnsFor {turn : Turn ε} {t : Target} : turn ∈ p.turnsFor t ↔
    turn.target = t ∧ ∃ set, p.subset? t = some set ∧ turn.capability ∈ set := by
  obtain ⟨c, u⟩ := turn
  unfold turnsFor
  rw [List.mem_map]
  constructor
  · rintro ⟨d, hd, he⟩
    obtain ⟨rfl, rfl⟩ := Turn.mk.inj he
    rw [FeatureSet.mem_ordered] at hd
    cases hset : p.subset? t with
    | none => rw [hset] at hd; cases hd
    | some set =>
      rw [hset] at hd
      exact ⟨rfl, set, rfl, hd⟩
  · rintro ⟨rfl, set, hset, hc⟩
    refine ⟨c, ?_, rfl⟩
    rwa [hset, FeatureSet.mem_ordered]

/-- The active targets are those that have a set. -/
theorem mem_activeTargets {t : Target} : t ∈ p.activeTargets ↔ ∃ set, p.subset? t = some set := by
  unfold activeTargets subset? concreteTargets
  rw [List.mem_append, List.mem_singleton, SortedMap.mem_keys_iff]
  split
  next ht => simp [Target.isShared_iff.1 ht]
  next ht =>
    refine or_iff_left fun hshared => ht (Target.isShared_iff.2 hshared)

/-- Every member of an active target's set has a turn there. -/
theorem mem_turns {turn : Turn ε} :
    turn ∈ p.turns ↔ ∃ set, p.subset? turn.target = some set ∧ turn.capability ∈ set := by
  unfold turns
  rw [List.mem_flatMap]
  constructor
  · rintro ⟨t, -, hturn⟩
    obtain ⟨rfl, h⟩ := mem_turnsFor.1 hturn
    exact h
  · rintro ⟨set, hset, hc⟩
    exact ⟨_, mem_activeTargets.2 ⟨set, hset⟩, mem_turnsFor.2 ⟨rfl, set, hset, hc⟩⟩

/-- Only capabilities that were read have turns. -/
theorem mem_of_mem_turns {cs : List (Capability ε)} {selection : Selection}
    {policy : SingletonPolicy} {turn : Turn ε} (h : compute cs selection policy = .ok p)
    (hturn : turn ∈ p.turns) : turn.capability ∈ cs := by
  obtain ⟨set, hset, hc⟩ := mem_turns.1 hturn
  exact List.mem_of_find?_eq_some (mem_firsts.1 ((mem_all h).1 (mem_all_of_mem_subset h hset hc)))

/-- The shared scope comes behind every other target. -/
theorem activeTargets_ascending (h : .shared ∉ p.concreteTargets) :
    p.activeTargets.Pairwise fun t u => compare t u = .lt := by
  refine List.pairwise_append.2 ⟨p.byTarget.keys_ascending, List.pairwise_singleton _ _, ?_⟩
  intro t ht u hu
  rw [List.mem_singleton] at hu
  subst hu
  cases t with
  | shared => exact absurd ht h
  | _ => rfl

/-- **The turns ascend strictly**, so none is taken twice. -/
theorem turns_ascending (h : .shared ∉ p.concreteTargets) : p.turns.Pairwise Turn.Before := by
  refine List.pairwise_flatMap.2 ⟨fun t _ => ?_, ?_⟩
  · refine List.pairwise_map.2 ((FeatureSet.ordered_ascending _).imp fun hbefore => ?_)
    exact Or.inr ⟨rfl, hbefore⟩
  · refine (activeTargets_ascending h).imp fun hlt a ha b hb => ?_
    obtain ⟨hta, -⟩ := mem_turnsFor.1 ha
    obtain ⟨htb, -⟩ := mem_turnsFor.1 hb
    exact Or.inl (by rw [hta, htb]; exact hlt)

end Partition

namespace Turn

/-- The order of turns is that of three keys: target, order and name. -/
theorem Before.compare_eq {a b : Turn ε} (h : a.Before b) :
    compareLex (compareOn target) (compareLex (compareOn fun turn => turn.capability.order)
      (compareOn fun turn => turn.capability.name)) a b = .lt := by
  refine Ordering.then_eq_lt.2 ?_
  rcases h with hlt | ⟨htarget, hbefore⟩
  · exact Or.inl hlt
  · refine Or.inr ⟨?_, hbefore⟩
    rw [compareOn, htarget]
    exact Std.ReflCmp.compare_self

/-- **There is one way to list turns in their order.** -/
theorem eq_of_before {l l' : List (Turn ε)} (h : l.Pairwise Before) (h' : l'.Pairwise Before)
    (hmem : ∀ turn, turn ∈ l ↔ turn ∈ l') : l = l' :=
  eq_of_ascending _ (h.imp Before.compare_eq) (h'.imp Before.compare_eq) hmem

end Turn

/-! ## Calls -/

/-- **Call of a run**: a turn, and the state in which it is taken. -/
structure Call (ε : Type) where
  turn : Turn ε
  state : Generation ε

namespace Call

variable (behave : Behaviour ε ρ) (call : Call ε)

/-- What the capability does: the state after the call, a report, and perhaps a
failure. -/
def result : Generation ε × ρ × Option Fault :=
  behave call.turn.capability call.turn.target call.state

/-- The failure of the call, if it fails. -/
def fault? : Option Fault := (call.result behave).2.2

/-- The entry of the log. -/
def entry : Applied ρ :=
  ⟨call.turn.capability.name, call.turn.target, (call.result behave).2.1⟩

end Call

namespace Run

variable {behave : Behaviour ε ρ} {g g' : Generation ε} {calls : List (Call ε)}
  {turns : List (Turn ε)} {r : Run ε ρ}

/-- **Calls one after the other**, from one state to another.  A call is made in a
state in which its target is open; between calls, nothing happens but that the
scope moves to a target, which is opened. -/
inductive Made (behave : Behaviour ε ρ) : Generation ε → List (Call ε) → Generation ε → Prop
  | nothing (g : Generation ε) : Made behave g [] g
  | scope {g g' : Generation ε} {calls : List (Call ε)} (t : Target)
      (h : Made behave (g.setScope t) calls g') : Made behave g calls g'
  | call {g g' : Generation ε} {calls : List (Call ε)} (turn : Turn ε)
      (h : Made behave (Call.result behave ⟨turn, g.openTarget turn.target⟩).1 calls g') :
      Made behave g (⟨turn, g.openTarget turn.target⟩ :: calls) g'

theorem Made.append {g'' : Generation ε} {more : List (Call ε)} (h : Made behave g calls g')
    (hmore : Made behave g' more g'') : Made behave g (calls ++ more) g'' := by
  induction h with
  | nothing => exact hmore
  | scope t _ ih => exact .scope t (ih hmore)
  | call turn _ ih => exact .call turn (ih hmore)

/-- **What calls one after the other keep**: all that opening targets, moving the scope
and each of the calls keep.  So every call is made in a state that has it. -/
theorem Made.preserves {P : Generation ε → Prop} (hopen : ∀ g t, P g → P (g.openTarget t))
    (hscope : ∀ g t, P g → P (g.setScope t)) (h : Made behave g calls g')
    (hcall : ∀ call ∈ calls, P call.state → P (call.result behave).1) (hg : P g) :
    P g' ∧ ∀ call ∈ calls, P call.state := by
  induction h with
  | nothing => exact ⟨hg, fun _ h => absurd h List.not_mem_nil⟩
  | scope t _ ih => exact ih hcall (hscope _ t hg)
  | call turn _ ih =>
    obtain ⟨hfirst, hrest⟩ := List.forall_mem_cons.1 hcall
    have hstate := hopen _ turn.target hg
    obtain ⟨hend, hstates⟩ := ih hrest (hfirst hstate)
    exact ⟨hend, List.forall_mem_cons.2 ⟨hstate, hstates⟩⟩

/-- **A run takes turns** by making calls, up to the first that fails. -/
structure Performs (behave : Behaviour ε ρ) (turns : List (Turn ε)) (g : Generation ε)
    (calls : List (Call ε)) (r : Run ε ρ) : Prop where
  made : Made behave g calls r.state
  log : r.log = calls.map (Call.entry behave)
  /-- The turns are taken in order, and none is left out. -/
  begins : calls.map Call.turn <+: turns
  /-- A run without a fault takes all turns, and no call has failed. -/
  complete : r.fault? = none →
    calls.map Call.turn = turns ∧ ∀ call ∈ calls, call.fault? behave = none
  /-- A fault is that of the last call, and no earlier one has failed. -/
  stopped : ∀ fault, r.fault? = some fault → ∃ done last, calls = done ++ [last] ∧
    (∀ call ∈ done, call.fault? behave = none) ∧ last.fault? behave = some fault

theorem performs_nothing (g : Generation ε) : Performs behave [] g [] (nothing g) where
  made := .nothing g
  log := rfl
  begins := List.prefix_rfl
  complete := fun _ => ⟨rfl, fun _ h => absurd h List.not_mem_nil⟩
  stopped := fun _ h => by cases h

theorem performs_one (t : Target) (c : Capability ε) (g : Generation ε) :
    Performs behave [⟨c, t⟩] g [⟨⟨c, t⟩, g.openTarget t⟩] (one behave t c g) where
  made := .call ⟨c, t⟩ (.nothing _)
  log := rfl
  begins := List.prefix_rfl
  complete := by
    intro hfault
    refine ⟨rfl, fun call hcall => ?_⟩
    rw [List.mem_singleton] at hcall
    subst hcall
    exact hfault
  stopped := fun _ hfault => ⟨[], _, rfl, fun _ h => absurd h List.not_mem_nil, hfault⟩

/-- Moving the scope beforehand is part of the run. -/
theorem Performs.scope {t : Target} (h : Performs behave turns (g.setScope t) calls r) :
    Performs behave turns g calls r :=
  { h with made := .scope t h.made }

/-- **Runs one after the other** take their turns one after the other. -/
theorem performs_andThen {first second : List (Turn ε)} {next : Generation ε → Run ε ρ}
    (hfirst : Performs behave first g calls r)
    (hsecond : ∀ g', ∃ more, Performs behave second g' more (next g')) :
    ∃ all, Performs behave (first ++ second) g all (r.andThen next) := by
  unfold andThen
  cases hfault : r.fault? with
  | some fault =>
    refine ⟨calls, hfirst.made, hfirst.log, ?_, ?_, hfirst.stopped⟩
    · exact hfirst.begins.trans (List.prefix_append first second)
    · intro hnone
      rw [hfault] at hnone
      cases hnone
  | none =>
    obtain ⟨hturns, hcalls⟩ := hfirst.complete hfault
    obtain ⟨more, hmore⟩ := hsecond r.state
    refine ⟨calls ++ more, hfirst.made.append hmore.made, ?_, ?_, ?_, ?_⟩
    · show r.log ++ (next r.state).log = _
      rw [List.map_append, hfirst.log, hmore.log]
    · rw [List.map_append, hturns]
      exact (List.prefix_append_right_inj first).2 hmore.begins
    · intro hnone
      obtain ⟨hrest, hsound⟩ := hmore.complete hnone
      refine ⟨by rw [List.map_append, hturns, hrest], fun call hcall => ?_⟩
      rcases List.mem_append.1 hcall with hcall | hcall
      · exact hcalls call hcall
      · exact hsound call hcall
    · intro fault hsome
      obtain ⟨done, last, rfl, hdone, hlast⟩ := hmore.stopped fault hsome
      refine ⟨calls ++ done, last, (List.append_assoc _ _ _).symm, fun call hcall => ?_, hlast⟩
      rcases List.mem_append.1 hcall with hcall | hcall
      · exact hcalls call hcall
      · exact hdone call hcall

/-- **A run stops at the first turn that fails**, wherever it is settled by the turns
alone which of them fail. -/
theorem Performs.stops_at {first rest : List (Turn ε)} {turn : Turn ε} {fault : Fault}
    (h : Performs behave (first ++ turn :: rest) g calls r)
    (hfirst : ∀ turn' ∈ first, ∀ g', Call.fault? behave ⟨turn', g'⟩ = none)
    (hturn : ∀ g', Call.fault? behave ⟨turn, g'⟩ = some fault) :
    calls.map Call.turn = first ++ [turn] ∧ r.fault? = some fault := by
  cases hfault : r.fault? with
  | none =>
    -- the turn would have been taken without a failure
    obtain ⟨htaken, hsound⟩ := h.complete hfault
    have hmem : turn ∈ calls.map Call.turn :=
      htaken ▸ List.mem_append_right _ List.mem_cons_self
    obtain ⟨call, hcall, rfl⟩ := List.mem_map.1 hmem
    cases (hsound call hcall).symm.trans (hturn call.state)
  | some fault' =>
    obtain ⟨done, last, rfl, hdone, hlast⟩ := h.stopped fault' hfault
    obtain ⟨after, hafter⟩ := h.begins
    rw [List.map_append, List.map_singleton, List.append_assoc, List.singleton_append] at hafter
    have hends : done.map Call.turn = first ∧ last.turn = turn := by
      rcases List.append_eq_append_iff.1 hafter with
        ⟨between, hbefore, hrest⟩ | ⟨between, hbefore, hrest⟩
      · cases between with
        | nil => exact ⟨by rw [hbefore, List.append_nil], (List.cons.inj hrest).1⟩
        | cons turn' between =>
          -- the last call is one of those that succeed
          obtain rfl := (List.cons.inj hrest).1
          have hmem : last.turn ∈ first := hbefore ▸ List.mem_append_right _ List.mem_cons_self
          cases (hfirst _ hmem last.state).symm.trans hlast
      · cases between with
        | nil => exact ⟨by rw [hbefore, List.append_nil], (List.cons.inj hrest).1.symm⟩
        | cons turn' between =>
          -- the turn that fails has been taken before
          obtain rfl := (List.cons.inj hrest).1
          have hmem : turn ∈ done.map Call.turn :=
            hbefore ▸ List.mem_append_right _ List.mem_cons_self
          obtain ⟨call, hcall, rfl⟩ := List.mem_map.1 hmem
          cases (hdone call hcall).symm.trans (hturn call.state)
    obtain ⟨hdone, rfl⟩ := hends
    refine ⟨by rw [List.map_append, hdone, List.map_singleton], ?_⟩
    exact hlast.symm.trans (hturn last.state)

variable (behave)

theorem performs_each (t : Target) (cs : List (Capability ε)) (g : Generation ε) :
    ∃ calls, Performs behave (cs.map fun c => ⟨c, t⟩) g calls (each behave t cs g) := by
  induction cs generalizing g with
  | nil => exact ⟨[], performs_nothing g⟩
  | cons c cs ih => exact performs_andThen (performs_one t c g) ih

theorem performs_targets (p : Partition ε) (ts : List Target) (g : Generation ε) :
    ∃ calls, Performs behave (ts.flatMap p.turnsFor) g calls (targets behave p ts g) := by
  induction ts generalizing g with
  | nil => exact ⟨[], performs_nothing g⟩
  | cons t ts ih =>
    obtain ⟨calls, hcalls⟩ := performs_each behave t ((p.subset? t).getD .empty).ordered
      (g.setScope t)
    exact performs_andThen hcalls.scope ih

end Run

/-! ## The whole run -/

namespace Generation

/-- **Applying the capabilities takes the turns of the partition.** -/
theorem performs_apply (behave : Behaviour ε ρ) (g : Generation ε) :
    ∃ calls, Run.Performs behave g.partition.turns g.hideTargetFeatures calls (g.apply behave) := by
  obtain ⟨calls, h⟩ := Run.performs_targets behave g.partition g.partition.activeTargets
    g.hideTargetFeatures
  -- the scope moves once more, back to the shared one
  have hreset : Run.Made behave g.hideTargetFeatures (calls ++ []) (g.apply behave).state :=
    h.made.append (.scope .shared (.nothing _))
  rw [List.append_nil] at hreset
  exact ⟨calls, { h with made := hreset }⟩

/-- **A run whose turns all succeed**, in every state with a property that they keep, is
one without a fault, and ends in a state with the property. -/
theorem apply_sound {P : Generation ε → Prop} {behave : Behaviour ε ρ} {g : Generation ε}
    (hopen : ∀ g t, P g → P (openTarget g t)) (hscope : ∀ g t, P g → P (setScope g t))
    (hturn : ∀ turn ∈ g.partition.turns, ∀ g', P g' →
      P (Call.result behave ⟨turn, g'⟩).1 ∧ Call.fault? behave ⟨turn, g'⟩ = none)
    (h : P g.hideTargetFeatures) :
    (g.apply behave).fault? = none ∧ P (g.apply behave).state := by
  obtain ⟨calls, hcalls⟩ := performs_apply behave g
  have hsound : ∀ call ∈ calls, P call.state →
      P (call.result behave).1 ∧ call.fault? behave = none :=
    fun call hcall => hturn _ (hcalls.begins.subset (List.mem_map_of_mem hcall)) _
  obtain ⟨hend, hstates⟩ :=
    hcalls.made.preserves hopen hscope (fun call hcall hp => (hsound call hcall hp).1) h
  refine ⟨?_, hend⟩
  cases hfault : (g.apply behave).fault? with
  | none => rfl
  | some fault =>
    obtain ⟨done, last, rfl, -, hlast⟩ := hcalls.stopped fault hfault
    have hmem : last ∈ done ++ [last] := List.mem_append_right _ (List.mem_singleton_self last)
    rw [(hsound last hmem (hstates last hmem)).2] at hlast
    cases hlast

/-- **The turns of a run.**  Every capability in the set of an active target has one
turn there.  The turns ascend by target, the shared scope last, then by order
and name, and a run takes them in this way, each in a state in which the target
is open, up to the first call that fails, whose fault is the run's.  Afterwards
the scope is the shared one. -/
theorem turns_of_run {cs : List (Capability ε)} {selection : Selection} {policy : SingletonPolicy}
    (behave : Behaviour ε ρ) (g : Generation ε)
    (h : Partition.compute cs selection policy = .ok g.partition) :
    (∀ turn, turn ∈ g.partition.turns ↔
      ∃ set, g.partition.subset? turn.target = some set ∧ turn.capability ∈ set) ∧
    g.partition.turns.Pairwise Turn.Before ∧
    (∃ calls, Run.Performs behave g.partition.turns g.hideTargetFeatures calls (g.apply behave)) ∧
    (g.apply behave).state.scope = .shared :=
  ⟨fun _ => Partition.mem_turns,
    Partition.turns_ascending (Partition.shared_notMem_concreteTargets h),
    performs_apply behave g, rfl⟩

/-- A capability for the AWS target that is applied early. -/
def vault : Capability Unit := { name := "vault", target? := some .aws, order := -10, effect := () }

/-- A capability for the GCP target. -/
def dataflow : Capability Unit := { name := "dataflow", target? := some .gcp, effect := () }

/-- Another one for the GCP target. -/
def pubsub : Capability Unit := { name := "pubsub", target? := some .gcp, effect := () }

/-- A neutral capability. -/
def guide : Capability Unit := { name := "guide", effect := () }

/-- A plan with two capabilities for each of two targets, and one for no target. -/
def crowdedPlan : GenerationPlan Unit where
  project := .parse "com.example.demo"
  capabilities := [guide, pubsub, dataflow, Partition.metrics, vault]

/-- The members of its sets. -/
def crowdedMembers : Target → List (Capability Unit)
  | .aws => [Partition.metrics, vault]
  | .gcp => [dataflow, pubsub]
  | .shared => [guide]
  | .azure | .oci => []

/-- Its turns. -/
def crowdedTurns : List (Turn Unit) :=
  [⟨vault, .aws⟩, ⟨Partition.metrics, .aws⟩, ⟨dataflow, .gcp⟩, ⟨pubsub, .gcp⟩, ⟨guide, .shared⟩]

/-- A behaviour that fails for `dataflow`. -/
def refuse : Behaviour Unit Unit :=
  fun c _ g => (g, (), if c.name = "dataflow" then some (.failure "refused") else none)

/-- The third of five turns fails.  The turns for the AWS target were taken before it, by the
order of their capabilities, and none is taken after it: not the other one for the same target,
and not the one for the shared scope. -/
theorem refused_run : ∃ g, start crowdedPlan = .ok g ∧ g.partition.turns = crowdedTurns ∧
    (g.apply refuse).log.map (fun e => (e.capability, e.target)) =
      [("vault", .aws), ("metrics", .aws), ("dataflow", .gcp)] ∧
    (g.apply refuse).fault? = some (.failure "refused") ∧
    (g.apply refuse).state.scope = .shared := by
  obtain ⟨g, hg, hcompute, hmembers⟩ : ∃ g, start crowdedPlan = .ok g ∧
      Partition.compute crowdedPlan.capabilities .empty .keepFirst = .ok g.partition ∧
      ∀ t, ((g.partition.subset? t).getD .empty).toList = crowdedMembers t :=
    ⟨_, rfl, rfl, fun t => by cases t <;> rfl⟩
  obtain ⟨hturns, hascending, ⟨calls, hcalls⟩, hscope⟩ := turns_of_run refuse g hcompute
  have hmem : ∀ turn, turn ∈ g.partition.turns ↔
      turn.capability ∈ crowdedMembers turn.target := by
    intro turn
    rw [hturns, ← hmembers, FeatureSet.mem_toList]
    cases g.partition.subset? turn.target with
    | none => exact iff_of_false (fun ⟨_, hnone, _⟩ => by cases hnone) nofun
    | some set => simp
  have hbefore : crowdedTurns.Pairwise Turn.Before := by decide
  have hlist : g.partition.turns = crowdedTurns := by
    refine Turn.eq_of_before hascending hbefore fun ⟨c, t⟩ => ?_
    rw [hmem]
    cases t <;> simp [crowdedMembers, crowdedTurns, or_comm]
  rw [hlist] at hcalls
  have hstops : calls.map Call.turn =
      [⟨vault, .aws⟩, ⟨Partition.metrics, .aws⟩] ++ [⟨dataflow, .gcp⟩] ∧
      (g.apply refuse).fault? = some (.failure "refused") := by
    refine hcalls.stops_at (fun turn hturn g' => ?_) fun g' => rfl
    rcases List.mem_cons.1 hturn with rfl | hturn
    · rfl
    · rw [List.mem_singleton.1 hturn]
      rfl
  obtain ⟨htaken, hfault⟩ := hstops
  refine ⟨g, hg, hlist, ?_, hfault, hscope⟩
  have hlog : (g.apply refuse).log.map (fun e => (e.capability, e.target)) =
      (calls.map Call.turn).map fun turn => (turn.capability.name, turn.target) := by
    rw [hcalls.log, List.map_map, List.map_map]
    rfl
  rw [hlog, htaken]
  rfl

end Generation

end Fanout
