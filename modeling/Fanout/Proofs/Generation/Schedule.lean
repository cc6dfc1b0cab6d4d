import Fanout.Proofs.Generation.Calls

/-!
# The schedule of a run

The log of a run names capabilities and targets, and what it can say is settled
by the partition before anything is applied: it begins the schedule, which is
the list of all turns by name.

## Main definitions

* `Partition.schedule` — the capabilities of each active target, in order.
* `Run.Follows` — a run's log begins a schedule, and is all of it unless a fault
  stopped the run.

## Main statements

* `Generation.follows_apply` — applying the capabilities follows the schedule.
* `Generation.apply_faultless` — a run fails only when a capability does.
-/

namespace Fanout

variable {ε ρ : Type}

/-- What is applied to what. -/
def Turn.place (turn : Turn ε) : String × Target := (turn.capability.name, turn.target)

/-- What was applied to what. -/
def Applied.place (e : Applied ρ) : String × Target := (e.capability, e.target)

namespace Partition

/-- The capabilities of a target in the order in which they are applied. -/
def scheduleFor (p : Partition ε) (t : Target) : List (String × Target) :=
  ((p.subset? t).getD .empty).ordered.map fun c => (c.name, t)

/-- **The schedule of a partition.** -/
def schedule (p : Partition ε) : List (String × Target) :=
  p.activeTargets.flatMap p.scheduleFor

theorem schedule_eq (p : Partition ε) : p.schedule = p.turns.map Turn.place := by
  rw [turns, List.map_flatMap]
  unfold schedule scheduleFor turnsFor
  simp only [List.map_map]
  rfl

/-- Only active targets have a set. -/
theorem mem_schedule {p : Partition ε} {name : String} {t : Target} :
    (name, t) ∈ p.schedule ↔ ∃ set, p.subset? t = some set ∧ set.contains name = true := by
  rw [schedule_eq, List.mem_map]
  constructor
  · rintro ⟨turn, hturn, hplace⟩
    obtain ⟨rfl, rfl⟩ := Prod.mk.inj hplace
    obtain ⟨set, hset, hc⟩ := mem_turns.1 hturn
    exact ⟨set, hset, FeatureSet.contains_iff.2 ⟨_, hc, rfl⟩⟩
  · rintro ⟨set, hset, hname⟩
    obtain ⟨c, hc, rfl⟩ := FeatureSet.contains_iff.1 hname
    exact ⟨⟨c, t⟩, mem_turns.2 ⟨set, hset, hc⟩, rfl⟩

end Partition

/-- **A run follows a schedule.** -/
structure Run.Follows (schedule : List (String × Target)) (r : Run ε ρ) : Prop where
  begins : r.log.map Applied.place <+: schedule
  complete : r.fault? = none → r.log.map Applied.place = schedule

namespace Generation

/-- **Applying the capabilities follows the schedule.** -/
theorem follows_apply (behave : Behaviour ε ρ) (g : Generation ε) :
    Run.Follows g.partition.schedule (g.apply behave) := by
  obtain ⟨calls, h⟩ := performs_apply behave g
  have hlog : (g.apply behave).log.map Applied.place = (calls.map Call.turn).map Turn.place := by
    rw [h.log, List.map_map, List.map_map]
    rfl
  rw [Partition.schedule_eq]
  constructor
  · rw [hlog]
    exact h.begins.map Turn.place
  · intro hfault
    rw [hlog, (h.complete hfault).1]

/-- A run fails only when a capability does. -/
theorem apply_faultless {behave : Behaviour ε ρ} (h : ∀ c t g, (behave c t g).2.2 = none)
    (g : Generation ε) : (g.apply behave).fault? = none :=
  (apply_sound (P := fun _ => True) (fun _ _ _ => trivial) (fun _ _ _ => trivial)
    (fun _ _ _ _ => ⟨trivial, h _ _ _⟩) trivial).1

end Generation

end Fanout
