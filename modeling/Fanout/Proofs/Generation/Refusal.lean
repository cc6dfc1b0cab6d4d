import Fanout.Proofs.Generation.Isolation
import Fanout.Proofs.Generation.Templates

/-!
# Refused dependencies and plugins

A dependency or a plugin whose coordinate is to be looked up is refused if the resolver
does not know it.  A refused plugin leaves the run as it was.  A refused dependency leaves
a list behind: the list of its target is opened before the look-up, and it is empty.  To a
target that had a list this is nothing, as is every refusal in the shared scope.  A target
that had none loses sight of the shared list, which it read until then.

## Main statements

* `Generation.addPlugin_refused` — a refused plugin changes nothing.
* `Generation.addDependency_refused` — what a refused dependency opens.
* `Generation.unchanged_of_refused_iff` — when a refused dependency changes nothing.
-/

namespace Fanout

/-! ## Opening with a fresh entry -/

namespace Scoped

variable {α : Type} {s : Scoped α} {t : Target}

theorem ensure_of_isOpen (h : s.isOpen t = true) (fresh : α) : s.ensure t fresh = s := by
  obtain ⟨a, ha⟩ := Option.isSome_iff_exists.1 h
  rw [ensure, ha]

theorem find?_of_closed (h : s.isOpen t = false) : s.find? t = none :=
  Option.isNone_iff_eq_none.1 (Option.isSome_eq_false_iff.1 h)

/-- What is read for a target that is not open is the entry of the shared scope. -/
theorem get_of_closed (h : s.isOpen t = false) : s.get t = s.base := by
  rw [get, find?_of_closed h, Option.getD_none]

theorem get_ensure_of_closed (h : s.isOpen t = false) (fresh : α) (u : Target) :
    (s.ensure t fresh).get u = if u = t then fresh else s.get u := by
  rw [get, find?_ensure, base_ensure, find?_of_closed h]
  split
  · rfl
  · rfl

/-- A target that was not open was not listed. -/
theorem openedList_ensure_ne (h : s.isOpen t = false) (fresh : α) :
    (s.ensure t fresh).openedList ≠ s.openedList := by
  intro hlist
  have hconcrete : t.isShared = false := by
    cases ht : t.isShared with
    | false => rfl
    | true => rw [Target.isShared_iff.1 ht] at h; cases h
  have hfind : (s.ensure t fresh).find? t = s.find? t := by
    rw [find?_of_concrete hconcrete, find?_of_concrete hconcrete]
    exact congrArg (Entries.find? t) hlist
  rw [find?_ensure, if_pos rfl] at hfind
  rw [isOpen, ← hfind] at h
  cases h

/-- Opening shows in the list of the open targets, unless the target is open. -/
theorem openedList_ensure_eq_iff {fresh : α} :
    (s.ensure t fresh).openedList = s.openedList ↔ s.isOpen t = true := by
  constructor
  · intro hlist
    exact Decidable.byContradiction fun hclosed =>
      openedList_ensure_ne (Bool.eq_false_iff.2 hclosed) fresh hlist
  · intro hopen
    rw [ensure_of_isOpen hopen]

/-- Opening shows in what the targets read, unless the target is open or the fresh entry
is that of the shared scope. -/
theorem get_ensure_eq_iff {fresh : α} :
    (∀ u, (s.ensure t fresh).get u = s.get u) ↔ s.isOpen t = true ∨ s.base = fresh := by
  cases hopen : s.isOpen t with
  | true => exact iff_of_true (fun u => by rw [ensure_of_isOpen hopen]) (Or.inl rfl)
  | false =>
    simp only [get_ensure_of_closed hopen, Bool.false_eq_true, false_or]
    constructor
    · intro hget
      have ht := hget t
      rw [if_pos rfl, get_of_closed hopen] at ht
      exact ht.symm
    · intro hfresh u
      split
      next hu => rw [hu, get_of_closed hopen, hfresh]
      next => rfl

end Scoped

/-! ## Refusals -/

namespace Generation

variable {ε : Type} {g : Generation ε} {t : Target} {fault : Fault}

/-- **A refused plugin changes nothing.** -/
theorem addPlugin_refused {p : Plugin} (h : (g.addPlugin t p).2 = .error fault) :
    (g.addPlugin t p).1 = g := by
  unfold addPlugin at h ⊢
  split at h
  · cases h
  · rfl

/-- **A refused dependency opens the list of its target**, and does nothing else. -/
theorem addDependency_refused {d : Dependency} (h : (g.addDependency t d).2 = .error fault) :
    (g.addDependency t d).1 = { g with dependencies := g.dependencies.ensure t .empty } := by
  unfold addDependency at h ⊢
  dsimp only at h ⊢
  split at h
  · cases h
  · rfl

/-- **When a refused dependency changes nothing.**  Everything but the lists of
dependencies is as before, and so is the shared list.  The run is the one before exactly if
the target has a list of its own.  So are the lists of the open targets; and what the
targets read is the same also if the shared list, which the target read before, is as empty
as the one it has now. -/
theorem unchanged_of_refused_iff {d : Dependency} (h : (g.addDependency t d).2 = .error fault) :
    let after := (g.addDependency t d).1
    after = { g with dependencies := after.dependencies } ∧
    after.dependencies.base = g.dependencies.base ∧
    (after = g ↔ g.dependencies.isOpen t = true) ∧
    (after.dependencies.openedList = g.dependencies.openedList ↔
      g.dependencies.isOpen t = true) ∧
    ((∀ u, after.dependencies.get u = g.dependencies.get u) ↔
      g.dependencies.isOpen t = true ∨ g.dependencies.base = .empty) := by
  intro after
  have hafter : after = { g with dependencies := g.dependencies.ensure t .empty } :=
    addDependency_refused h
  rw [hafter]
  refine ⟨rfl, Scoped.base_ensure .., ⟨fun hsame => ?_, fun hopen => ?_⟩,
    Scoped.openedList_ensure_eq_iff, Scoped.get_ensure_eq_iff⟩
  · exact Scoped.openedList_ensure_eq_iff.1 (congrArg (fun g => g.dependencies.openedList) hsame)
  · rw [Scoped.ensure_of_isOpen hopen]

/-- A dependency with a coordinate. -/
def kafka : Dependency := { group? := some "org.apache.kafka", artifact := "kafka" }

/-- A refused dependency is nothing to the AWS target once it has a list. -/
theorem kept_of_refused :
    ∃ g : Generation Unit, Reachable g ∧
      (g.addDependency .aws (.lookup "missing")).2 = .error (.coordinateNotFound "missing") ∧
      (g.addDependency .aws (.lookup "missing")).1 = g ∧ g.dependencies.get .aws = ⟨[kafka]⟩ := by
  have hstart : start bareRun = .ok _ := rfl
  have hreach := (Reachable.of_start hstart).perform (.dependency .aws kafka)
  exact ⟨_, hreach, rfl, (unchanged_of_refused_iff rfl).2.2.1.2 rfl, rfl⟩

/-- A refused dependency takes the shared list from the sight of the AWS target, which had
none of its own, and lists the target as open. -/
theorem shared_list_lost :
    ∃ g : Generation Unit, Reachable g ∧
      (g.addDependency .aws (.lookup "missing")).2 = .error (.coordinateNotFound "missing") ∧
      g.dependencies.get .aws = ⟨[kafka]⟩ ∧ g.dependencies.openedList = [] ∧
      (g.addDependency .aws (.lookup "missing")).1.dependencies.get .aws = .empty ∧
      (g.addDependency .aws (.lookup "missing")).1.dependencies.openedList = [(.aws, .empty)] := by
  have hstart : start bareRun = .ok _ := rfl
  have hreach := (Reachable.of_start hstart).perform (.dependency .shared kafka)
  exact ⟨_, hreach, rfl, rfl, rfl, rfl, rfl⟩

end Generation

end Fanout
