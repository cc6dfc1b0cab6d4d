import Fanout.Target
import Fanout.SortedMap

/-!
# Entries by target

A store holds one entry for the shared scope from the start, and one for each
concrete target from the moment it is opened.

## Main definitions

* `Scoped α` — the base entry, and the entries of the opened targets.
* `Scoped.entry` — the entry of a target, made on first use.

## Design notes

Making an entry may have an effect: `entry` takes an action of any monad `m`
and runs it when, and only when, the target has no entry yet.  `Scoped.ensure`
is the same for a value that is at hand.
-/

namespace Fanout

/-- **Entries by target.** -/
structure Scoped (α : Type) where
  /-- The entry of the shared scope. -/
  base : α
  /-- The entries of the opened concrete targets. -/
  opened : SortedMap Target α

namespace Scoped

variable {α : Type}

/-- A store in which no concrete target is open. -/
def ofBase (base : α) : Scoped α := ⟨base, .empty⟩

/-- The entry of a target that has one. -/
def find? (s : Scoped α) (t : Target) : Option α :=
  if t.isShared then some s.base else s.opened.find? t

/-- The entry of a target, or else the entry of the shared scope. -/
def get (s : Scoped α) (t : Target) : α := (s.find? t).getD s.base

/-- Whether a target has an entry. -/
def isOpen (s : Scoped α) (t : Target) : Bool := (s.find? t).isSome

/-- Puts an entry in the place of a target. -/
def put (s : Scoped α) (t : Target) (a : α) : Scoped α :=
  if t.isShared then { s with base := a } else { s with opened := s.opened.insert t a }

/-- **The entry of a target, made on first use.** -/
def entry {m : Type → Type} [Monad m] (s : Scoped α) (t : Target) (make : m α) :
    m (α × Scoped α) :=
  match s.find? t with
  | some a => pure (a, s)
  | none => do
    let a ← make
    pure (a, s.put t a)

/-- Opens a target with a given entry, unless it is open. -/
def ensure (s : Scoped α) (t : Target) (fresh : α) : Scoped α :=
  match s.find? t with
  | some _ => s
  | none => s.put t fresh

/-- Changes the entry of a target that has one. -/
def modify? (s : Scoped α) (t : Target) (f : α → α) : Option (Scoped α) :=
  (s.find? t).map fun a => s.put t (f a)

/-- Changes the entry of a target, which is `fresh` if it has none yet. -/
def update (s : Scoped α) (t : Target) (fresh : α) (f : α → α) : Scoped α :=
  s.put t (f ((s.find? t).getD fresh))

/-- The opened concrete targets, in target order. -/
def targets (s : Scoped α) : List Target := s.opened.keys

/-- The entries of the opened concrete targets, in target order. -/
def openedList (s : Scoped α) : List (Target × α) := s.opened.toList

/-- Every entry, the one of the shared scope first. -/
def toList (s : Scoped α) : List (Target × α) := (.shared, s.base) :: s.openedList

/-! ## Equations -/

@[simp] theorem find?_shared (s : Scoped α) : s.find? .shared = some s.base := rfl

@[simp] theorem get_shared (s : Scoped α) : s.get .shared = s.base := rfl

@[simp] theorem put_shared (s : Scoped α) (a : α) : s.put .shared a = { s with base := a } := rfl

theorem find?_of_concrete {t : Target} (h : t.isShared = false) (s : Scoped α) :
    s.find? t = s.opened.find? t := by
  rw [find?, h]
  rfl

/-- What is read for an open concrete target is its own entry. -/
theorem opened_of_isOpen {t : Target} (h : t.isShared = false) {s : Scoped α}
    (hopen : s.isOpen t = true) : s.opened.find? t = some (s.get t) := by
  obtain ⟨a, ha⟩ := Option.isSome_iff_exists.1 hopen
  rw [get, ha, ← find?_of_concrete h, ha]
  rfl

/-- An entry that was put in place is found there, and the others are as
before. -/
theorem find?_put (s : Scoped α) (t u : Target) (a : α) :
    (s.put t a).find? u = if u = t then some a else s.find? u := by
  rw [put]
  cases ht : t.isShared with
  | true =>
    have htarget : t = .shared := by cases t <;> simp_all [Target.isShared]
    subst htarget
    cases u <;> rfl
  | false =>
    cases hu : u.isShared with
    | true =>
      have hshared : u = .shared := by cases u <;> simp_all [Target.isShared]
      subst hshared
      have hne : ¬ Target.shared = t := by rintro rfl; simp [Target.isShared] at ht
      simp [hne]
    | false =>
      show find? { s with opened := s.opened.insert t a } u = _
      rw [find?_of_concrete hu, find?_of_concrete hu]
      exact SortedMap.find?_insert s.opened t u a

/-- Opening leaves existing entries as they are. -/
theorem find?_ensure (s : Scoped α) (t u : Target) (fresh : α) :
    (s.ensure t fresh).find? u =
      if u = t then some ((s.find? t).getD fresh) else s.find? u := by
  rw [ensure]
  cases h : s.find? t with
  | some a =>
    by_cases hu : u = t
    · subst hu; simp [h]
    · simp [hu]
  | none => simp [find?_put]

/-- Opening a target is nothing to the shared scope. -/
theorem base_ensure (s : Scoped α) (t : Target) (fresh : α) : (s.ensure t fresh).base = s.base := by
  have h := s.find?_ensure t .shared fresh
  rw [find?_shared] at h
  split at h
  next ht =>
    subst ht
    exact Option.some.inj h
  next => exact Option.some.inj h

theorem find?_update (s : Scoped α) (t u : Target) (fresh : α) (f : α → α) :
    (s.update t fresh f).find? u =
      if u = t then some (f ((s.find? t).getD fresh)) else s.find? u := by
  rw [update, find?_put]

/-- No entry is ever opened for the shared scope, which has the base entry. -/
theorem opened_shared_put (s : Scoped α) (t : Target) (a : α) :
    (s.put t a).opened.find? .shared = s.opened.find? .shared := by
  rw [put]
  split
  · rfl
  next ht =>
    refine SortedMap.find?_insert_of_ne s.opened ?_ a
    rintro rfl
    exact ht rfl

theorem opened_shared_ensure (s : Scoped α) (t : Target) (fresh : α) :
    (s.ensure t fresh).opened.find? .shared = s.opened.find? .shared := by
  unfold ensure
  split
  · rfl
  · exact opened_shared_put s t fresh

/-- The entries of the opened targets are those of the concrete targets. -/
theorem mem_openedList {s : Scoped α} {t : Target} {a : α}
    (hshared : s.opened.find? .shared = none) :
    (t, a) ∈ s.openedList ↔ t ≠ .shared ∧ s.find? t = some a := by
  unfold openedList
  rw [← SortedMap.find?_eq_some_iff]
  by_cases ht : t = .shared
  · subst ht
    simp [hshared]
  · rw [find?_of_concrete (by rwa [← Bool.not_eq_true, Target.isShared_iff])]
    simp [ht]

/-- The list of a store lists what is found in it. -/
theorem mem_toList {s : Scoped α} {t : Target} {a : α}
    (hshared : s.opened.find? .shared = none) : (t, a) ∈ s.toList ↔ s.find? t = some a := by
  rw [toList, List.mem_cons, mem_openedList hshared, Prod.mk.injEq]
  by_cases ht : t = .shared
  · subst ht
    simp [eq_comm]
  · simp [ht]

/-- Stores that answer every look-up alike are equal. -/
theorem ext_find? {s s' : Scoped α} (h : ∀ t, s.find? t = s'.find? t)
    (hshared : s.opened.find? .shared = s'.opened.find? .shared) : s = s' := by
  obtain ⟨base, opened⟩ := s
  obtain ⟨base', opened'⟩ := s'
  have hbase : base = base' := Option.some.inj (h .shared)
  have hopened : opened = opened' := SortedMap.ext_find? fun t => by
    cases ht : t.isShared with
    | true =>
      rw [Target.isShared_iff.1 ht]
      exact hshared
    | false =>
      have hfind := h t
      rwa [find?_of_concrete ht, find?_of_concrete ht] at hfind
  rw [hbase, hopened]

end Scoped

end Fanout
