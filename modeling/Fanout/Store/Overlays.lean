import Fanout.Target
import Fanout.SortedMap

/-!
# Entries by target and environment

A store of overlays holds entries under a target and the name of an
environment.  The shared scope is a target like any other here, and a target
may be open without any entry.
-/

namespace Fanout

/-- **Entries by target and environment.** -/
structure Overlays (α : Type) where
  /-- The entries of the opened targets. -/
  opened : SortedMap Target (SortedMap String α)

namespace Overlays

variable {α : Type}

/-- A store in which no target is open. -/
def empty : Overlays α := ⟨.empty⟩

instance : Inhabited (Overlays α) := ⟨empty⟩

/-- The entries of a target that is open. -/
def environments? (s : Overlays α) (t : Target) : Option (SortedMap String α) := s.opened.find? t

/-- The entries of a target; none if it is not open. -/
def environments (s : Overlays α) (t : Target) : SortedMap String α :=
  (s.environments? t).getD .empty

/-- The entry of a target and an environment. -/
def find? (s : Overlays α) (t : Target) (environment : String) : Option α :=
  (s.environments t).find? environment

/-- Whether a target has an entry for an environment. -/
def contains (s : Overlays α) (t : Target) (environment : String) : Bool :=
  (s.find? t environment).isSome

/-- Opens a target. -/
def openTarget (s : Overlays α) (t : Target) : Overlays α :=
  ⟨s.opened.insert t (s.environments t)⟩

/-- Puts an entry in the place of a target and an environment. -/
def put (s : Overlays α) (t : Target) (environment : String) (a : α) : Overlays α :=
  ⟨s.opened.insert t ((s.environments t).insert environment a)⟩

/-- **The entry of a target and an environment, made on first use.** -/
def entry {m : Type → Type} [Monad m] (s : Overlays α) (t : Target) (environment : String)
    (make : m α) : m (α × Overlays α) :=
  match s.find? t environment with
  | some a => pure (a, s)
  | none => do
    let a ← make
    pure (a, s.put t environment a)

/-- Changes the entry of a target and an environment, which is `fresh` if there
is none yet. -/
def update (s : Overlays α) (t : Target) (environment : String) (fresh : α) (f : α → α) :
    Overlays α :=
  s.put t environment (f ((s.find? t environment).getD fresh))

/-- The entries of every opened target, in target order. -/
def toList (s : Overlays α) : List (Target × SortedMap String α) := s.opened.toList

/-! ## Equations -/

@[simp] theorem find?_empty (t : Target) (environment : String) :
    (empty : Overlays α).find? t environment = none := rfl

/-- What is read for an open target are its own entries. -/
theorem opened_of_isOpen {t : Target} {s : Overlays α} (h : (s.environments? t).isSome = true) :
    s.opened.find? t = some (s.environments t) := by
  obtain ⟨environments, he⟩ := Option.isSome_iff_exists.1 h
  rw [Overlays.environments, he]
  exact he

theorem environments?_put (s : Overlays α) (t u : Target) (environment : String) (a : α) :
    (s.put t environment a).environments? u =
      if u = t then some ((s.environments t).insert environment a) else s.environments? u :=
  SortedMap.find?_insert s.opened t u _

theorem environments?_openTarget (s : Overlays α) (t u : Target) :
    (s.openTarget t).environments? u =
      if u = t then some (s.environments t) else s.environments? u :=
  SortedMap.find?_insert s.opened t u _

/-- Opening a target makes no entry. -/
theorem find?_openTarget (s : Overlays α) (t u : Target) (environment : String) :
    (s.openTarget t).find? u environment = s.find? u environment := by
  show ((s.opened.insert t (s.environments t)).find? u |>.getD .empty).find? environment
    = s.find? u environment
  rw [SortedMap.find?_insert]
  split
  · rename_i h; subst h; rfl
  · rfl

/-- An entry that was put in place is found there, and the others are as
before. -/
theorem find?_put (s : Overlays α) (t u : Target) (environment name : String) (a : α) :
    (s.put t environment a).find? u name =
      if u = t ∧ name = environment then some a else s.find? u name := by
  show ((s.opened.insert t ((s.environments t).insert environment a)).find? u
    |>.getD .empty).find? name = _
  rw [SortedMap.find?_insert]
  by_cases hu : u = t
  · subst hu
    rw [if_pos rfl]
    show ((s.environments u).insert environment a).find? name = _
    rw [SortedMap.find?_insert]
    by_cases hn : name = environment <;> simp [hn, find?]
  · simp [hu, find?, environments, environments?]

end Overlays

end Fanout
