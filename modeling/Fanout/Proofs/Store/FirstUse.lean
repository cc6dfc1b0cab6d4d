import Mathlib.Logic.Function.Basic
import Fanout.Proofs.SortedMap
import Fanout.Store.Overlays
import Fanout.Store.Scoped

/-!
# Entries that are made on first use

Two stores make an entry when it is asked for and not there: the one by target, in which the
shared scope has its entry from the start, and the one by target and environment, in which the
shared scope is a target like any other.  What either does to its entries is what a table does
in which the entries are looked up by key.  The law of first use is proved once, for accesses
to such a table, and each store then only has to be seen as one.

A factory is an action on a world of any type, so that it has run shows in the world: where no
factory runs, the world stays as it is.

## Main definitions

* `Access`, `Access.perform` — one access to a table, and what comes of it.
* `MadeOnFirstUse` — the law: which factories run, and what becomes of an entry.
* `Scoped.Operation`, `Overlays.Operation` — what is done to the two stores.

## Main statements

* `Access.perform_of_some`, `Access.isSome_perform`, `Access.world_perform` — one access.
* `MadeOnFirstUse.of_perform` — a store whose operations are accesses obeys the law.
* `Scoped.view_perform`, `Overlays.view_perform` — the operations of both stores are accesses.
* `madeOnFirstUse_stores` — the law of both, and how the first one is listed.
-/

namespace Fanout

/-! ## Accesses -/

/-- **Access to the entries by key**, with factories that act on a world `ω`. -/
inductive Access (κ ω α : Type) where
  /-- Asks for an entry, which is made if it is not there, and changes it. -/
  | entry (key : κ) (make : StateM ω α) (change : α → α)
  /-- Changes an entry if it is there. -/
  | modify (key : κ) (change : α → α)
  /-- Leaves all entries as they are. -/
  | idle

namespace Access

variable {κ ω α : Type} [DecidableEq κ]

/-- The key of the entry that is asked for. -/
def asked? : Access κ ω α → Option κ
  | entry key _ _ => some key
  | _ => none

/-- What an entry is changed to. -/
def changed (key : κ) (a : α) : Access κ ω α → α
  | entry key' _ change | modify key' change => if key' = key then change a else a
  | idle => a

/-- **What comes of an access**: the entries and the world. -/
def perform (state : (κ → Option α) × ω) : Access κ ω α → (κ → Option α) × ω
  | entry key make change =>
    match state.1 key with
    | some a => (Function.update state.1 key (some (change a)), state.2)
    | none =>
      let made := make.run state.2
      (Function.update state.1 key (some (change made.1)), made.2)
  | modify key change => (Function.update state.1 key ((state.1 key).map change), state.2)
  | idle => state

/-- What is found in a store, and the world. -/
def view {σ : Type} (find? : σ → κ → Option α) (state : σ × ω) : (κ → Option α) × ω :=
  (find? state.1, state.2)

/-- What comes of accesses, one after the other. -/
def performAll (state : (κ → Option α) × ω) (accesses : List (Access κ ω α)) :
    (κ → Option α) × ω :=
  accesses.foldl perform state

variable {state : (κ → Option α) × ω} {key : κ} {a : α} {make : StateM ω α} {change : α → α}

/-! ### One access -/

theorem perform_entry_of_some (h : state.1 key = some a) :
    perform state (entry key make change) =
      (Function.update state.1 key (some (change a)), state.2) := by
  simp only [perform, h]

theorem perform_entry_of_none (h : state.1 key = none) :
    perform state (entry key make change) =
      (Function.update state.1 key (some (change (make.run state.2).1)),
        (make.run state.2).2) := by
  simp only [perform, h]

/-- **A store that makes an entry on first use performs the access**, if putting an entry in
place replaces one look-up. -/
theorem perform_entry_eq {σ : Type} {find? : σ → κ → Option α} {put : σ → κ → α → σ}
    (hput : ∀ s key a, find? (put s key a) = Function.update (find? s) key (some a)) (s : σ)
    (w : ω) :
    perform (view find? (s, w)) (entry key make change) =
      match find? s key with
      | some a => view find? (put s key (change a), w)
      | none =>
        let made := make.run w
        view find? (put (put s key made.1) key (change made.1), made.2) := by
  have hview : (view find? (s, w)).1 key = find? s key := rfl
  cases h : find? s key with
  | some a =>
    rw [perform_entry_of_some (hview.trans h)]
    show _ = (find? (put s key (change a)), w)
    rw [hput]
    rfl
  | none =>
    rw [perform_entry_of_none (hview.trans h)]
    show _ = (find? (put (put s key (make.run w).1) key (change (make.run w).1)), (make.run w).2)
    rw [hput, hput, Function.update_idem]
    rfl

/-- An entry that is there stays there, and is changed by nothing but the access. -/
theorem perform_of_some (h : state.1 key = some a) (x : Access κ ω α) :
    (perform state x).1 key = some (x.changed key a) := by
  cases x with
  | entry key' make change =>
    by_cases hkey : key' = key
    · subst hkey
      simp [perform_entry_of_some h, changed]
    · cases h' : state.1 key' with
      | some b => simp [perform_entry_of_some h', changed, Ne.symm hkey, hkey, h]
      | none => simp [perform_entry_of_none h', changed, Ne.symm hkey, hkey, h]
  | modify key' change =>
    by_cases hkey : key' = key
    · subst hkey
      simp [perform, changed, h]
    · simp [perform, changed, Ne.symm hkey, hkey, h]
  | idle => exact h

/-- An entry that is not there is made by no access but one that asks for it. -/
theorem perform_of_none (h : state.1 key = none) {x : Access κ ω α} (hx : x.asked? ≠ some key) :
    (perform state x).1 key = none := by
  cases x with
  | entry key' make change =>
    have hkey : key ≠ key' := fun heq => hx (congrArg some heq.symm)
    cases h' : state.1 key' with
    | some b => simp [perform_entry_of_some h', hkey, h]
    | none => simp [perform_entry_of_none h', hkey, h]
  | modify key' change =>
    by_cases hkey : key = key'
    · subst hkey
      simp [perform, h]
    · simp [perform, hkey, h]
  | idle => exact h

/-- **After an access an entry is there** if it was there before or is asked for. -/
theorem isSome_perform {x : Access κ ω α} : ((perform state x).1 key).isSome = true ↔
    (state.1 key).isSome = true ∨ x.asked? = some key := by
  cases h : state.1 key with
  | some a => simp [perform_of_some h]
  | none =>
    rw [Option.isSome_none]
    by_cases hx : x.asked? = some key
    · cases x with
      | entry key' make change =>
        obtain rfl := Option.some.inj hx
        simp [perform_entry_of_none h, asked?]
      | modify | idle => cases hx
    · simp [perform_of_none h hx, hx]

/-- **No factory runs for an entry that is there.** -/
theorem world_perform {x : Access κ ω α}
    (h : ∀ key, x.asked? = some key → (state.1 key).isSome = true) :
    (perform state x).2 = state.2 := by
  cases x with
  | entry key make change =>
    obtain ⟨a, ha⟩ := Option.isSome_iff_exists.1 (h key rfl)
    rw [perform_entry_of_some ha]
  | modify | idle => rfl

/-! ### All accesses -/

variable {accesses : List (Access κ ω α)}

/-- What accesses change an entry to. -/
theorem performAll_of_some (h : state.1 key = some a) :
    (performAll state accesses).1 key = some (accesses.foldl (changed key) a) := by
  unfold performAll
  induction accesses generalizing state a with
  | nil => exact h
  | cons x accesses ih => exact ih (perform_of_some h x)

/-- **An entry is there** if it was there before or was asked for. -/
theorem isSome_performAll : ((performAll state accesses).1 key).isSome = true ↔
    (state.1 key).isSome = true ∨ ∃ x ∈ accesses, x.asked? = some key := by
  unfold performAll
  induction accesses generalizing state with
  | nil => simp
  | cons x accesses ih =>
    rw [List.foldl_cons, ih, isSome_perform, or_assoc]
    simp only [List.mem_cons, exists_eq_or_imp]

/-- A store whose operations are accesses performs them one after the other. -/
theorem view_foldl {ι σ : Type} {access : ι → Access κ ω α} {find? : σ → κ → Option α}
    {step : σ × ω → ι → σ × ω}
    (hstep : ∀ state op, view find? (step state op) = (access op).perform (view find? state))
    (state : σ × ω) (ops : List ι) :
    view find? (ops.foldl step state) = performAll (view find? state) (ops.map access) := by
  induction ops generalizing state with
  | nil => rfl
  | cons op ops ih =>
    rw [List.foldl_cons, ih, hstep]
    rfl

end Access

/-! ## The law of first use -/

/-- **Entries are made on first use.**  `run` says what is found, and what the world is, after
operations, which are accesses by way of `access`, on entries of which `start` are there from
the beginning. -/
structure MadeOnFirstUse {ι κ ω α : Type} [DecidableEq κ] (access : ι → Access κ ω α)
    (start : κ → Option α) (run : List ι → ω → (κ → Option α) × ω) : Prop where
  /-- An entry is there if it was there from the beginning or was asked for. -/
  isSome_iff : ∀ ops w key, ((run ops w).1 key).isSome = true ↔
    (start key).isSome = true ∨ ∃ op ∈ ops, (access op).asked? = some key
  /-- The factory runs, once, where an entry that was not there from the beginning is asked for
  the first time; what it makes is the entry. -/
  first : ∀ ops op w key make change, access op = .entry key make change → start key = none →
    (∀ earlier ∈ ops, (access earlier).asked? ≠ some key) →
    (run (ops ++ [op]) w).2 = (make.run (run ops w).2).2 ∧
      (run (ops ++ [op]) w).1 key = some (change (make.run (run ops w).2).1)
  /-- No factory runs anywhere else. -/
  otherwise : ∀ ops op w, (∀ key, (access op).asked? = some key →
      (start key).isSome = true ∨ ∃ earlier ∈ ops, (access earlier).asked? = some key) →
    (run (ops ++ [op]) w).2 = (run ops w).2
  /-- An entry that is there stays there, and is changed by nothing but the changes that the
  operations make to it. -/
  kept : ∀ ops more w key a, (run ops w).1 key = some a → (run (ops ++ more) w).1 key =
    some (more.foldl (fun a op => (access op).changed key a) a)

/-- **A store whose operations are accesses obeys the law.**  `find?` is what is found in it,
and `step` what becomes of it, and of the world, by an operation. -/
theorem MadeOnFirstUse.of_perform {ι σ κ ω α : Type} [DecidableEq κ] {access : ι → Access κ ω α}
    {find? : σ → κ → Option α} {step : σ × ω → ι → σ × ω}
    (hstep : ∀ state op,
      Access.view find? (step state op) = (access op).perform (Access.view find? state))
    (s : σ) :
    MadeOnFirstUse access (find? s) fun ops w => Access.view find? (ops.foldl step (s, w)) := by
  have hlast : ∀ (ops : List ι) op w, Access.view find? ((ops ++ [op]).foldl step (s, w)) =
      (access op).perform (Access.view find? (ops.foldl step (s, w))) := by
    intro ops op w
    rw [List.foldl_append]
    exact hstep _ op
  have hthere : ∀ (ops : List ι) w key,
      ((Access.view find? (ops.foldl step (s, w))).1 key).isSome = true ↔
        (find? s key).isSome = true ∨ ∃ op ∈ ops, (access op).asked? = some key := by
    intro ops w key
    rw [Access.view_foldl hstep, Access.isSome_performAll]
    simp [Access.view]
  refine ⟨hthere, ?_, ?_, ?_⟩
  · intro ops op w key make change hop hstart hfirst
    have hnone : (Access.view find? (ops.foldl step (s, w))).1 key = none := by
      rw [← Option.not_isSome_iff_eq_none, hthere]
      rintro (hsome | ⟨earlier, hmem, hasked⟩)
      · rw [hstart] at hsome
        cases hsome
      · exact hfirst earlier hmem hasked
    rw [hlast, hop, Access.perform_entry_of_none hnone]
    exact ⟨rfl, Function.update_self ..⟩
  · intro ops op w hasked
    rw [hlast]
    exact Access.world_perform fun key hkey => (hthere ops w key).2 (hasked key hkey)
  · intro ops more w key a ha
    rw [List.foldl_append, Access.view_foldl hstep, Access.performAll_of_some ha, List.foldl_map]

/-! ## Entries by target -/

namespace Scoped

variable {ω α : Type}

/-- **What is done to entries by target.** -/
inductive Operation (ω α : Type) where
  /-- Asks for the entry of a target, which is made on first use, and changes it. -/
  | entry (t : Target) (make : StateM ω α) (change : α → α)
  /-- Changes the entry of a target that has one. -/
  | modify (t : Target) (change : α → α)
  /-- Changes the base entry. -/
  | base (change : α → α)

/-- The access to the table of entries. -/
def Operation.access : Operation ω α → Access Target ω α
  | entry t make change => .entry t make change
  | modify t change => .modify t change
  | base change => .modify .shared change

/-- The store and the world after an operation. -/
def perform (state : Scoped α × ω) : Operation ω α → Scoped α × ω
  | .entry t make change =>
    let ((a, s), w) := (state.1.entry t make).run state.2
    (s.put t (change a), w)
  | .modify t change => ((state.1.modify? t change).getD state.1, state.2)
  | .base change => (state.1.put .shared (change state.1.base), state.2)

/-- Putting an entry in place is replacing one look-up. -/
theorem find?_put_eq_update (s : Scoped α) (t : Target) (a : α) :
    (s.put t a).find? = Function.update s.find? t (some a) := by
  funext u
  rw [find?_put, Function.update_apply]

/-- **An operation is an access** to the table of entries. -/
theorem view_perform (state : Scoped α × ω) (op : Operation ω α) :
    Access.view find? (perform state op) = op.access.perform (Access.view find? state) := by
  obtain ⟨s, w⟩ := state
  cases op with
  | entry t make change =>
    rw [Operation.access, Access.perform_entry_eq find?_put_eq_update, perform, entry]
    cases s.find? t <;> rfl
  | modify t change =>
    refine Prod.ext ?_ rfl
    show ((s.modify? t change).getD s).find? =
      Function.update s.find? t ((s.find? t).map change)
    cases h : s.find? t with
    | some a =>
      rw [modify?, h]
      exact find?_put_eq_update s t (change a)
    | none =>
      rw [modify?, h]
      exact (Function.update_eq_self_iff.2 h.symm).symm
  | base change => exact Prod.ext (find?_put_eq_update s .shared (change s.base)) rfl

/-! ### The opened targets -/

/-- No operation opens an entry for the shared scope beside the base entry. -/
theorem opened_shared_perform (state : Scoped α × ω) (op : Operation ω α) :
    (perform state op).1.opened.find? .shared = state.1.opened.find? .shared := by
  obtain ⟨s, w⟩ := state
  cases op with
  | entry t make change =>
    rw [perform, entry]
    cases s.find? t with
    | some a => exact opened_shared_put s t (change a)
    | none => exact (opened_shared_put _ t _).trans (opened_shared_put s t _)
  | modify t change =>
    rw [perform, modify?]
    cases s.find? t with
    | some a => exact opened_shared_put s t (change a)
    | none => rfl
  | base change => exact opened_shared_put s .shared (change s.base)

theorem opened_shared_foldl_perform (base : α) (ops : List (Operation ω α)) (w : ω) :
    (ops.foldl perform (ofBase base, w)).1.opened.find? .shared = none := by
  refine List.foldlRecOn
    (motive := fun state : Scoped α × ω => state.1.opened.find? .shared = none) ops perform rfl ?_
  intro state hstate op _
  rw [opened_shared_perform, hstate]

end Scoped

/-! ## Entries by target and environment -/

namespace Overlays

variable {ω α : Type}

/-- **What is done to entries by target and environment.** -/
inductive Operation (ω α : Type) where
  /-- Opens a target. -/
  | openTarget (t : Target)
  /-- Asks for the entry of a target and an environment, which is made on first use, and
  changes it. -/
  | entry (t : Target) (environment : String) (make : StateM ω α) (change : α → α)

/-- The access to the table of entries. -/
def Operation.access : Operation ω α → Access (Target × String) ω α
  | openTarget _ => .idle
  | entry t environment make change => .entry (t, environment) make change

/-- The store and the world after an operation. -/
def perform (state : Overlays α × ω) : Operation ω α → Overlays α × ω
  | .openTarget t => (state.1.openTarget t, state.2)
  | .entry t environment make change =>
    let ((a, s), w) := (state.1.entry t environment make).run state.2
    (s.put t environment (change a), w)

/-- What is found under a target and an environment. -/
def findAt? (s : Overlays α) (key : Target × String) : Option α := s.find? key.1 key.2

/-- Putting an entry in place is replacing one look-up. -/
theorem findAt?_put (s : Overlays α) (key : Target × String) (a : α) :
    (s.put key.1 key.2 a).findAt? = Function.update s.findAt? key (some a) := by
  funext key'
  rw [findAt?, find?_put, Function.update_apply, findAt?]
  simp only [Prod.ext_iff]

/-- **An operation is an access** to the table of entries. -/
theorem view_perform (state : Overlays α × ω) (op : Operation ω α) :
    Access.view findAt? (perform state op) = op.access.perform (Access.view findAt? state) := by
  obtain ⟨s, w⟩ := state
  cases op with
  | openTarget t =>
    refine Prod.ext ?_ rfl
    funext key
    exact find?_openTarget s t key.1 key.2
  | entry t environment make change =>
    rw [Operation.access, Access.perform_entry_eq findAt?_put, perform, entry, findAt?]
    cases s.find? t environment <;> rfl

end Overlays

/-! ## Both stores -/

/-- **Entries of both stores are made on first use.**  The store by target obeys the law with
the base entry there from the beginning, so no factory ever runs for the shared scope.  The
shared scope is never among its opened targets; these are the concrete targets that were asked
for, and the list of all entries has the base entry first and then theirs, each target once
and in ascending order.  The store by target and environment obeys the law with no entry from
the beginning, whether or not a target was opened before. -/
theorem madeOnFirstUse_stores (ω α : Type) (base : α) :
    MadeOnFirstUse Scoped.Operation.access (fun t => if t = .shared then some base else none)
      (fun (ops : List (Scoped.Operation ω α)) w =>
        Access.view Scoped.find? (ops.foldl Scoped.perform (.ofBase base, w))) ∧
    (∀ (ops : List (Scoped.Operation ω α)) (w : ω),
      let state := ops.foldl Scoped.perform (.ofBase base, w)
      let s := state.1
      (∀ make change, (Scoped.perform state (.entry .shared make change)).2 = state.2) ∧
      .shared ∉ s.targets ∧
      (∀ t, t ∈ s.targets ↔ t ≠ .shared ∧ ∃ op ∈ ops, op.access.asked? = some t) ∧
      s.toList = (.shared, s.base) :: s.openedList ∧ s.openedList.map Prod.fst = s.targets ∧
      (s.targets.Pairwise fun t u => compare t u = .lt) ∧
      ∀ t a, (t, a) ∈ s.toList ↔ s.find? t = some a) ∧
    MadeOnFirstUse Overlays.Operation.access (fun _ => none)
      (fun (ops : List (Overlays.Operation ω α)) w =>
        Access.view Overlays.findAt? (ops.foldl Overlays.perform (.empty, w))) := by
  have hstart : (Scoped.ofBase base).find? = fun t => if t = .shared then some base else none := by
    funext t
    cases t <;> rfl
  have hscoped := MadeOnFirstUse.of_perform (ω := ω) Scoped.view_perform (.ofBase base)
  rw [hstart] at hscoped
  refine ⟨hscoped, fun ops w => ?_,
    MadeOnFirstUse.of_perform Overlays.view_perform .empty⟩
  intro state s
  have hshared : s.opened.find? .shared = none := Scoped.opened_shared_foldl_perform base ops w
  have htargets : ∀ t, t ∈ s.targets ↔ ∃ a, s.opened.find? t = some a := fun t =>
    s.opened.mem_keys_iff
  refine ⟨fun make change => rfl, ?_, fun t => ?_, rfl, rfl, s.opened.keys_ascending,
    fun t a => Scoped.mem_toList hshared⟩
  · rw [htargets, hshared]
    rintro ⟨a, ha⟩
    cases ha
  · by_cases ht : t = .shared
    · subst ht
      simp [htargets, hshared]
    · have hfind : s.opened.find? t = s.find? t :=
        (Scoped.find?_of_concrete (by rwa [← Bool.not_eq_true, Target.isShared_iff]) s).symm
      have hsome : (s.find? t).isSome = true ↔ _ := hscoped.isSome_iff ops w t
      rw [htargets, hfind, ← Option.isSome_iff_exists]
      simpa [ht] using hsome

/-- Makes an entry and counts how often it does. -/
def counted {α : Type} (a : α) : StateM Nat α := do
  modify (· + 1)
  return a

/-- The entry of one target is made, and the shared scope is asked for its own. -/
def awsOnce : List (Scoped.Operation Nat (List Nat)) :=
  [.entry .aws (counted [1]) (· ++ [2]), .entry .shared (counted [98]) (· ++ [4])]

/-- The second time it is asked for, the entry of the target is not made, and has the changes
of both times; the shared scope, opened without an entry, has its overlay made once. -/
theorem awsOnce_made :
    let again : Scoped.Operation Nat (List Nat) := .entry .aws (counted [99]) (· ++ [3])
    let state := (awsOnce ++ [again]).foldl Scoped.perform (.ofBase [], 0)
    let overlays := [Overlays.Operation.openTarget .shared,
      .entry .shared "dev" (counted [5]) (· ++ [6])].foldl Overlays.perform (.empty, 0)
    (state.2 = 1 ∧ state.1.find? .aws = some [1, 2, 3]) ∧
      overlays.2 = 1 ∧ overlays.1.find? .shared "dev" = some [5, 6] := by
  intro again state overlays
  obtain ⟨hscoped, -, hoverlays⟩ := madeOnFirstUse_stores Nat (List Nat) []
  have hcount : state.2 = (awsOnce.foldl Scoped.perform (.ofBase [], 0)).2 := by
    refine hscoped.otherwise awsOnce again 0 fun key hkey => Or.inr ⟨_, List.mem_cons_self, hkey⟩
  have hkept : state.1.find? .aws = some ([1, 2] ++ [3]) :=
    hscoped.kept awsOnce [again] 0 .aws [1, 2] rfl
  have hmade : overlays.2 = 1 ∧ overlays.1.find? .shared "dev" = some [5, 6] :=
    hoverlays.first [.openTarget .shared] (.entry .shared "dev" (counted [5]) (· ++ [6])) 0
      (.shared, "dev") (counted [5]) (· ++ [6]) rfl rfl
      (by simp [Overlays.Operation.access, Access.asked?])
  exact ⟨⟨hcount, hkept⟩, hmade⟩

end Fanout
