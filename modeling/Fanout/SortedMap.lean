/-!
# Maps and sets kept in key order

Everything the planner prints from a table comes out in key order, and two
tables with the same contents have to be the *same* value: "the order of the
input does not matter" is then an equation and not an equivalence.  A map is
therefore a list of entries whose keys ascend strictly, and that order is a
field of the type.

## Main definitions

* `Entries.find?`, `Entries.insert`, `Entries.erase` — the operations on bare
  entry lists.  A configuration tree stores its fields as such a list, because
  a type cannot occur inside a bundle of itself and a proof about itself.
* `SortedMap κ β` — an entry list with its order.
* `SortedSet α` — a map to `Unit`.

## Design notes

Insertion and look-up compare keys and never test membership first, so
`find?_insert_self` and `find?_insert_of_ne` hold of *every* entry list, sorted
or not.  Only `insert_ascending` and `SortedMap.ext_find?` use the order.
-/

namespace Fanout

/-! ## Entry lists -/

namespace Entries

variable {κ β γ : Type} [Ord κ]

/-- **Strictly ascending keys.**  Each key comes before every later one, so no
key occurs twice. -/
def Ascending (entries : List (κ × β)) : Prop :=
  entries.Pairwise fun a b => compare a.1 b.1 = .lt

/-- The value of the first entry under `k`. -/
def find? (k : κ) : List (κ × β) → Option β
  | [] => none
  | (k', v) :: rest => if compare k k' = .eq then some v else find? k rest

/-- Puts `v` under `k`: in place of the entry that has the key, else before the
first greater key. -/
def insert (k : κ) (v : β) : List (κ × β) → List (κ × β)
  | [] => [(k, v)]
  | (k', v') :: rest =>
    match compare k k' with
    | .lt => (k, v) :: (k', v') :: rest
    | .eq => (k, v) :: rest
    | .gt => (k', v') :: insert k v rest

/-- Drops every entry under `k`. -/
def erase (k : κ) (entries : List (κ × β)) : List (κ × β) :=
  entries.filter fun e => !(compare k e.1 == .eq)

@[simp] theorem find?_nil (k : κ) : find? k ([] : List (κ × β)) = none := rfl

theorem find?_cons (k k' : κ) (v : β) (rest : List (κ × β)) :
    find? k ((k', v) :: rest) = if compare k k' = .eq then some v else find? k rest := rfl

theorem ascending_nil : Ascending ([] : List (κ × β)) := List.Pairwise.nil

theorem ascending_cons {e : κ × β} {rest : List (κ × β)} :
    Ascending (e :: rest) ↔ (∀ e' ∈ rest, compare e.1 e'.1 = .lt) ∧ Ascending rest :=
  List.pairwise_cons

/-- Every member of an insertion is the new entry or an old one. -/
theorem mem_insert {k : κ} {v : β} {e : κ × β} {entries : List (κ × β)}
    (h : e ∈ insert k v entries) : e = (k, v) ∨ e ∈ entries := by
  induction entries with
  | nil => exact Or.inl (by simpa [insert] using h)
  | cons e' rest ih =>
    obtain ⟨k', v'⟩ := e'
    cases hc : compare k k' with
    | lt => simpa [insert, hc] using h
    | eq =>
      rcases List.mem_cons.1 (by simpa only [insert, hc] using h) with h | h
      · exact Or.inl h
      · exact Or.inr (List.mem_cons_of_mem _ h)
    | gt =>
      rcases List.mem_cons.1 (by simpa only [insert, hc] using h) with h | h
      · exact Or.inr (h ▸ List.mem_cons_self)
      · exact (ih h).imp_right (List.mem_cons_of_mem _)

theorem erase_ascending (k : κ) {entries : List (κ × β)} (h : Ascending entries) :
    Ascending (erase k entries) :=
  h.filter _

theorem map_ascending (f : κ → β → γ) {entries : List (κ × β)} (h : Ascending entries) :
    Ascending (entries.map fun e => (e.1, f e.1 e.2)) :=
  List.pairwise_map.2 h

/-- In an ascending list nothing is found under a key below all the others. -/
theorem find?_eq_none_of_lt {k : κ} {entries : List (κ × β)}
    (h : ∀ e ∈ entries, compare k e.1 = .lt) : find? k entries = none := by
  induction entries with
  | nil => rfl
  | cons e rest ih =>
    obtain ⟨k', v'⟩ := e
    have hk : compare k k' = .lt := h (k', v') List.mem_cons_self
    simp [find?, hk, ih fun e' he' => h e' (List.mem_cons_of_mem _ he')]

section Lawful

variable [Std.TransOrd κ]

/-- What was put under a key is found there. -/
theorem find?_insert_self (k : κ) (v : β) (entries : List (κ × β)) :
    find? k (insert k v entries) = some v := by
  induction entries with
  | nil => simp [insert, find?, Std.ReflCmp.compare_self]
  | cons e rest ih =>
    obtain ⟨k', v'⟩ := e
    cases h : compare k k' <;> simp [insert, find?, h, Std.ReflCmp.compare_self, ih]

/-- Insertion keeps the keys strictly ascending. -/
theorem insert_ascending (k : κ) (v : β) {entries : List (κ × β)}
    (h : Ascending entries) : Ascending (insert k v entries) := by
  induction entries with
  | nil => simp [insert, Ascending]
  | cons e rest ih =>
    obtain ⟨k', v'⟩ := e
    have ⟨hhead, hrest⟩ := ascending_cons.1 h
    cases hc : compare k k' with
    | lt =>
      simp only [insert, hc]
      refine ascending_cons.2 ⟨fun e' he' => ?_, h⟩
      rcases List.mem_cons.1 he' with rfl | he'
      · exact hc
      · exact Std.TransCmp.lt_trans hc (hhead e' he')
    | eq =>
      simp only [insert, hc]
      exact ascending_cons.2
        ⟨fun e' he' => Std.TransCmp.lt_of_eq_of_lt hc (hhead e' he'), hrest⟩
    | gt =>
      simp only [insert, hc]
      refine ascending_cons.2 ⟨fun e' he' => ?_, ih hrest⟩
      rcases mem_insert he' with rfl | he'
      · exact Std.OrientedCmp.gt_iff_lt.1 hc
      · exact hhead e' he'

end Lawful

section LawfulEq

variable [Std.LawfulEqOrd κ]

/-- An insertion leaves every other key alone. -/
theorem find?_insert_of_ne {k k' : κ} (h : k' ≠ k) (v : β) (entries : List (κ × β)) :
    find? k' (insert k v entries) = find? k' entries := by
  have hne : ¬ compare k' k = .eq := fun he => h (Std.LawfulEqCmp.eq_of_compare he)
  induction entries with
  | nil => simp [insert, find?, hne]
  | cons e rest ih =>
    obtain ⟨k'', v''⟩ := e
    cases hc : compare k k'' with
    | lt => simp [insert, hc, find?, hne]
    | eq =>
      have : k = k'' := Std.LawfulEqCmp.eq_of_compare hc
      simp [insert, find?, hne, ← this]
    | gt => simp [insert, hc, find?, ih]

/-- In an ascending list, finding a value is having the entry. -/
theorem find?_eq_some_iff {k : κ} {v : β} {entries : List (κ × β)} (h : Ascending entries) :
    find? k entries = some v ↔ (k, v) ∈ entries := by
  induction entries with
  | nil => simp
  | cons e rest ih =>
    obtain ⟨k', v'⟩ := e
    have ⟨hhead, hrest⟩ := ascending_cons.1 h
    by_cases hc : compare k k' = .eq
    · have hk : k = k' := Std.LawfulEqCmp.eq_of_compare hc
      subst hk
      have hnot : (k, v) ∉ rest := fun hm => by
        have := hhead _ hm
        simp [Std.ReflCmp.compare_self] at this
      simp [find?, Std.ReflCmp.compare_self, hnot, eq_comm]
    · have hk : k ≠ k' := fun he => hc (he ▸ Std.ReflCmp.compare_self)
      simp [find?, hc, ih hrest, hk]

variable [Std.TransOrd κ]

/-- Look-up after an insertion, both cases at once. -/
theorem find?_insert [DecidableEq κ] (k k' : κ) (v : β) (entries : List (κ × β)) :
    find? k' (insert k v entries) = if k' = k then some v else find? k' entries := by
  split
  · rename_i h; rw [h, find?_insert_self]
  · rename_i h; exact find?_insert_of_ne h v entries

/-- **Equal contents are equal lists.**  Two ascending entry lists that answer
every look-up alike are the same list. -/
theorem eq_of_find?_eq {l₁ l₂ : List (κ × β)} (h₁ : Ascending l₁) (h₂ : Ascending l₂)
    (h : ∀ k, find? k l₁ = find? k l₂) : l₁ = l₂ := by
  induction l₁ generalizing l₂ with
  | nil =>
    cases l₂ with
    | nil => rfl
    | cons e rest =>
      have := h e.1
      simp [find?, Std.ReflCmp.compare_self] at this
  | cons e₁ r₁ ih =>
    obtain ⟨k₁, v₁⟩ := e₁
    cases l₂ with
    | nil =>
      have := h k₁
      simp [find?, Std.ReflCmp.compare_self] at this
    | cons e₂ r₂ =>
      obtain ⟨k₂, v₂⟩ := e₂
      have ⟨hd₁, hr₁⟩ := ascending_cons.1 h₁
      have ⟨hd₂, hr₂⟩ := ascending_cons.1 h₂
      -- the smaller of the two heads would be missing from the other list
      have hk : compare k₁ k₂ = .eq := by
        cases hc : compare k₁ k₂ with
        | eq => rfl
        | lt =>
          have hn : find? k₁ r₂ = none :=
            find?_eq_none_of_lt fun e he => Std.TransCmp.lt_trans hc (hd₂ e he)
          have := h k₁
          simp [find?, Std.ReflCmp.compare_self, hc, hn] at this
        | gt =>
          have hc' : compare k₂ k₁ = .lt := Std.OrientedCmp.gt_iff_lt.1 hc
          have hn : find? k₂ r₁ = none :=
            find?_eq_none_of_lt fun e he => Std.TransCmp.lt_trans hc' (hd₁ e he)
          have := h k₂
          simp [find?, Std.ReflCmp.compare_self, hc', hn] at this
      have hk' : k₁ = k₂ := Std.LawfulEqCmp.eq_of_compare hk
      subst hk'
      have hv : v₁ = v₂ := by
        have := h k₁
        simpa [find?, Std.ReflCmp.compare_self] using this
      subst hv
      refine congrArg _ (ih hr₁ hr₂ fun k => ?_)
      have := h k
      by_cases hc : compare k k₁ = .eq
      · have hkk : k = k₁ := Std.LawfulEqCmp.eq_of_compare hc
        subst hkk
        rw [find?_eq_none_of_lt hd₁, find?_eq_none_of_lt hd₂]
      · simpa [find?, hc] using this

end LawfulEq

end Entries

/-! ## Maps -/

/-- **Key-sorted map.**  A list of entries whose keys ascend strictly. -/
structure SortedMap (κ β : Type) [Ord κ] where
  /-- The entries, in key order. -/
  toList : List (κ × β)
  /-- The keys ascend strictly. -/
  ascending : Entries.Ascending toList

namespace SortedMap

variable {κ β γ : Type} [Ord κ]

/-- The map without entries. -/
def empty : SortedMap κ β := ⟨[], Entries.ascending_nil⟩

instance : EmptyCollection (SortedMap κ β) := ⟨empty⟩

instance : Inhabited (SortedMap κ β) := ⟨empty⟩

/-- The value under `k`. -/
def find? (m : SortedMap κ β) (k : κ) : Option β := Entries.find? k m.toList

/-- Whether there is an entry under `k`. -/
def contains (m : SortedMap κ β) (k : κ) : Bool := (m.find? k).isSome

/-- The keys, ascending. -/
def keys (m : SortedMap κ β) : List κ := m.toList.map (·.1)

/-- The values, in key order. -/
def values (m : SortedMap κ β) : List β := m.toList.map (·.2)

/-- The number of entries. -/
def size (m : SortedMap κ β) : Nat := m.toList.length

/-- Whether the map has no entry. -/
def isEmpty (m : SortedMap κ β) : Bool := m.toList.isEmpty

/-- Removes the entry under `k`. -/
def erase (m : SortedMap κ β) (k : κ) : SortedMap κ β :=
  ⟨Entries.erase k m.toList, Entries.erase_ascending k m.ascending⟩

/-- Replaces every value by a function of its key and itself. -/
def mapValues (m : SortedMap κ β) (f : κ → β → γ) : SortedMap κ γ :=
  ⟨m.toList.map fun e => (e.1, f e.1 e.2), Entries.map_ascending f m.ascending⟩

section Lawful

variable [Std.TransOrd κ]

/-- Puts `v` under `k`, whatever was there before. -/
def insert (m : SortedMap κ β) (k : κ) (v : β) : SortedMap κ β :=
  ⟨Entries.insert k v m.toList, Entries.insert_ascending k v m.ascending⟩

/-- Puts `v` under `k` unless the key is taken. -/
def insertIfNew (m : SortedMap κ β) (k : κ) (v : β) : SortedMap κ β :=
  if m.contains k then m else m.insert k v

/-- The map of a list of entries, where a later entry wins over an earlier one. -/
def ofList (entries : List (κ × β)) : SortedMap κ β :=
  entries.foldl (fun m e => m.insert e.1 e.2) empty

theorem find?_insert_self (m : SortedMap κ β) (k : κ) (v : β) :
    (m.insert k v).find? k = some v :=
  Entries.find?_insert_self k v m.toList

end Lawful

@[simp] theorem find?_empty (k : κ) : (empty : SortedMap κ β).find? k = none := rfl

section LawfulEq

variable [Std.LawfulEqOrd κ]

theorem find?_eq_some_iff (m : SortedMap κ β) {k : κ} {v : β} :
    m.find? k = some v ↔ (k, v) ∈ m.toList :=
  Entries.find?_eq_some_iff m.ascending

variable [Std.TransOrd κ]

theorem find?_insert_of_ne (m : SortedMap κ β) {k k' : κ} (h : k' ≠ k) (v : β) :
    (m.insert k v).find? k' = m.find? k' :=
  Entries.find?_insert_of_ne h v m.toList

theorem find?_insert [DecidableEq κ] (m : SortedMap κ β) (k k' : κ) (v : β) :
    (m.insert k v).find? k' = if k' = k then some v else m.find? k' :=
  Entries.find?_insert k k' v m.toList

/-- Maps that answer every look-up alike are equal. -/
theorem ext_find? {m₁ m₂ : SortedMap κ β} (h : ∀ k, m₁.find? k = m₂.find? k) : m₁ = m₂ := by
  cases m₁ with
  | mk l₁ h₁ =>
    cases m₂ with
    | mk l₂ h₂ =>
      have : l₁ = l₂ := Entries.eq_of_find?_eq h₁ h₂ h
      subst this
      rfl

end LawfulEq

end SortedMap

/-! ## Sets -/

/-- **Sorted set.**  The keys of a map that carries no values. -/
structure SortedSet (α : Type) [Ord α] where
  /-- The set as a map to the one-element type. -/
  toMap : SortedMap α Unit

namespace SortedSet

variable {α : Type} [Ord α]

/-- The set without members. -/
def empty : SortedSet α := ⟨.empty⟩

instance : EmptyCollection (SortedSet α) := ⟨empty⟩

instance : Inhabited (SortedSet α) := ⟨empty⟩

/-- The members, ascending. -/
def toList (s : SortedSet α) : List α := s.toMap.keys

/-- Whether `a` is a member. -/
def contains (s : SortedSet α) (a : α) : Bool := s.toMap.contains a

/-- Membership is decided by look-up. -/
instance : Membership α (SortedSet α) where
  mem s a := s.contains a = true

instance (a : α) (s : SortedSet α) : Decidable (a ∈ s) :=
  inferInstanceAs (Decidable (s.contains a = true))

/-- The number of members. -/
def size (s : SortedSet α) : Nat := s.toMap.size

/-- Whether the set has no member. -/
def isEmpty (s : SortedSet α) : Bool := s.toMap.isEmpty

/-- Removes a member. -/
def erase (s : SortedSet α) (a : α) : SortedSet α := ⟨s.toMap.erase a⟩

section Lawful

variable [Std.TransOrd α]

/-- Adds a member. -/
def insert (s : SortedSet α) (a : α) : SortedSet α := ⟨s.toMap.insert a ()⟩

/-- Adds all members of a list. -/
def insertAll (s : SortedSet α) (l : List α) : SortedSet α := l.foldl insert s

/-- The set of the members of a list. -/
def ofList (l : List α) : SortedSet α := empty.insertAll l

end Lawful

section LawfulEq

variable [Std.TransOrd α] [Std.LawfulEqOrd α]

theorem mem_insert [DecidableEq α] {s : SortedSet α} {a b : α} :
    b ∈ s.insert a ↔ b = a ∨ b ∈ s := by
  show ((s.toMap.insert a ()).find? b).isSome = true ↔ b = a ∨ (s.toMap.find? b).isSome = true
  rw [SortedMap.find?_insert]
  by_cases h : b = a <;> simp [h]

/-- Sets with the same members are equal. -/
theorem ext_mem {s t : SortedSet α} (h : ∀ a, a ∈ s ↔ a ∈ t) : s = t := by
  cases s with
  | mk m =>
    cases t with
    | mk n =>
      have key : m = n := SortedMap.ext_find? fun k => by
        have hk : ((m.find? k).isSome = true ↔ (n.find? k).isSome = true) := h k
        cases hm : m.find? k <;> cases hn : n.find? k <;> simp_all
      rw [key]

end LawfulEq

end SortedSet

end Fanout
