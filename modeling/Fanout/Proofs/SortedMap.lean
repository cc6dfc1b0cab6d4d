import Fanout.SortedMap

/-!
# Laws of sorted maps and sets

What the operations do, said by look-up and by membership.  A map is determined
by its look-ups (`SortedMap.ext_find?`), so these laws are all that a proof
about a table needs.  A list that is sorted, as the members of a table can be, ascends
strictly if it has no ties.
-/

namespace Fanout

/-- What is smaller is another one. -/
theorem ne_of_compare_lt {κ : Type} [Ord κ] [Std.ReflOrd κ] {k k' : κ}
    (h : compare k k' = .lt) : k ≠ k' := by
  rintro rfl
  have hself : compare k k = .eq := Std.ReflCmp.compare_self
  cases hself.symm.trans h

/-- What is found in a list is one of its entries. -/
theorem Entries.mem_of_find? {κ β : Type} [Ord κ] [Std.LawfulEqOrd κ] {k : κ} {v : β}
    {entries : List (κ × β)} (h : Entries.find? k entries = some v) : (k, v) ∈ entries := by
  induction entries with
  | nil => cases h
  | cons e rest ih =>
    obtain ⟨k', v'⟩ := e
    rw [Entries.find?_cons] at h
    split at h
    next hk =>
      obtain rfl := Std.LawfulEqCmp.eq_of_compare hk
      obtain rfl := Option.some.inj h
      exact List.mem_cons_self
    next => exact List.mem_cons_of_mem _ (ih h)

/-- **A list without ties, sorted by a comparison, ascends strictly.** -/
theorem ascending_mergeSort {α : Type} (cmp : α → α → Ordering) [Std.TransCmp cmp] {l : List α}
    (hties : l.Pairwise fun a b => cmp a b ≠ .eq) :
    (l.mergeSort fun a b => (cmp a b).isLE).Pairwise fun a b => cmp a b = .lt := by
  have hsorted : (l.mergeSort fun a b => (cmp a b).isLE).Pairwise fun a b =>
      (cmp a b).isLE = true := by
    refine List.pairwise_mergeSort (fun _ _ _ => Std.TransCmp.isLE_trans) (fun a b => ?_) l
    have hswap : cmp b a = (cmp a b).swap := Std.OrientedCmp.eq_swap
    rw [hswap]
    cases cmp a b <;> rfl
  have hties' : (l.mergeSort fun a b => (cmp a b).isLE).Pairwise fun a b => cmp a b ≠ .eq :=
    (List.mergeSort_perm _ _).symm.pairwise hties fun h heq => h (Std.OrientedCmp.eq_comm.1 heq)
  refine hsorted.imp₂ (fun a b hle hne => ?_) hties'
  exact (Ordering.isLE_iff_eq_lt_or_eq_eq.1 hle).resolve_right hne

/-- **A list that ascends strictly** is known by its members. -/
theorem eq_of_ascending {α : Type} (cmp : α → α → Ordering) [Std.OrientedCmp cmp] {l l' : List α}
    (h : l.Pairwise fun a b => cmp a b = .lt) (h' : l'.Pairwise fun a b => cmp a b = .lt)
    (hmem : ∀ a, a ∈ l ↔ a ∈ l') : l = l' := by
  have hasymm : ∀ {a b}, cmp a b = .lt → ¬ cmp b a = .lt := by
    intro a b hab hba
    rw [Std.OrientedCmp.gt_iff_lt.2 hab] at hba
    cases hba
  have hnodup : ∀ {l : List α}, (l.Pairwise fun a b => cmp a b = .lt) → l.Nodup := by
    intro l hl
    refine hl.imp ?_
    rintro a _ hlt rfl
    exact hasymm hlt hlt
  have hperm : l.Perm l' := (List.perm_ext_iff_of_nodup (hnodup h) (hnodup h')).2 hmem
  exact hperm.eq_of_pairwise (fun a b _ _ hab hba => absurd hba (hasymm hab)) h h'

/-- Where no two entries have one key, an entry is known by its key. -/
theorem Entries.eq_of_nodup_keys {κ β : Type} {entries : List (κ × β)}
    (h : (entries.map (·.1)).Nodup) {e e' : κ × β} (he : e ∈ entries) (he' : e' ∈ entries)
    (hkey : e.1 = e'.1) : e = e' := by
  have hne : entries.Pairwise fun e e' => e.1 = e'.1 → e = e' :=
    (List.pairwise_map.1 h).imp fun hkeys hsame => absurd hsame hkeys
  exact hne.forall_of_forall_of_flip (fun _ _ _ => rfl)
    (hne.imp fun hsame hkeys => (hsame hkeys.symm).symm) he he' hkey

namespace Entries

variable {κ β : Type} [Ord κ] [Std.TransOrd κ]

/-- The last value put under a key counts. -/
theorem insert_insert_self (k : κ) (v w : β) (entries : List (κ × β)) :
    insert k w (insert k v entries) = insert k w entries := by
  induction entries with
  | nil => simp [insert, Std.ReflCmp.compare_self]
  | cons e rest ih =>
    obtain ⟨k', v'⟩ := e
    cases h : compare k k' <;> simp [insert, h, Std.ReflCmp.compare_self, ih]

/-- Values are put under different keys in any order. -/
theorem insert_comm [Std.LawfulEqOrd κ] [DecidableEq κ] {k k' : κ} (hne : k ≠ k') (v w : β)
    {entries : List (κ × β)} (h : Ascending entries) :
    insert k' w (insert k v entries) = insert k v (insert k' w entries) := by
  refine eq_of_find?_eq (insert_ascending k' w (insert_ascending k v h))
    (insert_ascending k v (insert_ascending k' w h)) fun key => ?_
  simp only [find?_insert]
  by_cases hk : key = k
  · simp [hk, hne]
  · simp [hk]

end Entries

namespace SortedMap

variable {κ β : Type} [Ord κ]

/-- A map is empty when it has no key. -/
theorem isEmpty_iff (m : SortedMap κ β) : m.isEmpty = true ↔ m.keys = [] := by
  rw [isEmpty, keys, List.isEmpty_iff, List.map_eq_nil_iff]

/-- The keys ascend strictly. -/
theorem keys_ascending (m : SortedMap κ β) : m.keys.Pairwise fun k k' => compare k k' = .lt :=
  List.pairwise_map.2 m.ascending

/-- What stands in front of an entry are the entries of smaller keys. -/
theorem mem_before_iff [Std.OrientedOrd κ] (m : SortedMap κ β) {before after : List (κ × β)}
    {e e' : κ × β} (h : m.toList = before ++ e :: after) :
    e' ∈ before ↔ e' ∈ m.toList ∧ compare e'.1 e.1 = .lt := by
  have hsplit : Entries.Ascending (before ++ e :: after) := h ▸ m.ascending
  obtain ⟨-, hrest, hbefore⟩ := List.pairwise_append.1 hsplit
  obtain ⟨hafter, -⟩ := List.pairwise_cons.1 hrest
  rw [h]
  constructor
  · intro hmem
    exact ⟨List.mem_append_left _ hmem, hbefore e' hmem e List.mem_cons_self⟩
  · rintro ⟨hmem, hlt⟩
    rcases List.mem_append.1 hmem with hmem | hmem
    · exact hmem
    rcases List.mem_cons.1 hmem with rfl | hmem
    · exact absurd rfl (ne_of_compare_lt hlt)
    · rw [Std.OrientedCmp.gt_iff_lt.2 (hafter e' hmem)] at hlt
      cases hlt

section Order

variable [Std.LawfulEqOrd κ]

/-- No key occurs twice. -/
theorem nodup_keys (m : SortedMap κ β) : m.keys.Nodup :=
  m.keys_ascending.imp ne_of_compare_lt

/-- The keys are those under which something is found. -/
theorem mem_keys_iff (m : SortedMap κ β) {k : κ} : k ∈ m.keys ↔ ∃ v, m.find? k = some v := by
  rw [keys, List.mem_map]
  constructor
  · rintro ⟨⟨k', v⟩, hm, rfl⟩
    exact ⟨v, m.find?_eq_some_iff.2 hm⟩
  · rintro ⟨v, hv⟩
    exact ⟨(k, v), m.find?_eq_some_iff.1 hv, rfl⟩

/-- What is stored is what is found under some key. -/
theorem mem_values_iff (m : SortedMap κ β) {v : β} : v ∈ m.values ↔ ∃ k, m.find? k = some v := by
  rw [values, List.mem_map]
  constructor
  · rintro ⟨⟨k, v'⟩, hm, rfl⟩
    exact ⟨k, m.find?_eq_some_iff.2 hm⟩
  · rintro ⟨k, hk⟩
    exact ⟨(k, v), m.find?_eq_some_iff.1 hk, rfl⟩

/-- Replacing the values replaces what is found. -/
theorem find?_mapValues {γ : Type} (m : SortedMap κ β) (f : κ → β → γ) (k : κ) :
    (m.mapValues f).find? k = (m.find? k).map (f k) := by
  refine Option.ext fun w => ?_
  rw [find?_eq_some_iff, mapValues, List.mem_map, Option.map_eq_some_iff]
  constructor
  · rintro ⟨⟨k', v⟩, hm, he⟩
    obtain ⟨rfl, rfl⟩ := Prod.mk.inj he
    exact ⟨v, m.find?_eq_some_iff.2 hm, rfl⟩
  · rintro ⟨v, hv, rfl⟩
    exact ⟨(k, v), m.find?_eq_some_iff.1 hv, rfl⟩

/-- Removing a key leaves every other key alone. -/
theorem find?_erase [DecidableEq κ] (m : SortedMap κ β) (k k' : κ) :
    (m.erase k).find? k' = if k' = k then none else m.find? k' := by
  refine Option.ext fun v => ?_
  rw [find?_eq_some_iff]
  show (k', v) ∈ m.toList.filter (fun e => !(compare k e.1 == .eq)) ↔ _
  rw [List.mem_filter, ← find?_eq_some_iff, Bool.not_eq_true', beq_eq_false_iff_ne, ne_eq,
    Std.LawfulEqCmp.compare_eq_iff_eq, eq_comm (a := k)]
  split
  next h => simp [h]
  next h => simp [h]

end Order

section Insertion

variable [Std.TransOrd κ] [Std.LawfulEqOrd κ] [DecidableEq κ]

/-- **The last entry of a list wins.** -/
theorem find?_foldl_insert_last (entries : List (κ × β)) (m : SortedMap κ β) (k : κ) :
    (entries.foldl (fun m e => m.insert e.1 e.2) m).find? k =
      ((entries.reverse.find? fun e => e.1 = k).map (·.2)).or (m.find? k) := by
  induction entries generalizing m with
  | nil => rfl
  | cons e entries ih =>
    rw [List.foldl_cons, ih, find?_insert, List.reverse_cons, List.find?_append]
    cases entries.reverse.find? fun e => e.1 = k with
    | some last => rfl
    | none =>
      by_cases hk : e.1 = k
      · simp [hk]
      · simp [hk, Ne.symm hk]

theorem find?_ofList (entries : List (κ × β)) (k : κ) :
    (ofList entries).find? k = (entries.reverse.find? fun e => e.1 = k).map (·.2) := by
  rw [ofList, find?_foldl_insert_last, find?_empty, Option.or_none]

/-- If the entries under one key are equal, then having an entry is finding it. -/
theorem find?_ofList_iff {entries : List (κ × β)}
    (hsame : ∀ e ∈ entries, ∀ e' ∈ entries, e.1 = e'.1 → e.2 = e'.2) {k : κ} {v : β} :
    (ofList entries).find? k = some v ↔ (k, v) ∈ entries := by
  have hlast : ∀ e, entries.reverse.find? (fun e => e.1 = k) = some e → e ∈ entries ∧ e.1 = k := by
    intro e hfind
    have hkey := List.find?_some hfind
    exact ⟨List.mem_reverse.1 (List.mem_of_find?_eq_some hfind), of_decide_eq_true hkey⟩
  rw [find?_ofList, Option.map_eq_some_iff]
  constructor
  · rintro ⟨e, hfind, rfl⟩
    obtain ⟨he, rfl⟩ := hlast e hfind
    exact he
  · intro hmem
    cases hfind : entries.reverse.find? fun e => e.1 = k with
    | none =>
      exact absurd (decide_eq_true rfl) (List.find?_eq_none.1 hfind _ (List.mem_reverse.2 hmem))
    | some e =>
      obtain ⟨he, hkey⟩ := hlast e hfind
      exact ⟨e, rfl, hsame e he (k, v) hmem hkey⟩

/-- **A table is the table of its entries, in any order.** -/
theorem ofList_eq_of_perm {entries : List (κ × β)} {m : SortedMap κ β}
    (h : entries.Perm m.toList) : ofList entries = m := by
  refine ext_find? fun k => Option.ext fun v => ?_
  rw [find?_ofList_iff, h.mem_iff, m.find?_eq_some_iff]
  -- the table has one value under each key
  rintro ⟨k, v⟩ hmem ⟨k', v'⟩ hmem' rfl
  have hfind := m.find?_eq_some_iff.2 (h.mem_iff.1 hmem)
  rw [m.find?_eq_some_iff.2 (h.mem_iff.1 hmem')] at hfind
  exact (Option.some.inj hfind).symm

/-- **Entries under different keys are all kept.** -/
theorem toList_ofList_perm {entries : List (κ × β)} (h : (entries.map (·.1)).Nodup) :
    (ofList entries).toList.Perm entries := by
  have hkeys : ∀ e e' : κ × β, e.1 ≠ e'.1 → e ≠ e' := fun _ _ hne heq =>
    hne (congrArg Prod.fst heq)
  have hone : (ofList entries).toList.Nodup :=
    List.Pairwise.of_map (·.1) hkeys (ofList entries).nodup_keys
  have hentries : entries.Nodup := List.Pairwise.of_map (·.1) hkeys h
  refine (List.perm_ext_iff_of_nodup hone hentries).2 fun e => ?_
  obtain ⟨k, v⟩ := e
  rw [← find?_eq_some_iff]
  exact find?_ofList_iff fun e he e' he' hkey =>
    congrArg Prod.snd (Entries.eq_of_nodup_keys h he he' hkey)

end Insertion

end SortedMap

namespace SortedSet

variable {α : Type} [Ord α]

theorem notMem_empty (a : α) : a ∉ (empty : SortedSet α) := Bool.false_ne_true

/-- The members ascend strictly. -/
theorem toList_ascending (s : SortedSet α) : s.toList.Pairwise fun a b => compare a b = .lt :=
  s.toMap.keys_ascending

/-- One more member at the end of the list. -/
theorem ofList_append_singleton [Std.TransOrd α] (l : List α) (a : α) :
    ofList (l ++ [a]) = (ofList l).insert a := by
  unfold ofList insertAll
  rw [List.foldl_append]
  rfl

variable [Std.LawfulEqOrd α]

/-- The list of a set lists its members. -/
theorem mem_toList {s : SortedSet α} {a : α} : a ∈ s.toList ↔ a ∈ s := by
  rw [toList, SortedMap.mem_keys_iff]
  exact Option.isSome_iff_exists.symm

/-- **Sets that agree on some of their members** list these in the same order. -/
theorem filter_toList_congr [Std.TransOrd α] {s t : SortedSet α} {p : α → Bool}
    (h : ∀ a, p a = true → (a ∈ s ↔ a ∈ t)) : s.toList.filter p = t.toList.filter p := by
  refine eq_of_ascending compare (s.toList_ascending.filter p) (t.toList_ascending.filter p)
    fun a => ?_
  rw [List.mem_filter, List.mem_filter, mem_toList, mem_toList]
  exact and_congr_left fun ha => h a ha

variable [DecidableEq α]

theorem mem_erase {s : SortedSet α} {a b : α} : b ∈ s.erase a ↔ b ≠ a ∧ b ∈ s := by
  show ((s.toMap.erase a).find? b).isSome = true ↔ b ≠ a ∧ (s.toMap.find? b).isSome = true
  rw [SortedMap.find?_erase]
  by_cases h : b = a <;> simp [h]

variable [Std.TransOrd α]

/-- Adding a member once more changes nothing. -/
theorem insert_insert (s : SortedSet α) (a : α) : (s.insert a).insert a = s.insert a := by
  refine ext_mem fun b => ?_
  rw [mem_insert, mem_insert, or_self_left]

/-- Members are added in any order. -/
theorem insert_comm (s : SortedSet α) (a b : α) :
    (s.insert a).insert b = (s.insert b).insert a := by
  refine ext_mem fun c => ?_
  rw [mem_insert, mem_insert, mem_insert, mem_insert, or_left_comm]

theorem mem_insertAll {s : SortedSet α} {l : List α} {a : α} :
    a ∈ s.insertAll l ↔ a ∈ s ∨ a ∈ l := by
  unfold insertAll
  induction l generalizing s with
  | nil => simp
  | cons b l ih =>
    rw [List.foldl_cons, ih, mem_insert, List.mem_cons, or_comm (a := a = b), or_assoc]

/-- What sets have together. -/
theorem mem_foldl_insertAll {ι : Type} {f : ι → SortedSet α} {is : List ι} {s : SortedSet α}
    {a : α} :
    a ∈ is.foldl (fun union i => union.insertAll (f i).toList) s ↔ a ∈ s ∨ ∃ i ∈ is, a ∈ f i := by
  induction is generalizing s with
  | nil => simp
  | cons i is ih =>
    rw [List.foldl_cons, ih, mem_insertAll, mem_toList, or_assoc]
    simp

theorem mem_ofList {l : List α} {a : α} : a ∈ ofList l ↔ a ∈ l := by
  rw [ofList, mem_insertAll]
  exact or_iff_right (notMem_empty a)

end SortedSet

end Fanout
