import Mathlib.Data.Finset.Dedup
import Mathlib.Data.Finset.Card
import Mathlib.Data.List.Induction
import Fanout.Generation.Basic
import Fanout.Proofs.SortedMap

/-!
# Build properties in the order of their first put

Build properties are a list of entries, and a put goes through the list: it replaces the value
of the first entry that has the key, or adds an entry at the end.  A look-up takes the first
entry of the key, too.  No key ever stands in the list twice, so replacing the first value is
replacing the only one: after any puts the list is the table of the last values, in the order
in which the keys were put first.

## Main definitions

* `BuildProperties.putAll` — the properties after puts.
* `BuildProperties.IsInitial` — the properties that puts start from.

## Main statements

* `BuildProperties.keys_put` — one put moves no key.
* `BuildProperties.keys_putAll_pairwise` — the keys stand in the order of their first put.
* `BuildProperties.find?_putAll` — the last put of a key counts.
* `BuildProperties.putAll_of_isInitial` — all of it.
-/

namespace Fanout.BuildProperties

variable {p start : BuildProperties} {key value k v : String} {puts : List (String × String)}

/-- The keys, in the order of the entries. -/
def keys (p : BuildProperties) : List String := p.toList.map (·.1)

/-- **The properties after puts**, one after the other. -/
def putAll (p : BuildProperties) (puts : List (String × String)) : BuildProperties :=
  puts.foldl (fun p e => p.put e.1 e.2) p

/-- **Properties that puts start from**: none, or those that every module of a build starts
with. -/
inductive IsInitial : BuildProperties → Prop where
  | empty : IsInitial .empty
  | seeded (options : BuildOptions) : IsInitial (Generation.seedFor options)

/-! ## One put -/

/-- **A put moves no key**: a new one comes last. -/
theorem keys_put (p : BuildProperties) (key value : String) :
    (p.put key value).keys = if key ∈ p.keys then p.keys else p.keys ++ [key] := by
  show (putIn key value p.toList).map (·.1) =
    if key ∈ p.toList.map (·.1) then p.toList.map (·.1) else p.toList.map (·.1) ++ [key]
  induction p.toList with
  | nil => rfl
  | cons e entries ih =>
    obtain ⟨k, v⟩ := e
    rw [putIn_cons]
    by_cases hk : k = key
    · simp [hk]
    · rw [if_neg hk, List.map_cons, ih]
      by_cases hkey : key ∈ entries.map (·.1) <;> simp [hkey, Ne.symm hk]

/-- What was put is found, and the other values are as before. -/
theorem find?_put (p : BuildProperties) (key value k : String) :
    (p.put key value).find? k = if k = key then some value else p.find? k := by
  show ((putIn key value p.toList).find? fun e => e.1 == k).map (·.2) =
    if k = key then some value else (p.toList.find? fun e => e.1 == k).map (·.2)
  induction p.toList with
  | nil =>
    by_cases hk : k = key
    · simp [hk]
    · simp [hk, Ne.symm hk]
  | cons e entries ih =>
    obtain ⟨k', v⟩ := e
    rw [putIn_cons]
    by_cases hk' : k' = key
    · subst hk'
      by_cases hk : k = k'
      · simp [hk]
      · simp [hk, Ne.symm hk]
    · rw [if_neg hk', List.find?_cons, List.find?_cons]
      by_cases hk : k' = k
      · simp [hk, hk ▸ hk']
      · simp only [beq_eq_false_iff_ne.2 hk, ih]

/-! ## All puts -/

theorem putAll_append (p : BuildProperties) (puts more : List (String × String)) :
    p.putAll (puts ++ more) = (p.putAll puts).putAll more :=
  List.foldl_append

theorem putAll_append_singleton (p : BuildProperties) (puts : List (String × String))
    (e : String × String) : p.putAll (puts ++ [e]) = (p.putAll puts).put e.1 e.2 :=
  putAll_append p puts [e]

/-- The keys are those that were put. -/
theorem mem_keys_putAll : k ∈ (empty.putAll puts).keys ↔ k ∈ puts.map Prod.fst := by
  induction puts using List.reverseRecOn with
  | nil => exact Iff.rfl
  | append_singleton puts e ih =>
    rw [putAll_append_singleton, keys_put, List.map_append, List.mem_append, ← ih]
    split
    next hkey =>
      refine (or_iff_left_of_imp fun hk => ?_).symm
      rw [List.mem_singleton.1 hk]
      exact hkey
    next => exact List.mem_append

/-- **The keys stand in the order of their first put.** -/
theorem keys_putAll_pairwise (puts : List (String × String)) :
    (empty.putAll puts).keys.Pairwise fun k k' =>
      (puts.map Prod.fst).idxOf k < (puts.map Prod.fst).idxOf k' := by
  induction puts using List.reverseRecOn with
  | nil => exact List.Pairwise.nil
  | append_singleton puts e ih =>
    -- the first put of a key that is there is not one of the later ones
    have hfirst : ∀ k ∈ (empty.putAll puts).keys,
        ((puts ++ [e]).map Prod.fst).idxOf k = (puts.map Prod.fst).idxOf k := fun k hk => by
      rw [List.map_append, List.idxOf_append_of_mem (mem_keys_putAll.1 hk)]
    have hkeep : (empty.putAll puts).keys.Pairwise fun k k' =>
        ((puts ++ [e]).map Prod.fst).idxOf k < ((puts ++ [e]).map Prod.fst).idxOf k' := by
      refine ih.imp_of_mem fun hk hk' hlt => ?_
      rwa [hfirst _ hk, hfirst _ hk']
    rw [putAll_append_singleton, keys_put]
    split
    next => exact hkeep
    next hnew =>
      refine List.pairwise_append.2 ⟨hkeep, List.pairwise_singleton _ _, fun k hk k' hk' => ?_⟩
      rw [List.mem_singleton] at hk'
      subst hk'
      have hlast : ((puts ++ [e]).map Prod.fst).idxOf e.1 = (puts.map Prod.fst).length := by
        rw [List.map_append, List.idxOf_append_of_notMem (mt mem_keys_putAll.2 hnew)]
        simp
      rw [hfirst k hk, hlast]
      exact List.idxOf_lt_length_of_mem (mem_keys_putAll.1 hk)

/-- No key stands there twice. -/
theorem nodup_keys_putAll (puts : List (String × String)) : (empty.putAll puts).keys.Nodup :=
  (keys_putAll_pairwise puts).imp fun hlt heq => by
    rw [heq] at hlt
    exact Nat.lt_irrefl _ hlt

/-- **The last put of a key counts.** -/
theorem find?_putAll (p : BuildProperties) (puts : List (String × String)) (k : String) :
    (p.putAll puts).find? k =
      ((puts.reverse.find? fun e => e.1 == k).map (·.2)).or (p.find? k) := by
  unfold putAll
  induction puts generalizing p with
  | nil => rfl
  | cons e puts ih =>
    rw [List.foldl_cons, ih, find?_put, List.reverse_cons, List.find?_append]
    cases puts.reverse.find? fun e => e.1 == k with
    | some last => rfl
    | none =>
      by_cases hk : e.1 = k
      · simp [hk]
      · simp [hk, Ne.symm hk]

/-- Where no key stands twice, what is listed is what is found. -/
theorem mem_toList_iff (h : p.keys.Nodup) : (k, v) ∈ p.toList ↔ p.find? k = some v := by
  unfold find?
  rw [Option.map_eq_some_iff]
  constructor
  · intro hmem
    obtain ⟨e, hfind⟩ : ∃ e, (p.toList.find? fun e => e.1 == k) = some e :=
      Option.isSome_iff_exists.1 (List.find?_isSome.2 ⟨(k, v), hmem, beq_self_eq_true k⟩)
    have hkey := List.find?_some hfind
    rw [beq_iff_eq] at hkey
    have he : e = (k, v) :=
      Entries.eq_of_nodup_keys h (List.mem_of_find?_eq_some hfind) hmem hkey
    exact ⟨e, hfind, congrArg Prod.snd he⟩
  · rintro ⟨e, hfind, rfl⟩
    have hkey := List.find?_some hfind
    rw [beq_iff_eq] at hkey
    rw [← hkey]
    exact List.mem_of_find?_eq_some hfind

/-- The properties that puts start from were put themselves. -/
theorem eq_putAll_of_isInitial (h : start.IsInitial) : start = empty.putAll start.toList := by
  cases h <;> rfl

/-- **What puts make of the properties they start from.**  Their entries count as put first of
all.  No key stands there twice; the keys are those that were put, in the order of their first
put.  What is found under a key, and what is listed under it, is the value of its last put;
nothing, if there was none.  There are as many properties as different keys were put, and one
more put moves no key. -/
theorem putAll_of_isInitial (hstart : start.IsInitial) (puts : List (String × String)) :
    let p := start.putAll puts
    let all := start.toList ++ puts
    p.keys.Nodup ∧
    (∀ k, k ∈ p.keys ↔ k ∈ all.map Prod.fst) ∧
    (p.keys.Pairwise fun k k' => (all.map Prod.fst).idxOf k < (all.map Prod.fst).idxOf k') ∧
    (∀ k, p.find? k = (all.reverse.find? fun e => e.1 == k).map (·.2)) ∧
    (∀ k v, (k, v) ∈ p.toList ↔ p.find? k = some v) ∧
    p.size = (all.map Prod.fst).toFinset.card ∧
    ∀ k v, (p.put k v).keys = if k ∈ p.keys then p.keys else p.keys ++ [k] := by
  intro p all
  have hp : p = empty.putAll all := by
    show start.putAll puts = empty.putAll (start.toList ++ puts)
    rw [putAll_append, ← eq_putAll_of_isInitial hstart]
  have hnodup : p.keys.Nodup := hp ▸ nodup_keys_putAll all
  refine ⟨hnodup, fun k => ?_, ?_, fun k => ?_, fun k v => mem_toList_iff hnodup, ?_,
    fun k v => keys_put p k v⟩
  · rw [hp, mem_keys_putAll]
  · rw [hp]
    exact keys_putAll_pairwise all
  · rw [hp, find?_putAll]
    exact Option.or_none
  · have hset : p.keys.toFinset = (all.map Prod.fst).toFinset := by
      ext k
      rw [List.mem_toFinset, List.mem_toFinset, hp, mem_keys_putAll]
    rw [← hset, List.toFinset_card_of_nodup hnodup]
    exact (List.length_map Prod.fst).symm

/-- The version of the platform is put once more behind another property. -/
def versionTwice : List (String × String) :=
  [("graal", "21"), (({} : BuildOptions).tool.platformVersionKey, "4.0.0"), ("graal", "23")]

/-- The platform's version keeps its place before the other property and has the later
value. -/
theorem versionTwice_inPlace :
    let p := (Generation.seedFor {}).putAll versionTwice
    p.keys = [({} : BuildOptions).tool.platformVersionKey, "graal"] ∧
    p.find? ({} : BuildOptions).tool.platformVersionKey = some "4.0.0" ∧ p.size = 2 := by
  intro p
  obtain ⟨-, -, -, hfind, -, hsize, -⟩ := putAll_of_isInitial (.seeded {}) versionTwice
  exact ⟨by decide, (hfind _).trans (by decide), hsize.trans (by decide)⟩

end Fanout.BuildProperties
