import Fanout.Proofs.Capability.Order

/-!
# Capabilities that are offered to a set

A feature set is filled by calls, each of which offers it one capability or the capabilities
of a list.  What counts is the list of all that was offered: the set has the first capability
of each name, and a capability is new if its name was never offered.  So two fillings that
offer the capabilities of each name in the same order make the same set, however they mix
different names, and the set is applied in the same order.

## Main definitions

* `FeatureSet.Call`, `FeatureSet.callAll` — one call, and the calls that fill a set.
* `FeatureSet.offeredBy` — all capabilities that calls offer, in their order.

## Main statements

* `FeatureSet.callAll_eq_ofList` — calls make the set of what they offer.
* `FeatureSet.ordered_callAll` — members, answers and order of application.
-/

namespace Fanout.FeatureSet

variable {ε : Type}

/-! ## Calls -/

/-- **Call that fills a set.** -/
inductive Call (ε : Type) where
  /-- Offers one capability. -/
  | insert (c : Capability ε)
  /-- Offers the capabilities of a list. -/
  | extend (cs : List (Capability ε))

/-- The capabilities that a call offers. -/
def Call.offered : Call ε → List (Capability ε)
  | insert c => [c]
  | extend cs => cs

/-- The set after one more call. -/
def call (s : FeatureSet ε) : Call ε → FeatureSet ε
  | .insert c => (s.offer c).1
  | .extend cs => s.insertAll cs

/-- **The set after calls**, one after the other. -/
def callAll (s : FeatureSet ε) (calls : List (Call ε)) : FeatureSet ε := calls.foldl call s

/-- All capabilities that calls offer, in their order. -/
def offeredBy (calls : List (Call ε)) : List (Capability ε) := calls.flatMap Call.offered

/-! ## What calls make -/

/-- A call adds what it offers. -/
theorem call_eq (s : FeatureSet ε) (x : Call ε) : s.call x = s.insertAll x.offered := by
  cases x <;> rfl

theorem callAll_eq_insertAll (s : FeatureSet ε) (calls : List (Call ε)) :
    s.callAll calls = s.insertAll (offeredBy calls) := by
  unfold callAll offeredBy
  induction calls generalizing s with
  | nil => rfl
  | cons x calls ih => rw [List.foldl_cons, ih, call_eq, List.flatMap_cons, insertAll_append]

/-- **Calls make the set of what they offer.** -/
theorem callAll_eq_ofList (calls : List (Call ε)) :
    empty.callAll calls = ofList (offeredBy calls) :=
  callAll_eq_insertAll empty calls

/-- The set of a list depends only on the capabilities of each name. -/
theorem ofList_congr {cs ds : List (Capability ε)} (h : ∀ name,
    (cs.filter fun c => c.name == name) = ds.filter fun c => c.name == name) :
    ofList cs = ofList ds := by
  refine ext_find? fun name => ?_
  rw [find?_ofList, find?_ofList, ← List.head?_filter, ← List.head?_filter, h]

/-- A name is new to the set of a list if no capability of the list has it. -/
theorem isNew_offer_ofList {cs : List (Capability ε)} {c : Capability ε} :
    ((ofList cs).offer c).2 = true ↔ ∀ d ∈ cs, d.name ≠ c.name := by
  show (!((ofList cs).find? c.name).isSome) = true ↔ _
  rw [find?_ofList]
  simp

/-! ## Members, answers and order -/

/-- **What calls make of an empty set.**  Under each name stands the first capability that
was offered under it.  A further capability is new exactly if its name was not offered.  The
order of application lists exactly the first capabilities of all names, strictly ascending by
order and name, and no other list does.  Calls that offer the capabilities of each name in the
same order lead to the same order of application. -/
theorem ordered_callAll (calls : List (Call ε)) :
    let s := empty.callAll calls
    let offered := offeredBy calls
    (∀ name, s.find? name = offered.find? fun c => c.name == name) ∧
    (∀ c, (s.offer c).2 = true ↔ ∀ d ∈ offered, d.name ≠ c.name) ∧
    (∀ l, l = s.ordered ↔
      (∀ c, c ∈ l ↔ (offered.find? fun d => d.name == c.name) = some c) ∧
        l.Pairwise Capability.Before) ∧
    ∀ calls', (∀ name, ((offeredBy calls').filter fun c => c.name == name) =
        offered.filter fun c => c.name == name) →
      (empty.callAll calls').ordered = s.ordered := by
  intro s offered
  have hs : s = ofList offered := callAll_eq_ofList calls
  refine ⟨fun name => ?_, fun c => ?_, fun l => ?_, fun calls' hsame => ?_⟩
  · rw [hs, find?_ofList]
  · rw [hs, isNew_offer_ofList]
  · rw [eq_ordered_iff, hs]
    simp only [mem_ofList_iff_find?]
  · rw [hs, callAll_eq_ofList, ofList_congr hsame]

/-- A capability named twice, and one that is applied first of all. -/
def mixedCalls : List (Call Unit) :=
  [.insert { name := "zeta", order := 2147483647, effect := () },
    .extend [{ name := "alpha", effect := () }, { name := "zeta", order := -7, effect := () }],
    .insert { name := "beta", order := -2147483648, effect := () }]

/-- The same capabilities, name after name. -/
def groupedCalls : List (Call Unit) :=
  [.extend [{ name := "alpha", effect := () },
      { name := "beta", order := -2147483648, effect := () }],
    .insert { name := "zeta", order := 2147483647, effect := () },
    .insert { name := "zeta", order := -7, effect := () }]

/-- Grouping by name makes no difference to the order of application; the second capability
of the name is not new. -/
theorem groupedCalls_ordered :
    (empty.callAll groupedCalls).ordered = (empty.callAll mixedCalls).ordered ∧
    ((empty.callAll mixedCalls).offer { name := "zeta", effect := () }).2 = false := by
  obtain ⟨-, hnew, -, hsame⟩ := ordered_callAll mixedCalls
  constructor
  · refine hsame groupedCalls fun name => ?_
    by_cases hzeta : "zeta" = name
    · subst hzeta
      rfl
    · simp [offeredBy, mixedCalls, groupedCalls, Call.offered, List.filter_cons, hzeta]
  · rw [← Bool.not_eq_true, hnew]
    decide

end Fanout.FeatureSet
