import Fanout.Proofs.Template.Paths
import Fanout.Proofs.Template.Routing

/-!
# What one registration does

A registration answers with one of three words, and each says exactly what became of the
index.  Suppressed and duplicate files leave it alone.  A registered file is stored where
its route leads, in every other respect as it was given; it takes the place of the file
that had its key, whose path is free from then on, and no other file is touched.

## Main definitions

* `TemplateIndex.withRules` — the same index with more rules behind its own.
* `TemplateIndex.Stores` — a file is stored under a key, and nothing else happens.

## Main statements

* `TemplateIndex.insert_stores`, `TemplateIndex.insert_duplicate_iff` — the two answers of
  an insertion.
* `TemplateIndex.register_outcome` — the three answers of a registration.
-/

namespace Fanout.TemplateIndex

variable {x x' : TemplateIndex} {key : String} {t : Template}

/-- **Rules added behind the others**, at whatever time. -/
def withRules (x : TemplateIndex) (rules : List RoutingRule) : TemplateIndex :=
  { x with rules := x.rules ++ rules }

/-- Rules have nothing to do with what is stored. -/
theorem Consistent.withRules (h : x.Consistent) (rules : List RoutingRule) :
    (x.withRules rules).Consistent := ⟨h.paths, h.injective⟩

/-! ## Insertion -/

/-- **A file is stored under a key, and nothing else happens** but that the earlier file
of that key is gone and its path is free. -/
structure Stores (x : TemplateIndex) (key : String) (t : Template) (x' : TemplateIndex) :
    Prop where
  found : x'.find? key = some t
  others : ∀ k, k ≠ key → x'.find? k = x.find? k
  freed : ∀ old, x.find? key = some old → old.physicalPath ∉ x'.paths
  paths : ∀ path, path ∈ x'.paths ↔ path = t.physicalPath ∨
    path ∈ x.paths ∧ ∀ old, x.find? key = some old → path ≠ old.physicalPath

/-- An insertion has two answers, and by the first it changes nothing. -/
theorem insert_answer (x : TemplateIndex) (key : String) (t : Template) :
    x.insert key t = (x, .duplicate) ∨ (x.insert key t).2 = .registered key t.module := by
  by_cases htaken : t.physicalPath ∈ x.paths
  · exact Or.inl (insert_of_taken htaken key)
  · exact Or.inr (by rw [insert_of_free htaken])

/-- In a consistent index the paths that are taken are those of stored files. -/
theorem insert_duplicate_iff (h : x.Consistent) (key : String) (t : Template) :
    (x.insert key t).2 = .duplicate ↔
      ∃ k u, x.find? k = some u ∧ u.physicalPath = t.physicalPath := by
  rw [← h.paths]
  constructor
  · intro hduplicate
    refine Classical.not_not.1 fun hfree => ?_
    rw [insert_of_free hfree] at hduplicate
    cases hduplicate
  · intro htaken
    rw [insert_of_taken htaken]

/-- What is registered by an insertion is stored. -/
theorem insert_stores (h : x.Consistent) {module : Module} {key' : String}
    (hregistered : (x.insert key t).2 = .registered key' module) :
    x.Stores key t (x.insert key t).1 := by
  have hfree : t.physicalPath ∉ x.paths := by
    intro htaken
    rw [insert_of_taken htaken] at hregistered
    cases hregistered
  refine ⟨?_, fun k hk => ?_, fun old hold => ?_, mem_paths_insert hfree key⟩
  · rw [find?_insert hfree, if_pos rfl]
  · rw [find?_insert hfree, if_neg hk]
  · rw [mem_paths_insert hfree]
    rintro (hsame | ⟨-, hother⟩)
    -- the path of the earlier file was taken, the new one was free
    · exact hfree ((h.paths _).2 ⟨key, old, hold, hsame⟩)
    · exact hother old hold rfl

/-! ## Registration -/

/-- **What a registration does**, by its answer.  A suppressed or duplicate file leaves the
index as it was.  A registered file is stored under the key of the answer as it was given,
but in the module its route leads to, which is that of the answer; under every other key
all stays as it was.  The answer is that the file is a duplicate exactly when it is not
suppressed and a stored file, under whatever key, has the path it is to have. -/
theorem register_outcome (h : x.Reachable) (later : List RoutingRule) (key : String)
    (t : Template) (scope : Target) (singleModule : Bool) :
    let y := x.withRules later
    let route := y.route ⟨key, t, scope, singleModule⟩
    let placed := t.withModule route.module
    let outcome := y.register key t scope singleModule
    (outcome.2 = .suppressed ∨ outcome.2 = .duplicate → outcome.1 = y) ∧
    (∀ key' module, outcome.2 = .registered key' module →
      key' = route.keyFor key ∧ module = placed.module ∧ y.Stores key' placed outcome.1) ∧
    (outcome.2 = .suppressed ↔ y.isSuppressed key t singleModule = true) ∧
    (outcome.2 = .duplicate ↔ y.isSuppressed key t singleModule = false ∧
      ∃ k u, y.find? k = some u ∧ u.physicalPath = placed.physicalPath) := by
  intro y route placed outcome
  have hconsistent : y.Consistent := (consistent_of_reachable h).withRules later
  cases hsuppressed : y.isSuppressed key t singleModule with
  | true =>
    have houtcome : outcome = (y, .suppressed) := register_of_isSuppressed hsuppressed scope
    rw [houtcome]
    simp
  | false =>
    have houtcome : outcome = y.insert (route.keyFor key) placed :=
      register_of_not_isSuppressed hsuppressed scope
    rw [houtcome]
    refine ⟨?_, ?_, ?_, ?_⟩
    · rcases insert_answer y (route.keyFor key) placed with hsame | hregistered
      · exact fun _ => congrArg Prod.fst hsame
      · rw [hregistered]
        rintro (hanswer | hanswer) <;> cases hanswer
    · intro key' module hregistered
      obtain ⟨rfl, rfl⟩ := insert_registered hregistered
      exact ⟨rfl, rfl, insert_stores hconsistent hregistered⟩
    · rcases insert_answer y (route.keyFor key) placed with hsame | hregistered
      · simp [hsame]
      · simp [hregistered]
    · rw [insert_duplicate_iff hconsistent, and_iff_right rfl]

/-- An index with a guide in the library. -/
def guideIndex : TemplateIndex :=
  (empty.register "guide" (.new .default "guide.md" (.text "guide")) .shared false).1

/-- The index after the guide is registered once more, for another path. -/
def guideMoved : TemplateIndex × Registration :=
  (guideIndex.withRules [toShared]).register "guide" (.new .app "manual.md" (.text "manual"))
    .shared false

/-- The guide moves by a rule that was added in between; notes that are to have its first
path are dropped before. -/
theorem register_outcome_guide : guideIndex.Reachable ∧
    guideMoved.2 = .registered "guide" .lib ∧
    "lib/guide.md" ∈ guideIndex.paths ∧ "lib/guide.md" ∉ guideMoved.1.paths ∧
    guideMoved.1.find? "notes" = guideIndex.find? "notes" ∧
    ((guideIndex.withRules [toShared]).register "notes" (.new .app "guide.md" (.text "notes"))
      .shared false).1 = guideIndex.withRules [toShared] := by
  have hreach : guideIndex.Reachable := (Reachable.empty []).register ..
  obtain ⟨-, hregistered, -⟩ := register_outcome hreach [toShared] "guide"
    (.new .app "manual.md" (.text "manual")) .shared false
  obtain ⟨hsame, -⟩ := register_outcome hreach [toShared] "notes"
    (.new .app "guide.md" (.text "notes")) .shared false
  have hmoved : guideMoved.2 = .registered "guide" .lib := by decide
  obtain ⟨-, -, hstores⟩ := hregistered "guide" .lib hmoved
  have hfreed : "lib/guide.md" ∉ guideMoved.1.paths :=
    hstores.freed (.new .lib "guide.md" (.text "guide")) rfl
  exact ⟨hreach, hmoved, by decide, hfreed, hstores.others "notes" (by decide),
    hsame (Or.inr (by decide))⟩

end Fanout.TemplateIndex
