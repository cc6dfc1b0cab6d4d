import Fanout.Proofs.Generation.Reachable
import Fanout.Proofs.Template.Paths

/-!
# Files that are stored one after the other

Files with different keys and different physical paths do not get in each other's
way: on an index where their paths are free all of them are stored.  Storing them
once more changes nothing.  Of files with different keys that share a place, the first
one is stored and the others are dropped.

## Main definitions

* `Generation.storeFile` — stores a file under its key.
* `Generation.IsFirst` — no earlier file has the place of a file.

## Main statements

* `Generation.collect_storeFile_of_free` — what is stored, and the answers.
* `Generation.collect_storeFile_of_taken` — what happens the second time.
* `Generation.mem_paths_collect`, `Generation.find?_collect` — which paths are taken, and
  what is stored, after files with different keys.
* `Generation.stored_iff_isFirst` — on a new index the first file of a place is stored.
-/

namespace Fanout.Generation

variable {α β : Type} {step step' : TemplateIndex → α → TemplateIndex × Registration}

/-! ## Collecting -/

theorem collect_cons (step : TemplateIndex → α → TemplateIndex × Registration) (a : α)
    (as : List α) (x : TemplateIndex) :
    collect step (a :: as) x =
      ((collect step as (step x a).1).1, (step x a).2 :: (collect step as (step x a).1).2) := rfl

theorem collect_append (step : TemplateIndex → α → TemplateIndex × Registration)
    (as bs : List α) (x : TemplateIndex) :
    collect step (as ++ bs) x =
      ((collect step bs (collect step as x).1).1,
        (collect step as x).2 ++ (collect step bs (collect step as x).1).2) := by
  induction as generalizing x with
  | nil => rfl
  | cons a as ih => rw [List.cons_append, collect_cons, ih, collect_cons, List.cons_append]

theorem collect_map (step : TemplateIndex → α → TemplateIndex × Registration) (f : β → α)
    (bs : List β) (x : TemplateIndex) :
    collect step (bs.map f) x = collect (fun x b => step x (f b)) bs x := by
  induction bs generalizing x with
  | nil => rfl
  | cons b bs ih => rw [List.map_cons, collect_cons, ih, collect_cons]

/-- What becomes of an item is what its step says after those before it. -/
theorem getElem?_collect (step : TemplateIndex → α → TemplateIndex × Registration) (as : List α)
    (x : TemplateIndex) (i : Nat) :
    (collect step as x).2[i]? = as[i]?.map fun a => (step (collect step (as.take i) x).1 a).2 := by
  induction as generalizing x i with
  | nil => rfl
  | cons a as ih =>
    cases i with
    | zero => rfl
    | succ i =>
      rw [collect_cons, List.getElem?_cons_succ, ih, List.getElem?_cons_succ, List.take_succ_cons,
        collect_cons]

/-- Steps that do the same on every index that is met collect the same. -/
theorem collect_congr {P : TemplateIndex → Prop} {as : List α}
    (hstep : ∀ x, ∀ a ∈ as, P x → step x a = step' x a)
    (hkeep : ∀ x a, P x → P (step' x a).1) {x : TemplateIndex} (h : P x) :
    collect step as x = collect step' as x := by
  induction as generalizing x with
  | nil => rfl
  | cons a as ih =>
    rw [collect_cons, collect_cons, hstep x a List.mem_cons_self h]
    rw [ih (fun x b hb => hstep x b (List.mem_cons_of_mem a hb)) (hkeep x a h)]

/-! ## Storing files -/

/-- Stores a file under its key. -/
def storeFile (x : TemplateIndex) (file : String × Template) : TemplateIndex × Registration :=
  x.insert file.1 file.2

/-- **Files at free paths are stored**, if they do not share a key or a path: each
answer is that the file is registered, and the files are found under their keys. -/
theorem collect_storeFile_of_free {files : List (String × Template)}
    (hkeys : files.Pairwise fun e e' => e.1 ≠ e'.1)
    (hpaths : files.Pairwise fun e e' => e.2.physicalPath ≠ e'.2.physicalPath)
    {x : TemplateIndex} (hfree : ∀ e ∈ files, e.2.physicalPath ∉ x.paths) :
    (collect storeFile files x).2 = files.map (fun e => .registered e.1 e.2.module) ∧
    ∀ key t, (collect storeFile files x).1.find? key = some t ↔
      (key, t) ∈ files ∨ (∀ e ∈ files, e.1 ≠ key) ∧ x.find? key = some t := by
  induction files generalizing x with
  | nil => simp
  | cons e files ih =>
    obtain ⟨hkey, hkeys⟩ := List.pairwise_cons.1 hkeys
    obtain ⟨hpath, hpaths⟩ := List.pairwise_cons.1 hpaths
    have hfirst : e.2.physicalPath ∉ x.paths := hfree e List.mem_cons_self
    have hrest : ∀ e' ∈ files, e'.2.physicalPath ∉ (storeFile x e).1.paths := by
      intro e' he' htaken
      rcases (TemplateIndex.mem_paths_insert hfirst e.1 _).1 htaken with hsame | ⟨htaken, -⟩
      · exact hpath e' he' hsame.symm
      · exact hfree e' (List.mem_cons_of_mem e he') htaken
    obtain ⟨hanswers, hfind⟩ := ih hkeys hpaths hrest
    rw [collect_cons]
    constructor
    · have hanswer : (storeFile x e).2 = .registered e.1 e.2.module := by
        rw [storeFile, TemplateIndex.insert_of_free hfirst]
      rw [hanswers, hanswer, List.map_cons]
    · intro key t
      obtain ⟨key', t'⟩ := e
      rw [hfind, storeFile, TemplateIndex.find?_insert hfirst]
      by_cases hk : key = key'
      · subst hk
        have hnot : (key, t) ∉ files := fun hmem => hkey _ hmem rfl
        have hothers : ∀ e ∈ files, e.1 ≠ key := fun e he heq => hkey e he heq.symm
        have hself : ¬ ∀ e ∈ (key, t') :: files, e.1 ≠ key := fun h => h _ List.mem_cons_self rfl
        rw [and_iff_right hothers, iff_false_intro hnot, iff_false_intro hself]
        simp [hnot, eq_comm]
      · simp [hk, Ne.symm hk]

/-- **Files at taken paths change nothing.** -/
theorem collect_storeFile_of_taken {files : List (String × Template)} {x : TemplateIndex}
    (htaken : ∀ e ∈ files, e.2.physicalPath ∈ x.paths) :
    collect storeFile files x = (x, files.map fun _ => .duplicate) := by
  induction files with
  | nil => rfl
  | cons e files ih =>
    have hfirst : storeFile x e = (x, .duplicate) :=
      TemplateIndex.insert_of_taken (htaken e List.mem_cons_self) e.1
    rw [collect_cons, hfirst, ih fun e' he' => htaken e' (List.mem_cons_of_mem e he')]
    rfl

/-! ## The first file of a place -/

section

variable {x : TemplateIndex} {e : String × Template} {files : List (String × Template)}

/-- Under a new key nothing is lost. -/
theorem mem_paths_storeFile (h : x.find? e.1 = none) (path : String) :
    path ∈ (storeFile x e).1.paths ↔ path = e.2.physicalPath ∨ path ∈ x.paths := by
  unfold storeFile
  by_cases htaken : e.2.physicalPath ∈ x.paths
  · rw [TemplateIndex.insert_of_taken htaken]
    exact (or_iff_right_of_imp fun hpath => hpath ▸ htaken).symm
  · rw [TemplateIndex.mem_paths_insert htaken, h]
    simp

theorem find?_storeFile (h : x.find? e.1 = none) (key : String) (t : Template) :
    (storeFile x e).1.find? key = some t ↔
      x.find? key = some t ∨ e = (key, t) ∧ t.physicalPath ∉ x.paths := by
  constructor
  · intro hfound
    rcases TemplateIndex.stored_of_insert hfound with hold | ⟨rfl, rfl, hfree⟩
    · exact Or.inl hold
    · exact Or.inr ⟨rfl, hfree⟩
  · rintro (hold | ⟨rfl, hfree⟩)
    · unfold storeFile
      by_cases htaken : e.2.physicalPath ∈ x.paths
      · rw [TemplateIndex.insert_of_taken htaken]
        exact hold
      · rw [TemplateIndex.find?_insert htaken, if_neg]
        · exact hold
        · rintro rfl
          rw [h] at hold
          cases hold
    · rw [storeFile, TemplateIndex.find?_insert hfree, if_pos rfl]

/-- **Files under new keys**: no two share a key, and the index has none of their keys. -/
structure Fresh (x : TemplateIndex) (files : List (String × Template)) : Prop where
  keys : files.Pairwise fun e e' => e.1 ≠ e'.1
  unused : ∀ e ∈ files, x.find? e.1 = none

theorem Fresh.storeFile (h : Fresh x (e :: files)) : Fresh (storeFile x e).1 files where
  keys := (List.pairwise_cons.1 h.keys).2
  unused e' he' := by
    have hne : e.1 ≠ e'.1 := (List.pairwise_cons.1 h.keys).1 e' he'
    refine Option.eq_none_iff_forall_ne_some.2 fun t hfound => ?_
    rcases (find?_storeFile (h.unused e List.mem_cons_self) e'.1 t).1 hfound with hold | ⟨rfl, -⟩
    · rw [h.unused e' (List.mem_cons_of_mem e he')] at hold
      cases hold
    · exact hne rfl

/-- The paths that are taken after files under new keys. -/
theorem mem_paths_collect (h : Fresh x files) (path : String) :
    path ∈ (collect storeFile files x).1.paths ↔
      path ∈ x.paths ∨ ∃ e ∈ files, path = e.2.physicalPath := by
  induction files generalizing x with
  | nil => simp
  | cons e files ih =>
    rw [collect_cons, ih h.storeFile, mem_paths_storeFile (h.unused e List.mem_cons_self)]
    simp only [List.mem_cons, exists_eq_or_imp]
    rw [or_comm (a := path = _), or_assoc]

/-- **What is stored after files under new keys**: what was stored before, and each file
whose path was free when its turn came. -/
theorem find?_collect (h : Fresh x files) (key : String) (t : Template) :
    (collect storeFile files x).1.find? key = some t ↔
      x.find? key = some t ∨ ∃ i, files[i]? = some (key, t) ∧
        t.physicalPath ∉ (collect storeFile (files.take i) x).1.paths := by
  induction files generalizing x with
  | nil => simp
  | cons e files ih =>
    rw [collect_cons, ih h.storeFile, find?_storeFile (h.unused e List.mem_cons_self), or_assoc]
    refine or_congr_right ?_
    constructor
    · rintro (⟨rfl, hfree⟩ | ⟨i, hi, hfree⟩)
      · exact ⟨0, rfl, hfree⟩
      · exact ⟨i + 1, hi, hfree⟩
    · rintro ⟨_ | i, hi, hfree⟩
      · exact Or.inl ⟨Option.some.inj hi, hfree⟩
      · exact Or.inr ⟨i, hi, hfree⟩

/-- **No earlier file has the place** of the i-th: its module and its path in it. -/
def IsFirst (files : List (String × Template)) (i : Nat) (t : Template) : Prop :=
  ∀ e ∈ files.take i, ¬ (e.2.module = t.module ∧ e.2.path = t.path)

instance decidableIsFirst (files : List (String × Template)) (i : Nat) (t : Template) :
    Decidable (IsFirst files i t) :=
  inferInstanceAs (Decidable (∀ e ∈ files.take i, ¬ (e.2.module = t.module ∧ e.2.path = t.path)))

/-- On a new index a file finds its path free if it is the first of its place. -/
theorem isFirst_iff (extraRules : List RoutingRule) (hkeys : files.Pairwise fun e e' => e.1 ≠ e'.1)
    (i : Nat) (t : Template) : IsFirst files i t ↔
      t.physicalPath ∉ (collect storeFile (files.take i) (.empty extraRules)).1.paths := by
  have hfresh : Fresh (.empty extraRules) (files.take i) :=
    ⟨hkeys.sublist (List.take_sublist i files), fun _ _ => rfl⟩
  have hnew : t.physicalPath ∉ (TemplateIndex.empty extraRules).paths := SortedSet.notMem_empty _
  rw [mem_paths_collect hfresh, or_iff_right hnew, IsFirst]
  simp only [← Template.physicalPath_eq_iff, not_exists, not_and, eq_comm (a := t.physicalPath)]

/-- **The first file of a place is stored.**  Of files with different keys that go into a
new index, a file is registered if no earlier one has its module and its path, and is a
duplicate otherwise; what is stored in the end are the registered files.  If one of them is
removed, then another file can be stored at its place. -/
theorem stored_iff_isFirst (extraRules : List RoutingRule)
    (hkeys : files.Pairwise fun e e' => e.1 ≠ e'.1) :
    let stored := collect storeFile files (.empty extraRules)
    (∀ i key t, files[i]? = some (key, t) →
      (stored.2[i]? = some (.registered key t.module) ↔ IsFirst files i t) ∧
      (stored.2[i]? = some .duplicate ↔ ¬ IsFirst files i t)) ∧
    (∀ key t, stored.1.find? key = some t ↔ ∃ i, files[i]? = some (key, t) ∧ IsFirst files i t) ∧
    ∀ key t, stored.1.find? key = some t →
      ∀ key' u, u.module = t.module → u.path = t.path →
        ((stored.1.remove key).insert key' u).2 = .registered key' u.module ∧
        ∀ k, ((stored.1.remove key).insert key' u).1.find? k =
          if k = key' then some u else if k = key then none else stored.1.find? k := by
  intro stored
  refine ⟨fun i key t hi => ?_, fun key t => ?_, ?_⟩
  · have hanswer := getElem?_collect storeFile files (.empty extraRules) i
    rw [hi, Option.map_some, storeFile] at hanswer
    have hfree := isFirst_iff extraRules hkeys i t
    by_cases hfirst : IsFirst files i t
    · rw [TemplateIndex.insert_of_free (hfree.1 hfirst)] at hanswer
      simp [stored, hanswer, hfirst]
    · rw [TemplateIndex.insert_of_taken (Classical.not_not.1 (mt hfree.2 hfirst))] at hanswer
      simp [stored, hanswer, hfirst]
  · rw [find?_collect ⟨hkeys, fun _ _ => rfl⟩, or_iff_right (by rintro ⟨⟩)]
    simp only [isFirst_iff extraRules hkeys]
  · intro key t hstored key' u hmodule hpath
    have hfree : u.physicalPath ∉ (stored.1.remove key).paths := by
      rw [TemplateIndex.mem_paths_remove]
      rintro ⟨-, hother⟩
      exact hother t hstored (Template.physicalPath_eq_iff.2 ⟨hmodule, hpath⟩)
    refine ⟨by rw [TemplateIndex.insert_of_free hfree], fun k => ?_⟩
    rw [TemplateIndex.find?_insert hfree, TemplateIndex.find?_remove]

/-- Files of the library, two of them at one place: the module of the shared scope is the
library in another spelling. -/
def readmes : List (String × Template) :=
  [("first", .new .lib "README.md" (.text "one")),
    ("second", .new (.target .shared) "README.md" (.text "two")),
    ("third", .new .lib "docs/README.md" (.text "three"))]

/-- The second file is dropped; when the first one is removed, the second can be stored. -/
theorem readmes_stored : (readmes.Pairwise fun e e' => e.1 ≠ e'.1) ∧
    (collect storeFile readmes (.empty [])).2[1]? = some .duplicate ∧
    (collect storeFile readmes (.empty [])).2[2]? = some (.registered "third" .lib) ∧
    (((collect storeFile readmes (.empty [])).1.remove "first").insert "second"
      (.new (.target .shared) "README.md" (.text "two"))).2 = .registered "second" .lib := by
  have hkeys : readmes.Pairwise fun e e' => e.1 ≠ e'.1 := by decide
  obtain ⟨hanswers, hstored, hagain⟩ := stored_iff_isFirst [] hkeys
  obtain ⟨-, hsecond⟩ := hanswers 1 "second" _ rfl
  obtain ⟨hthird, -⟩ := hanswers 2 "third" _ rfl
  have hfirst := (hstored "first" _).2 ⟨0, rfl, by decide⟩
  exact ⟨hkeys, hsecond.2 (by decide), hthird.2 (by decide),
    (hagain "first" _ hfirst "second" _ rfl rfl).1⟩

end

end Fanout.Generation
