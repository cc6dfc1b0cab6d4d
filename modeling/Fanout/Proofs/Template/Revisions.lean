import Fanout.Proofs.SortedMap
import Fanout.Template.Revisions

/-!
# Order of revisions

Revisions are kept by key and by pattern.  Those of a key run in the order in which
they were added.  Those of the patterns that match a path run pattern by pattern, a
pattern standing where it was first given a revision.  That is the order of the
additions as long as no pattern gets a further revision behind one of another pattern
that matches too, and only as long.

## Main definitions

* `Revisions.Addition`, `Revisions.addAll` — a revision with what it is added for, and
  such additions one after the other.
* `Revisions.ofKey`, `Revisions.ofPath` — the revisions added for a key, and those added
  for the patterns that match a path, as they were added.
* `Revisions.grouped` — revisions pattern by pattern.
* `Revisions.InBlocks` — patterns that come again come again at once.

## Main statements

* `Revisions.selectFor_addAll` — which revisions run, and in which order.
* `Revisions.run_grouped_iff` — when revisions have the effect of their order of
  addition, whatever they do.
* `Revisions.apply_addAll_iff` — the same said of the revisions of a run.
-/

namespace Fanout.Revisions

variable {key path text : String} {f : Revision} {fs : List Revision}

/-! ## Additions -/

/-- **What a revision belongs to.** -/
inductive Subject where
  | key (key : String)
  | pattern (p : Pattern)

namespace Subject

/-- Whether it is a key. -/
def isKey (key : String) : Subject → Bool
  | .key k => k = key
  | .pattern _ => false

/-- The pattern. -/
def pattern? : Subject → Option Pattern
  | .key _ => none
  | .pattern p => some p

/-- The written form of a pattern that matches a path. -/
def matched? (path : String) (s : Subject) : Option String :=
  (s.pattern?.filter fun p => p.isIn path).map Pattern.text

end Subject

/-- **A revision with what it is added for.** -/
structure Addition where
  subject : Subject
  revision : Revision

/-- Adds a revision. -/
def add (r : Revisions) (a : Addition) : Revisions :=
  match a.subject with
  | .key key => r.addForKey key a.revision
  | .pattern p => r.addForPattern p a.revision

/-- **Revisions added one after the other.** -/
def addAll (additions : List Addition) : Revisions := additions.foldl add empty

/-- The revisions added for a key. -/
def ofKey (key : String) (additions : List Addition) : List Revision :=
  (additions.filter fun a => a.subject.isKey key).map Addition.revision

/-- The revisions added for patterns, each with its pattern. -/
def ofPatterns (additions : List Addition) : List (Pattern × Revision) :=
  additions.filterMap fun a => a.subject.pattern?.map fun p => (p, a.revision)

/-- What belongs to the patterns that match a path, under their written forms. -/
def matching (path : String) (l : List (Pattern × Revision)) : List (String × Revision) :=
  (l.filter fun e => e.1.isIn path).map fun e => (e.1.text, e.2)

/-- The revisions added for patterns that match a path, each with the written form of
its pattern. -/
def ofPath (path : String) (additions : List Addition) : List (String × Revision) :=
  matching path (ofPatterns additions)

/-- **Patterns that are written alike match alike** on a path. -/
def MatchAlike (path : String) (subjects : List Subject) : Prop :=
  ∀ p q, .pattern p ∈ subjects → .pattern q ∈ subjects → p.text = q.text →
    p.isIn path = q.isIn path

/-- The patterns with revisions are patterns of the additions. -/
theorem mem_of_mem_ofPatterns {additions : List Addition} {e : Pattern × Revision}
    (h : e ∈ ofPatterns additions) : .pattern e.1 ∈ additions.map Addition.subject := by
  obtain ⟨a, ha, he⟩ := List.mem_filterMap.1 h
  obtain ⟨p, hp, rfl⟩ := Option.map_eq_some_iff.1 he
  refine List.mem_map.2 ⟨a, ha, ?_⟩
  cases hsubject : a.subject with
  | key k =>
    rw [hsubject] at hp
    cases hp
  | pattern q =>
    rw [hsubject] at hp
    obtain rfl := Option.some.inj hp
    rfl

/-! ## Running revisions -/

/-- **Runs revisions one after the other.** -/
def run (revisions : List Revision) (text : String) : String :=
  revisions.foldl (fun text f => f text) text

theorem apply_eq (r : Revisions) (key path text : String) :
    r.apply key path text = run (r.selectFor key path) text := rfl

theorem run_cons (f : Revision) (fs : List Revision) (text : String) :
    run (f :: fs) text = run fs (f text) := rfl

theorem run_append (fs gs : List Revision) (text : String) :
    run (fs ++ gs) text = run gs (run fs text) := List.foldl_append

/-- Revisions that change nothing. -/
theorem run_of_forall_id (h : ∀ f ∈ fs, f = id) (text : String) : run fs text = text := by
  induction fs with
  | nil => rfl
  | cons f fs ih =>
    rw [run_cons, h f List.mem_cons_self]
    exact ih fun g hg => h g (List.mem_cons_of_mem f hg)

/-! ## Revisions pattern by pattern -/

/-- **Revisions pattern by pattern**, the patterns in the order in which they come
first. -/
def grouped (l : List (String × Revision)) : List Revision :=
  (l.map Prod.fst).eraseDups.flatMap fun p => (l.filter fun e => e.1 = p).map Prod.snd

/-- The first pattern's revisions come first. -/
theorem grouped_cons (p : String) (f : Revision) (l : List (String × Revision)) :
    grouped ((p, f) :: l) =
      f :: (l.filter fun e => e.1 = p).map Prod.snd ++ grouped (l.filter fun e => e.1 ≠ p) := by
  have hothers : (l.map Prod.fst).filter (fun q => !(q == p)) =
      (l.filter fun e => e.1 ≠ p).map Prod.fst := by
    rw [List.filter_map]
    congr 1
    refine List.filter_congr fun e _ => ?_
    simp [Bool.beq_eq_decide_eq]
  unfold grouped
  rw [List.map_cons, List.eraseDups_cons, hothers, List.flatMap_cons]
  congr 1
  · simp
  · rw [List.flatMap_def, List.flatMap_def]
    refine congrArg List.flatten (List.map_congr_left fun q hq => ?_)
    -- another pattern's revisions are all behind the first one
    obtain ⟨e, he, rfl⟩ := List.mem_map.1 (List.mem_eraseDups.1 hq)
    have hne : e.1 ≠ p := of_decide_eq_true (List.mem_filter.1 he).2
    rw [List.filter_cons_of_neg (by simpa using hne.symm), List.filter_filter]
    congr 1
    refine List.filter_congr fun e' _ => ?_
    by_cases h : e'.1 = e.1
    · simp [h, hne]
    · simp [h]

theorem mem_of_mem_grouped {l : List (String × Revision)} (h : f ∈ grouped l) :
    ∃ p, (p, f) ∈ l := by
  obtain ⟨p, -, hp⟩ := List.mem_flatMap.1 h
  obtain ⟨⟨q, g⟩, he, rfl⟩ := List.mem_map.1 hp
  exact ⟨q, (List.mem_filter.1 he).1⟩

/-- **Patterns in blocks**: a pattern that comes again comes again at once. -/
def InBlocks : List String → Prop
  | [] => True
  | p :: rest => (p ∈ rest → rest.head? = some p) ∧ InBlocks rest

instance decidableInBlocks : (patterns : List String) → Decidable (InBlocks patterns)
  | [] => inferInstanceAs (Decidable True)
  | p :: rest =>
    have := decidableInBlocks rest
    inferInstanceAs (Decidable ((p ∈ rest → rest.head? = some p) ∧ InBlocks rest))

/-- A pattern in a block stays where it is. -/
theorem grouped_cons_of_block {p : String} {l : List (String × Revision)}
    (h : p ∈ l.map Prod.fst → (l.map Prod.fst).head? = some p) (f : Revision) :
    grouped ((p, f) :: l) = f :: grouped l := by
  rw [grouped_cons]
  by_cases hp : p ∈ l.map Prod.fst
  · -- the rest begins with the same pattern
    cases l with
    | nil => cases hp
    | cons e l =>
      obtain ⟨q, g⟩ := e
      obtain rfl := Option.some.inj (h hp)
      rw [grouped_cons]
      simp
  · have hsame : (l.filter fun e => e.1 = p) = [] := by
      refine List.filter_eq_nil_iff.2 fun e he heq => hp ?_
      exact List.mem_map.2 ⟨e, he, of_decide_eq_true heq⟩
    have hothers : (l.filter fun e => e.1 ≠ p) = l := by
      refine List.filter_eq_self.2 fun e he => decide_eq_true ?_
      rintro rfl
      exact hp (List.mem_map_of_mem he)
    rw [hsame, hothers]
    rfl

/-- Revisions in blocks stay where they are. -/
theorem grouped_of_inBlocks {l : List (String × Revision)} (h : InBlocks (l.map Prod.fst)) :
    grouped l = l.map Prod.snd := by
  induction l with
  | nil => rfl
  | cons e l ih => rw [grouped_cons_of_block h.1, ih h.2, List.map_cons]

/-- In front of revisions that change nothing a revision runs as if it were alone. -/
theorem run_grouped_cons_of_forall_id {l : List (String × Revision)} (h : ∀ e ∈ l, e.2 = id)
    (p : String) (f : Revision) (text : String) : run (grouped ((p, f) :: l)) text = f text := by
  rw [grouped_cons, List.cons_append, run_cons]
  refine run_of_forall_id (fun g hg => ?_) _
  rcases List.mem_append.1 hg with hg | hg
  · obtain ⟨e, he, rfl⟩ := List.mem_map.1 hg
    exact h e (List.mem_filter.1 he).1
  · obtain ⟨q, hq⟩ := mem_of_mem_grouped hg
    exact h (q, g) (List.mem_filter.1 hq).1

/-- If a pattern comes again behind another one, then there are revisions for which it
matters: each of the two patterns writes a text of its own, and the one that was added
last does not run last. -/
theorem exists_run_grouped_ne {p q : String} {rest : List String} (hne : q ≠ p)
    (hp : p ∈ rest) : ∃ l : List (String × Revision), l.map Prod.fst = p :: q :: rest ∧
      ∀ text, run (grouped l) text ≠ run (l.map Prod.snd) text := by
  obtain ⟨between, behind, rfl⟩ := List.append_of_mem hp
  let still (ps : List String) : List (String × Revision) := ps.map fun p => (p, id)
  have hstill : ∀ ps, ∀ e ∈ still ps, e.2 = id := by
    intro ps e he
    obtain ⟨p, -, rfl⟩ := List.mem_map.1 he
    rfl
  let later := still between ++ (p, fun _ => "p") :: still behind
  refine ⟨(p, id) :: (q, fun _ => "q") :: later, ?_, fun text => ?_⟩
  · simp [later, still, Function.comp_def]
  · have hadded : run (later.map Prod.snd) "q" = "p" := by
      rw [List.map_append, List.map_cons, run_append, run_cons]
      refine run_of_forall_id (fun g hg => ?_) _
      obtain ⟨e, he, rfl⟩ := List.mem_map.1 hg
      exact hstill behind e he
    have hothers : ∀ e ∈ later.filter (fun e => e.1 ≠ p), e.2 = id := by
      intro e he
      obtain ⟨hmem, hother⟩ := List.mem_filter.1 he
      rcases List.mem_append.1 hmem with h | h
      · exact hstill between e h
      rcases List.mem_cons.1 h with rfl | h
      · exact absurd rfl (of_decide_eq_true hother)
      · exact hstill behind e h
    have hgrouped : run (grouped ((p, id) :: (q, fun _ => "q") :: later)) text = "q" := by
      have hfirst : ((q, fun _ => "q") :: later).filter (fun e => e.1 ≠ p) =
          (q, fun _ => "q") :: later.filter fun e => e.1 ≠ p :=
        List.filter_cons_of_pos (decide_eq_true hne)
      rw [grouped_cons, run_append, hfirst]
      exact run_grouped_cons_of_forall_id hothers q _ _
    show _ ≠ run (later.map Prod.snd) "q"
    rw [hgrouped, hadded]
    decide

/-- **When the order of addition is kept, whatever the revisions do**: exactly when the
patterns come in blocks. -/
theorem run_grouped_iff (patterns : List String) :
    (∀ l : List (String × Revision), l.map Prod.fst = patterns →
      ∀ text, run (grouped l) text = run (l.map Prod.snd) text) ↔ InBlocks patterns := by
  constructor
  · intro h
    induction patterns with
    | nil => trivial
    | cons p rest ih =>
      have hfirst : p ∈ rest → rest.head? = some p := by
        intro hp
        cases rest with
        | nil => cases hp
        | cons q rest =>
          refine Classical.not_not.1 fun hhead => ?_
          have hne : q ≠ p := fun heq => hhead (congrArg some heq)
          obtain ⟨l, hl, hrun⟩ := exists_run_grouped_ne hne
            ((List.mem_cons.1 hp).resolve_left (Ne.symm hne))
          exact hrun "" (h l hl "")
      refine ⟨hfirst, ih fun l hl text => ?_⟩
      -- in front of `l` a revision that changes nothing
      have hlong := h ((p, id) :: l) (by rw [List.map_cons, hl]) text
      rwa [grouped_cons_of_block (by rwa [hl]), run_cons] at hlong
  · rintro h l rfl text
    rw [grouped_of_inBlocks h]

/-! ## The revisions of a run -/

/-- What is added for a key runs as it was added. -/
theorem find?_byKey_foldl_add (key : String) (additions : List Addition) (r : Revisions) :
    ((additions.foldl add r).byKey.find? key).getD [] =
      (r.byKey.find? key).getD [] ++ ofKey key additions := by
  induction additions generalizing r with
  | nil => exact (List.append_nil _).symm
  | cons a additions ih =>
    obtain ⟨s, f⟩ := a
    rw [List.foldl_cons, ih]
    cases s with
    | pattern p => rfl
    | key k =>
      show ((r.byKey.insert k _).find? key).getD [] ++ _ = _
      rw [SortedMap.find?_insert]
      by_cases hk : key = k
      · subst hk
        simp [ofKey, Subject.isKey]
      · simp [ofKey, Subject.isKey, hk, Ne.symm hk]

/-- Adds revisions of patterns one after the other. -/
def addAllIn (buckets : List (Pattern × List Revision)) (l : List (Pattern × Revision)) :
    List (Pattern × List Revision) :=
  l.foldl (fun buckets e => addIn e.1 e.2 buckets) buckets

/-- Additions for keys leave the patterns alone. -/
theorem byPattern_foldl_add (additions : List Addition) (r : Revisions) :
    (additions.foldl add r).byPattern = addAllIn r.byPattern (ofPatterns additions) := by
  induction additions generalizing r with
  | nil => rfl
  | cons a additions ih =>
    obtain ⟨s, f⟩ := a
    rw [List.foldl_cons, ih]
    cases s <;> rfl

/-- The first pattern takes the revisions of all that are written like it. -/
theorem addAllIn_cons (p : Pattern) (fs : List Revision)
    (buckets : List (Pattern × List Revision)) (l : List (Pattern × Revision)) :
    addAllIn ((p, fs) :: buckets) l =
      (p, fs ++ (l.filter fun e => e.1.text = p.text).map Prod.snd) ::
        addAllIn buckets (l.filter fun e => e.1.text ≠ p.text) := by
  induction l generalizing fs buckets with
  | nil => simp [addAllIn]
  | cons e l ih =>
    obtain ⟨q, g⟩ := e
    show addAllIn (addIn q g ((p, fs) :: buckets)) l = _
    rw [addIn_cons]
    by_cases h : q.text = p.text
    · rw [if_pos h.symm, ih]
      simp [h]
    · rw [if_neg (Ne.symm h), ih]
      simp [h, addAllIn]

section Matching

variable {p : Pattern} {l : List (Pattern × Revision)}

theorem matching_cons_of_isIn (hp : p.isIn path = true) (f : Revision) :
    matching path ((p, f) :: l) = (p.text, f) :: matching path l := by
  rw [matching, List.filter_cons_of_pos (by simp [hp]), List.map_cons, matching]

theorem matching_cons_of_not_isIn (hp : p.isIn path = false) (f : Revision) :
    matching path ((p, f) :: l) = matching path l := by
  rw [matching, List.filter_cons_of_neg (by simp [hp]), matching]

/-- To leave a pattern out is to leave out what is written like it. -/
theorem filter_matching_ne (l : List (Pattern × Revision)) (text : String) :
    (matching path l).filter (fun e => e.1 ≠ text) =
      matching path (l.filter fun e => e.1.text ≠ text) := by
  rw [matching, matching, List.filter_map, List.filter_filter, List.filter_filter]
  congr 1
  exact List.filter_congr fun e _ => Bool.and_comm _ _

/-- A pattern that matches has all revisions of what is written like it. -/
theorem filter_matching_eq (h : ∀ e ∈ l, e.1.text = text → e.1.isIn path = true) :
    ((matching path l).filter fun e => e.1 = text).map Prod.snd =
      (l.filter fun e => e.1.text = text).map Prod.snd := by
  rw [matching, List.filter_map, List.filter_filter, List.map_map]
  congr 1
  refine List.filter_congr fun e he => ?_
  by_cases htext : e.1.text = text
  · simp [h e he htext]
  · simp [htext]

/-- A pattern that does not match may be left out. -/
theorem matching_filter_ne (h : ∀ e ∈ l, e.1.text = text → e.1.isIn path = false) :
    matching path (l.filter fun e => e.1.text ≠ text) = matching path l := by
  rw [matching, matching, List.filter_filter]
  congr 1
  refine List.filter_congr fun e he => ?_
  by_cases htext : e.1.text = text
  · simp [h e he htext]
  · simp [htext]

/-- **The revisions of the patterns that match** run pattern by pattern. -/
theorem flatMap_addAllIn (path : String) (l : List (Pattern × Revision))
    (halike : ∀ e ∈ l, ∀ e' ∈ l, e.1.text = e'.1.text → e.1.isIn path = e'.1.isIn path) :
    ((addAllIn [] l).filter fun b => b.1.isIn path).flatMap (fun b => b.2) =
      grouped (matching path l) := by
  match l with
  | [] => rfl
  | (p, f) :: l =>
    have hsame : ∀ e ∈ l, e.1.text = p.text → e.1.isIn path = p.isIn path :=
      fun e he => halike e (List.mem_cons_of_mem _ he) (p, f) List.mem_cons_self
    -- what is not written like `p` is added as if `p` were not there
    have ih := flatMap_addAllIn path (l.filter fun e => e.1.text ≠ p.text) fun e he e' he' =>
      halike e (List.mem_cons_of_mem _ (List.mem_filter.1 he).1)
        e' (List.mem_cons_of_mem _ (List.mem_filter.1 he').1)
    have hfirst : addAllIn [] ((p, f) :: l) = addAllIn [(p, [f])] l := rfl
    rw [hfirst, addAllIn_cons]
    cases hp : p.isIn path with
    | false =>
      rw [List.filter_cons_of_neg (by simp [hp]), ih, matching_cons_of_not_isIn hp,
        matching_filter_ne fun e he h => (hsame e he h).trans hp]
    | true =>
      rw [List.filter_cons_of_pos (by simp [hp]), List.flatMap_cons, ih,
        matching_cons_of_isIn hp, grouped_cons, filter_matching_ne,
        filter_matching_eq fun e he h => (hsame e he h).trans hp]
      rfl
termination_by l.length
decreasing_by
  exact Nat.lt_succ_of_le (List.length_filter_le _ l)

end Matching

/-- **Which revisions run, and in which order**: those of the key as they were added,
then those of the patterns that match, pattern by pattern. -/
theorem selectFor_addAll {additions : List Addition} (key : String)
    (halike : MatchAlike path (additions.map Addition.subject)) :
    (addAll additions).selectFor key path =
      ofKey key additions ++ grouped (ofPath path additions) := by
  have hkey := find?_byKey_foldl_add key additions empty
  have hpattern := byPattern_foldl_add additions empty
  have hgrouped := flatMap_addAllIn path (ofPatterns additions)
    fun e he e' he' => halike e.1 e'.1 (mem_of_mem_ofPatterns he) (mem_of_mem_ofPatterns he')
  unfold selectFor addAll
  rw [hkey, hpattern]
  exact congrArg (ofKey key additions ++ ·) hgrouped

/-! ## Revisions to choose -/

theorem ofPath_cons_of_none {a : Addition} (h : a.subject.matched? path = none)
    (additions : List Addition) : ofPath path (a :: additions) = ofPath path additions := by
  obtain ⟨s, f⟩ := a
  cases s with
  | key k => rfl
  | pattern p =>
    refine matching_cons_of_not_isIn (Bool.eq_false_iff.2 fun hp => ?_) f
    rw [Subject.matched?, Subject.pattern?, Option.filter_some, if_pos hp] at h
    cases h

theorem ofPath_cons_of_some {a : Addition} {p : String} (h : a.subject.matched? path = some p)
    (additions : List Addition) :
    ofPath path (a :: additions) = (p, a.revision) :: ofPath path additions := by
  obtain ⟨s, f⟩ := a
  cases s with
  | key k => cases h
  | pattern q =>
    rw [Subject.matched?, Subject.pattern?, Option.filter_some] at h
    split at h
    next hq =>
      obtain rfl := Option.some.inj h
      exact matching_cons_of_isIn hq f
    next => cases h

/-- The patterns that match do not depend on the revisions. -/
theorem map_fst_ofPath (path : String) (additions : List Addition) :
    (ofPath path additions).map Prod.fst =
      (additions.map Addition.subject).filterMap (Subject.matched? path) := by
  induction additions with
  | nil => rfl
  | cons a additions ih =>
    cases h : a.subject.matched? path with
    | none => rw [ofPath_cons_of_none h, List.map_cons, List.filterMap_cons_none h, ih]
    | some p =>
      rw [ofPath_cons_of_some h, List.map_cons, List.map_cons, List.filterMap_cons_some h, ih]

/-- What is added for a key belongs to no pattern. -/
theorem mem_ofKey_cons (path : String) {a : Addition} {additions : List Addition}
    (h : f ∈ ofKey key (a :: additions)) :
    (a.subject.matched? path = none ∧ f = a.revision) ∨ f ∈ ofKey key additions := by
  obtain ⟨b, hb, rfl⟩ := List.mem_map.1 h
  obtain ⟨hmem, hkey⟩ := List.mem_filter.1 hb
  rcases List.mem_cons.1 hmem with rfl | hmem
  · refine Or.inl ⟨?_, rfl⟩
    cases hs : b.subject with
    | key k => rfl
    | pattern p =>
      rw [hs] at hkey
      cases hkey
  · exact Or.inr (List.mem_map.2 ⟨b, List.mem_filter.2 ⟨hmem, hkey⟩, rfl⟩)

/-- **Revisions can be chosen for the patterns that match** while those of a key change
nothing. -/
theorem exists_additions (key : String) (subjects : List Subject) {l : List (String × Revision)}
    (hl : l.map Prod.fst = subjects.filterMap (Subject.matched? path)) :
    ∃ additions : List Addition, additions.map Addition.subject = subjects ∧
      ofPath path additions = l ∧ ∀ f ∈ ofKey key additions, f = id := by
  induction subjects generalizing l with
  | nil =>
    obtain rfl := List.map_eq_nil_iff.1 hl
    exact ⟨[], rfl, rfl, fun f hf => by cases hf⟩
  | cons s subjects ih =>
    cases hs : s.matched? path with
    | none =>
      rw [List.filterMap_cons_none hs] at hl
      obtain ⟨additions, rfl, rfl, hids⟩ := ih hl
      refine ⟨⟨s, id⟩ :: additions, rfl, ofPath_cons_of_none hs additions, fun f hf => ?_⟩
      rcases mem_ofKey_cons path hf with ⟨-, rfl⟩ | hf
      · rfl
      · exact hids f hf
    | some p =>
      rw [List.filterMap_cons_some hs] at hl
      obtain ⟨⟨q, g⟩, l, rfl, rfl, hrest⟩ := List.map_eq_cons_iff.1 hl
      obtain ⟨additions, rfl, rfl, hids⟩ := ih hrest
      refine ⟨⟨s, g⟩ :: additions, rfl, ofPath_cons_of_some hs additions, fun f hf => ?_⟩
      rcases mem_ofKey_cons path hf with ⟨hnone, -⟩ | hf
      · rw [hs] at hnone
        cases hnone
      · exact hids f hf

/-! ## The order of additions -/

/-- Patterns that are read match alike when they are written alike. -/
theorem matchAlike_of_parse? {subjects : List Subject}
    (h : ∀ p, .pattern p ∈ subjects → Pattern.parse? p.text = some p) :
    MatchAlike path subjects := by
  intro p q hp hq htext
  have hread := h p hp
  rw [htext, h q hq] at hread
  rw [Option.some.inj hread]

/-- **When revisions run in the order in which they were added.**  If patterns that are
written alike match alike, then the revisions of a key and after them those of the
patterns that match a path run in that order, whatever they do to a text, exactly when
the patterns that match come in blocks. -/
theorem apply_addAll_iff {subjects : List Subject} {key path : String}
    (halike : MatchAlike path subjects) :
    (∀ additions : List Addition, additions.map Addition.subject = subjects → ∀ text,
      (addAll additions).apply key path text =
        run (ofKey key additions ++ (ofPath path additions).map Prod.snd) text) ↔
      InBlocks (subjects.filterMap (Subject.matched? path)) := by
  rw [← run_grouped_iff]
  constructor
  · intro h l hl text
    obtain ⟨additions, rfl, rfl, hids⟩ := exists_additions key subjects hl
    have happly := h additions rfl text
    rw [apply_eq, selectFor_addAll key halike, run_append, run_append,
      run_of_forall_id hids] at happly
    exact happly
  · rintro h additions rfl text
    rw [apply_eq, selectFor_addAll key halike, run_append, run_append]
    exact h _ (map_fst_ofPath path additions) _

/-- The pattern of some letters. -/
def letters (text : String) : Pattern where
  text := text
  expression := text.toList.foldr (fun c e => (Pattern.Expression.one (.single c)).andThen e) .empty

/-- A pattern's revisions around one of a key, then one of another pattern. -/
def blocks : List Addition :=
  [⟨.pattern (letters "yml"), (· ++ "+1")⟩, ⟨.key "k", (· ++ "+2")⟩,
    ⟨.pattern (letters "yml"), (· ++ "+3")⟩, ⟨.pattern (letters "root"), (· ++ "+4")⟩]

/-- A pattern's revisions around one of another pattern. -/
def interleaved : List Addition :=
  [⟨.pattern (letters "yml"), (· ++ "+1")⟩, ⟨.pattern (letters "root"), (· ++ "+2")⟩,
    ⟨.pattern (letters "yml"), (· ++ "+3")⟩]

theorem parse?_letters {p : Pattern}
    (h : p = letters "yml" ∨ p = letters "root") : Pattern.parse? p.text = some p := by
  rcases h with rfl | rfl <;> decide

/-- Revisions in blocks run as they were added, those of the key first. -/
theorem blocks_in_order :
    MatchAlike "root/a.yml" (blocks.map Addition.subject) ∧
      (addAll blocks).apply "k" "root/a.yml" "t" =
        run (ofKey "k" blocks ++ (ofPath "root/a.yml" blocks).map Prod.snd) "t" ∧
      (addAll blocks).apply "k" "root/a.yml" "t" = "t+2+1+3+4" := by
  have halike : MatchAlike "root/a.yml" (blocks.map Addition.subject) := by
    refine matchAlike_of_parse? fun p hp => parse?_letters ?_
    simpa [blocks] using hp
  exact ⟨halike, (apply_addAll_iff halike).2 (by decide) blocks rfl "t", by decide⟩

/-- A revision that is added behind one of another pattern runs before it, although the
patterns are read from their written forms. -/
theorem interleaved_out_of_order :
    MatchAlike "root/a.yml" (interleaved.map Addition.subject) ∧
      (addAll interleaved).apply "k" "root/a.yml" "t" = "t+1+3+2" ∧
      run (ofKey "k" interleaved ++ (ofPath "root/a.yml" interleaved).map Prod.snd) "t" =
        "t+1+2+3" := by
  refine ⟨matchAlike_of_parse? fun p hp => parse?_letters ?_, by decide, by decide⟩
  have hthree : p = letters "yml" ∨ p = letters "root" ∨ p = letters "yml" := by
    simpa [interleaved] using hp
  exact hthree.elim Or.inl Or.symm

end Fanout.Revisions
