import Mathlib.Data.List.TakeWhile
import Fanout.Text

/-!
# Words of a text

The pieces of a text that are not empty are its words: the longest stretches without a
separator.  Cutting drops the positions, so a statement about the first character of each
word has nothing to hold on to in the list of pieces.  Here a word is described by its
place in the text instead, and a function that changes the first character of every piece
is shown to change the text exactly where a word starts.

## Main definitions

* `Text.IsWord` — a word between what stands in front of it and behind it.
* `Text.StartsWord` — whether a word starts at a position.

## Main statements

* `Text.startsWord_iff` — a word starts at a character that is no separator and does not
  follow another one.
* `Text.flatMap_pieces` — the pieces put together again, with their first characters
  changed.
-/

namespace Fanout.Text

variable {p : Char → Bool} {l : List Char} {i : Nat}

/-- **A word of a text**, between what stands in front of it and behind it.  It has no
separator, and on neither side does it go on. -/
structure IsWord (p : Char → Bool) (before word after : List Char) : Prop where
  ne_nil : word ≠ []
  noSeparator : ∀ c ∈ word, p c = false
  before : before.getLast?.all p = true
  after : after.head?.all p = true

/-- Whether a word of the text starts at the position. -/
def StartsWord (p : Char → Bool) (l : List Char) (i : Nat) : Prop :=
  ∃ before word after, l = before ++ word ++ after ∧ before.length = i ∧
    IsWord p before word after

/-- **Where a word starts**: at a character that is no separator, if nothing or a separator
stands in front of it. -/
theorem startsWord_iff : StartsWord p l i ↔
    l[i]?.any (!p ·) = true ∧ (l.take i).getLast?.all p = true := by
  constructor
  · rintro ⟨before, word, after, rfl, rfl, hword⟩
    obtain ⟨c, rest, rfl⟩ := List.exists_cons_of_ne_nil hword.ne_nil
    rw [List.append_assoc, List.take_left]
    exact ⟨by simp [hword.noSeparator c List.mem_cons_self], hword.before⟩
  · rintro ⟨hany, hbefore⟩
    obtain ⟨c, hc, hnot⟩ := (Option.any_eq_true _ _).1 hany
    obtain ⟨hi, rfl⟩ := List.getElem?_eq_some_iff.1 hc
    -- the word goes on from there as long as there is no separator
    refine ⟨l.take i, (l.drop i).takeWhile (!p ·), (l.drop i).dropWhile (!p ·), ?_,
      List.length_take_of_le (Nat.le_of_lt hi), ?_, fun d hd => ?_, hbefore,
      (Option.all_eq_true _ _).2 fun d hd => ?_⟩
    · rw [List.append_assoc, List.takeWhile_append_dropWhile, List.take_append_drop]
    · rw [List.drop_eq_getElem_cons hi, List.takeWhile_cons_of_pos (by exact hnot)]
      exact List.cons_ne_nil _ _
    · simpa using List.mem_takeWhile_imp hd
    · have hhead := List.head?_dropWhile_not (!p ·) (l.drop i)
      rw [hd] at hhead
      simpa using hhead

instance : Decidable (StartsWord p l i) :=
  decidable_of_iff' _ startsWord_iff

theorem startsWord_append_cons {before rest : List Char} {c : Char} :
    StartsWord p (before ++ c :: rest) before.length ↔
      p c = false ∧ before.getLast?.all p = true := by
  rw [startsWord_iff, List.take_left, List.getElem?_append_right (Nat.le_refl _), Nat.sub_self]
  simp

/-! ## First characters -/

/-- Changing first characters twice is changing them once, if it is so for a character. -/
theorem modifyHead_flatMap_modifyHead {f : Char → Char} (hf : ∀ c, f (f c) = f c)
    (ls : List (List Char)) :
    (ls.flatMap (List.modifyHead f)).modifyHead f = ls.flatMap (List.modifyHead f) := by
  induction ls with
  | nil => rfl
  | cons l ls ih =>
    cases l with
    | nil => exact ih
    | cons c l => rw [List.flatMap_cons, List.modifyHead_cons, List.cons_append,
        List.modifyHead_cons, hf]

/-- What stands behind `before` in a text: its first piece goes on with the word that
`before` ends with, if it does. -/
theorem map_zipIdx_append (f : Char → Char) {first : List Char} {others : List (List Char)}
    (h : pieces p l = first :: others) (before : List Char) :
    ((l.zipIdx before.length).filter fun c => !p c.1).map
        (fun c => if StartsWord p (before ++ l) c.2 then f c.1 else c.1) =
      (if before.getLast?.all p then first.modifyHead f else first) ++
        others.flatMap (List.modifyHead f) := by
  induction l generalizing before first others with
  | nil =>
    obtain ⟨rfl, rfl⟩ := List.cons.inj h
    simp
  | cons c rest ih =>
    obtain ⟨first', others', hrest⟩ := List.exists_cons_of_ne_nil (pieces_ne_nil p rest)
    have hih := ih hrest (before ++ [c])
    rw [List.length_append, List.length_singleton, List.append_assoc, List.singleton_append,
      List.getLast?_concat, Option.all_some] at hih
    by_cases hc : p c = true
    · rw [pieces_cons_of_separator hc, hrest] at h
      obtain ⟨rfl, rfl⟩ := List.cons.inj h
      rw [List.zipIdx_cons, List.filter_cons_of_neg (by simp [hc]), hih, if_pos hc]
      simp
    · have hnot : p c = false := by simpa using hc
      rw [pieces_cons_of_not hnot hrest] at h
      obtain ⟨rfl, rfl⟩ := List.cons.inj h
      -- whatever follows this character is of the same word
      rw [if_neg hc] at hih
      rw [List.zipIdx_cons, List.filter_cons_of_pos (by simp [hnot]), List.map_cons, hih]
      by_cases hbefore : before.getLast?.all p = true
      · rw [if_pos (startsWord_append_cons.2 ⟨hnot, hbefore⟩), if_pos hbefore]
        rfl
      · rw [if_neg fun hstarts => hbefore (startsWord_append_cons.1 hstarts).2, if_neg hbefore]
        rfl

/-- **The pieces put together again, with their first characters changed**, are the
characters of the text that are no separators, changed where a word starts. -/
theorem flatMap_pieces (f : Char → Char) (p : Char → Bool) (l : List Char) :
    (pieces p l).flatMap (List.modifyHead f) =
      (l.zipIdx.filter fun c => !p c.1).map fun c =>
        if StartsWord p l c.2 then f c.1 else c.1 := by
  obtain ⟨first, others, hpieces⟩ := List.exists_cons_of_ne_nil (pieces_ne_nil p l)
  have h := map_zipIdx_append f hpieces []
  rw [List.length_nil, List.nil_append] at h
  rw [h, hpieces, List.flatMap_cons]
  simp

end Fanout.Text
