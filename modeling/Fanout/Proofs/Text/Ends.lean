import Mathlib.Data.List.TakeWhile
import Fanout.Text

/-!
# Ends of a text

Trimming takes characters away at the ends of a text, so it leaves alone a text whose
first and last characters are to stay.  Cutting at the first separator undoes putting
a text without one and a separator before another text; cutting at the last one undoes
putting a separator and a text without one behind it.
-/

namespace Fanout.Text

variable {p : Char → Bool} {c : Char} {l : List Char}

/-! ## Trimming -/

theorem trimEnds_prefix (p : Char → Bool) (l : List Char) :
    trimEnds p l <+: l.dropWhile p := by
  rw [← List.reverse_suffix, trimEnds, List.reverse_reverse]
  exact List.dropWhile_suffix p

/-- A text that was trimmed starts with none of the characters that were taken
away. -/
theorem not_of_head?_trimEnds (h : (trimEnds p l).head? = some c) : p c = false := by
  obtain ⟨rest, hrest⟩ := trimEnds_prefix p l
  have hhead : (l.dropWhile p).head? = some c := by
    rw [← hrest, List.head?_append, h]
    rfl
  have hnot := List.head?_dropWhile_not p l
  rw [hhead] at hnot
  exact hnot

theorem dropWhile_eq_of_head? (h : ∀ c, l.head? = some c → p c = false) : l.dropWhile p = l := by
  cases l with
  | nil => rfl
  | cons c rest => rw [List.dropWhile_cons_of_neg (by simp [h c rfl])]

/-- A text that starts and ends with characters that stay is left as it is. -/
theorem trimEnds_eq_self (hfirst : ∀ c, l.head? = some c → p c = false)
    (hlast : ∀ c, l.getLast? = some c → p c = false) : trimEnds p l = l := by
  rw [← List.head?_reverse] at hlast
  rw [trimEnds, dropWhile_eq_of_head? hfirst, dropWhile_eq_of_head? hlast, List.reverse_reverse]

/-- Texts put together are left as they are if the first one starts and the second one
ends with a character that stays. -/
theorem trimEnds_append {d : Char} {l' : List Char} (hfirst : l.head? = some c)
    (hc : p c = false) (hlast : l'.getLast? = some d) (hd : p d = false) :
    trimEnds p (l ++ l') = l ++ l' := by
  refine trimEnds_eq_self (fun e he => ?_) (fun e he => ?_)
  · rw [List.head?_append, hfirst] at he
    obtain rfl := Option.some.inj he
    exact hc
  · rw [List.getLast?_append, hlast] at he
    obtain rfl := Option.some.inj he
    exact hd

/-- A text that was trimmed ends with none of the characters that were taken away. -/
theorem not_of_getLast?_trimEnds (h : (trimEnds p l).getLast? = some c) : p c = false := by
  rw [trimEnds, List.getLast?_reverse] at h
  have hnot := List.head?_dropWhile_not p (l.dropWhile p).reverse
  rw [h] at hnot
  exact hnot

/-- At its end a text has characters of those that are taken away, perhaps none, and in
front of them stands one that is not. -/
theorem exists_eq_append (p : Char → Bool) (l : List Char) : ∃ body rest, l = body ++ rest ∧
    (∀ c ∈ rest, p c = true) ∧ ∀ c, body.getLast? = some c → p c = false := by
  refine ⟨(l.reverse.dropWhile p).reverse, (l.reverse.takeWhile p).reverse, ?_, fun c hc => ?_,
    fun c hc => ?_⟩
  · rw [← List.reverse_append, List.takeWhile_append_dropWhile, List.reverse_reverse]
  · exact List.mem_takeWhile_imp (List.mem_reverse.1 hc)
  · have hnot := List.head?_dropWhile_not p l.reverse
    rw [List.getLast?_reverse] at hc
    rw [hc] at hnot
    exact hnot

/-- Further characters of those that are taken away make no difference at the end. -/
theorem trimEnds_append_of_forall {rest : List Char} (h : ∀ c ∈ rest, p c = true)
    (l : List Char) : trimEnds p (l ++ rest) = trimEnds p l := by
  have hrest : rest.dropWhile p = [] := List.dropWhile_eq_nil_iff.2 h
  have hback : rest.reverse.dropWhile p = [] :=
    List.dropWhile_eq_nil_iff.2 fun c hc => h c (List.mem_reverse.1 hc)
  rw [trimEnds, trimEnds, List.dropWhile_append]
  split
  next hempty => rw [hrest, List.isEmpty_iff.1 hempty]
  next => rw [List.reverse_append, List.dropWhile_append, hback]; rfl

/-- Nor do they at the beginning. -/
theorem trimEnds_cons_of (h : p c = true) (l : List Char) : trimEnds p (c :: l) = trimEnds p l := by
  rw [trimEnds, List.dropWhile_cons_of_pos h, trimEnds]

/-! ## Cutting at the first separator -/

/-- What stands before and after a separator that is the first one. -/
theorem cutFirst_append {before : List Char} (h : c ∉ before) (after : List Char) :
    cutFirst c (before ++ c :: after) = some (before, after) := by
  induction before with
  | nil => exact if_pos rfl
  | cons d before ih =>
    obtain ⟨hd, hbefore⟩ := not_or.1 (mt List.mem_cons.2 h)
    rw [List.cons_append, cutFirst, if_neg (Ne.symm hd), ih hbefore]
    rfl

/-- The parts make up the text again, and the separator was the first one. -/
theorem of_cutFirst {before after : List Char} (h : cutFirst c l = some (before, after)) :
    c ∉ before ∧ l = before ++ c :: after := by
  induction l generalizing before with
  | nil => cases h
  | cons d rest ih =>
    unfold cutFirst at h
    split at h
    next hd =>
      obtain ⟨rfl, rfl⟩ := Prod.mk.inj (Option.some.inj h)
      exact ⟨List.not_mem_nil, by rw [hd]; rfl⟩
    next hd =>
      obtain ⟨⟨before', after'⟩, hcut, heq⟩ := Option.map_eq_some_iff.1 h
      obtain ⟨rfl, rfl⟩ := Prod.mk.inj heq
      obtain ⟨hbefore, rfl⟩ := ih hcut
      exact ⟨List.not_mem_cons_of_ne_of_not_mem (Ne.symm hd) hbefore, rfl⟩

/-! ## Cutting at the last separator -/

theorem cutLast_of_not_mem (h : c ∉ l) : cutLast c l = none := by
  induction l with
  | nil => rfl
  | cons d rest ih =>
    obtain ⟨hd, hrest⟩ := not_or.1 (mt List.mem_cons.2 h)
    rw [cutLast, ih hrest]
    exact if_neg (Ne.symm hd)

/-- What stands before and after a separator that is the last one. -/
theorem cutLast_append {after : List Char} (h : c ∉ after) (before : List Char) :
    cutLast c (before ++ c :: after) = some (before, after) := by
  induction before with
  | nil => rw [List.nil_append, cutLast, cutLast_of_not_mem h]; exact if_pos rfl
  | cons d before ih => rw [List.cons_append, cutLast, ih]

theorem cutLast_eq_none_iff : cutLast c l = none ↔ c ∉ l := by
  refine ⟨fun h hc => ?_, cutLast_of_not_mem⟩
  induction l with
  | nil => cases hc
  | cons d rest ih =>
    cases hrest : cutLast c rest with
    | some cut => simp [cutLast, hrest] at h
    | none =>
      rcases List.mem_cons.1 hc with rfl | hc
      · simp [cutLast, hrest] at h
      · exact ih hrest hc

/-- The parts make up the text again, and the separator was the last one. -/
theorem of_cutLast {before after : List Char} (h : cutLast c l = some (before, after)) :
    c ∉ after ∧ l = before ++ c :: after := by
  induction l generalizing before with
  | nil => cases h
  | cons d rest ih =>
    cases hrest : cutLast c rest with
    | some cut =>
      simp only [cutLast, hrest] at h
      obtain ⟨rfl, rfl⟩ := Prod.mk.inj (Option.some.inj h)
      obtain ⟨hafter, heq⟩ := ih hrest
      exact ⟨hafter, congrArg (d :: ·) heq⟩
    | none =>
      simp only [cutLast, hrest] at h
      split at h
      next hd =>
        obtain ⟨rfl, rfl⟩ := Prod.mk.inj (Option.some.inj h)
        exact ⟨cutLast_eq_none_iff.1 hrest, by rw [hd]; rfl⟩
      next => cases h

end Fanout.Text
