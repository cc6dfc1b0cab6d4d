import Fanout.Text

/-!
# Pieces of a text put together

Cutting at a separator undoes putting together with it, and the other way round.  What
makes this true is that no piece holds the separator; a text without separators is one
piece, and a separator behind it starts the next.
-/

namespace Fanout.Text

variable {p : Char → Bool}

/-- A text without separators is one piece. -/
theorem pieces_of_forall_not {l : List Char} (h : ∀ c ∈ l, p c = false) : pieces p l = [l] := by
  induction l with
  | nil => rfl
  | cons c l ih =>
    have hc : p c = false := h c List.mem_cons_self
    have hl := ih fun d hd => h d (List.mem_cons_of_mem _ hd)
    exact pieces_cons_of_not hc hl

/-- A text without separators and a separator behind it are a piece on its own. -/
theorem pieces_append_cons {l : List Char} (h : ∀ c ∈ l, p c = false) {d : Char} (hd : p d = true)
    (rest : List Char) : pieces p (l ++ d :: rest) = l :: pieces p rest := by
  induction l with
  | nil => rw [List.nil_append, pieces_cons_of_separator hd]
  | cons c l ih =>
    have hc : p c = false := h c List.mem_cons_self
    have hl := ih fun e he => h e (List.mem_cons_of_mem _ he)
    exact pieces_cons_of_not hc hl

/-- **Cutting undoes putting together**: texts without separators, with one
between each two, are the pieces of the whole. -/
theorem pieces_intercalate {d : Char} (hd : p d = true) {ls : List (List Char)} (hne : ls ≠ [])
    (h : ∀ l ∈ ls, ∀ c ∈ l, p c = false) : pieces p ([d].intercalate ls) = ls := by
  induction ls with
  | nil => exact absurd rfl hne
  | cons l ls ih =>
    have hl := h l List.mem_cons_self
    cases ls with
    | nil => rw [List.intercalate_singleton, pieces_of_forall_not hl]
    | cons l' ls =>
      have hrest := ih (List.cons_ne_nil _ _) fun m hm => h m (List.mem_cons_of_mem _ hm)
      rw [List.intercalate_cons_cons, List.append_assoc, List.singleton_append,
        pieces_append_cons hl hd, hrest]

/-- **Putting together undoes cutting.** -/
theorem intercalate_pieces (d : Char) (l : List Char) : [d].intercalate (pieces (· = d) l) = l := by
  induction l with
  | nil => rfl
  | cons c l ih =>
    by_cases hc : c = d
    · subst hc
      rw [pieces_cons_of_separator (decide_eq_true rfl)]
      obtain ⟨first, others, hpieces⟩ := List.exists_cons_of_ne_nil (pieces_ne_nil (· = c) l)
      rw [hpieces] at ih ⊢
      rw [List.intercalate_cons_cons, ih]
      rfl
    · obtain ⟨first, others, hpieces⟩ := List.exists_cons_of_ne_nil (pieces_ne_nil (· = d) l)
      rw [pieces_cons_of_not (decide_eq_false hc) hpieces]
      rw [hpieces] at ih
      cases others with
      | nil =>
        rw [List.intercalate_singleton] at ih ⊢
        rw [ih]
      | cons second others =>
        rw [List.intercalate_cons_cons] at ih ⊢
        rw [← ih]
        simp

/-- **The pieces of a text** are the texts without separators that it is put together of. -/
theorem split_eq_iff {d : Char} {s : String} {parts : List String} (hne : parts ≠ []) :
    split (· = d) s = parts ↔
      s.toList = [d].intercalate (parts.map String.toList) ∧ ∀ part ∈ parts, d ∉ part.toList := by
  constructor
  · rintro rfl
    rw [split, List.map_map]
    constructor
    · have hback : (pieces (· = d) s.toList).map (String.toList ∘ String.ofList) =
          pieces (· = d) s.toList := by simp
      rw [hback, intercalate_pieces]
    · intro part hpart hd
      obtain ⟨piece, hpiece, rfl⟩ := List.mem_map.1 hpart
      rw [String.toList_ofList] at hd
      have hnot := not_separator_of_mem_pieces hpiece hd
      cases of_decide_eq_false hnot rfl
  · rintro ⟨hs, hparts⟩
    have hpieces : pieces (· = d) s.toList = parts.map String.toList := by
      rw [hs]
      refine pieces_intercalate (decide_eq_true rfl) (mt List.map_eq_nil_iff.1 hne) ?_
      rintro _ hmem c hc
      obtain ⟨part, hpart, rfl⟩ := List.mem_map.1 hmem
      refine decide_eq_false ?_
      rintro rfl
      exact hparts part hpart hc
    rw [split, hpieces, List.map_map]
    simp

/-- **Three fields** are three texts without colons, with colons between them. -/
theorem split_eq_fields_iff {s first second third : String} :
    split (· = ':') s = [first, second, third] ↔
      s = first ++ ":" ++ second ++ ":" ++ third ∧
        ':' ∉ first.toList ∧ ':' ∉ second.toList ∧ ':' ∉ third.toList := by
  rw [split_eq_iff (List.cons_ne_nil _ _), ← String.toList_inj]
  refine and_congr ?_ (by simp)
  simp [List.intercalate]

end Fanout.Text
