import Fanout.Proofs.Properties.Reader

/-!
# Spelled texts

What the writer of a properties file puts out for a key or a value is a
*spelled* text: single characters that may stand bare, and backslashes each
followed by one more character.  How a line ends and where its key ends depends
on nothing else, so the facts about lines are proved for spelled texts, whichever
characters the writer chooses to escape.

## Main definitions

* `Properties.Spelled bare` — texts in which only `bare` characters stand
  without a backslash before them.
* `Properties.StandsBare` — the characters that `escape` leaves as they are.

## Main statements

* `unfinished?_of_spelled` — a spelled line does not go on on the next one.
* `cutKey_of_spelled` — a spelled key ends at the separator behind it.
* `spelled_escape` — what the writer puts out for a character is spelled.
-/

namespace Fanout.Properties

/-! ## Spelled texts -/

/-- **Spelled text.**  Every character is `bare` or stands behind a backslash
that no other one escapes; no backslash stands before a line feed. -/
inductive Spelled (bare : Char → Prop) : List Char → Prop where
  | nil : Spelled bare []
  | bare {c : Char} {l : List Char} (hc : bare c) (hl : Spelled bare l) : Spelled bare (c :: l)
  | escaped {d : Char} {l : List Char} (hd : d ≠ '\n') (hl : Spelled bare l) :
      Spelled bare ('\\' :: d :: l)

namespace Spelled

variable {p q : Char → Prop} {l m : List Char}

theorem append (hl : Spelled p l) (hm : Spelled p m) : Spelled p (l ++ m) := by
  induction hl with
  | nil => exact hm
  | bare hc _ ih => exact .bare hc ih
  | escaped hd _ ih => exact .escaped hd ih

theorem mono (h : ∀ c, p c → q c) (hl : Spelled p l) : Spelled q l := by
  induction hl with
  | nil => exact .nil
  | bare hc _ ih => exact .bare (h _ hc) ih
  | escaped hd _ ih => exact .escaped hd ih

theorem flatMap {α : Type} {f : α → List Char} (h : ∀ a, Spelled p (f a)) (as : List α) :
    Spelled p (as.flatMap f) := by
  induction as with
  | nil => exact .nil
  | cons a as ih => rw [List.flatMap_cons]; exact (h a).append ih

/-- All characters are bare. -/
theorem of_forall (h : ∀ c ∈ l, p c) : Spelled p l := by
  induction l with
  | nil => exact .nil
  | cons c l ih =>
    exact .bare (h c List.mem_cons_self) (ih fun d hd => h d (List.mem_cons_of_mem _ hd))

/-- A spelled text begins with a backslash or a bare character. -/
theorem head (hl : Spelled p l) : ∀ c ∈ l.head?, c = '\\' ∨ p c := by
  cases hl with
  | nil => simp
  | bare hc _ => simp [hc]
  | escaped _ _ => simp

/-- A spelled text has no line feed, if none may stand bare. -/
theorem newline_notMem (hp : ¬ p '\n') (hl : Spelled p l) : '\n' ∉ l := by
  induction hl with
  | nil => exact List.not_mem_nil
  | bare hc _ ih =>
    intro hm
    rcases List.mem_cons.1 hm with rfl | hm
    · exact hp hc
    · exact ih hm
  | escaped hd _ ih =>
    intro hm
    rcases List.mem_cons.1 hm with hm | hm
    · exact absurd hm (by decide)
    rcases List.mem_cons.1 hm with rfl | hm
    · exact hd rfl
    · exact ih hm

end Spelled

/-- **A spelled line does not go on on the next one.** -/
theorem unfinished?_of_spelled {p : Char → Prop} (hp : ¬ p '\\') {l : List Char}
    (hl : Spelled p l) : unfinished? l = none := by
  induction hl with
  | nil => rfl
  | @bare c l hc _ ih =>
    have hne : c ≠ '\\' := by rintro rfl; exact hp hc
    rw [unfinished?.eq_def]
    simp [hne, ih]
  | escaped _ _ ih =>
    rw [unfinished?.eq_def]
    simp [ih]

/-- **A spelled key ends at the separator behind it**, if no character that ends
a key may stand bare in it. -/
theorem cutKey_of_spelled {p : Char → Prop} (hp : ¬ p '\\')
    (hend : ∀ c, p c → endsKey c = false) {key : List Char} (hkey : Spelled p key)
    (rest : List Char) : cutKey (key ++ '=' :: rest) = (key, '=' :: rest) := by
  induction hkey with
  | nil => rw [List.nil_append, cutKey.eq_def]; simp [endsKey]
  | @bare c l hc _ ih =>
    have hne : c ≠ '\\' := by rintro rfl; exact hp hc
    rw [List.cons_append, cutKey.eq_def]
    simp [hne, hend c hc, ih]
  | escaped _ _ ih =>
    rw [List.cons_append, List.cons_append, cutKey.eq_def]
    simp [ih]

/-! ## Escapes are spelled -/

/-- **Characters that stand bare**: printable ASCII but the backslash, the
separators and the comment signs, and but the space where it has a meaning. -/
def StandsBare (spaceMeans : Bool) (c : Char) : Prop :=
  isPrintable c = true ∧ c ≠ '\\' ∧ c ≠ '=' ∧ c ≠ ':' ∧ c ≠ '#' ∧ c ≠ '!' ∧
    (spaceMeans = true → c ≠ ' ')

theorem hexDigit_standsBare : ∀ n < 16, StandsBare true (hexDigit n) := by
  unfold StandsBare
  decide

theorem hex4_standsBare (n : Nat) : ∀ c ∈ hex4 n, StandsBare true c := by
  intro c hc
  simp only [hex4, List.mem_cons, List.not_mem_nil, or_false] at hc
  rcases hc with rfl | rfl | rfl | rfl <;> exact hexDigit_standsBare _ (Nat.mod_lt _ (by decide))

theorem StandsBare.weaken {c : Char} (h : StandsBare true c) (b : Bool) : StandsBare b c := by
  obtain ⟨h₁, h₂, h₃, h₄, h₅, h₆, h₇⟩ := h
  exact ⟨h₁, h₂, h₃, h₄, h₅, h₆, fun _ => h₇ rfl⟩

theorem not_standsBare_backslash (b : Bool) : ¬ StandsBare b '\\' := fun h => h.2.1 rfl

/-- The written form of a character is spelled. -/
theorem spelled_escape (b : Bool) (c : Char) : Spelled (StandsBare b) (escape b c) := by
  unfold escape
  split
  · split
    · exact .escaped (by decide) .nil
    · refine .bare ?_ .nil
      exact ⟨by decide, by decide, by decide, by decide, by decide, by decide, by simp_all⟩
  all_goals try exact .escaped (by decide) .nil
  rename_i hspace hback htab hfeed hreturn hform heq hcolon hsharp hbang
  split
  · rename_i hprint
    exact .bare ⟨hprint, hback, heq, hcolon, hsharp, hbang, fun _ => hspace⟩ .nil
  · refine Spelled.flatMap (fun unit => .escaped (by decide) ?_) _
    exact Spelled.of_forall fun d hd => (hex4_standsBare unit d hd).weaken b

theorem spelled_escapeKey (key : List Char) : Spelled (StandsBare true) (escapeKey key) :=
  Spelled.flatMap (spelled_escape true) key

theorem spelled_escapeValue (value : List Char) :
    Spelled (StandsBare false) (escapeValue value) := by
  cases value with
  | nil => exact .nil
  | cons c rest =>
    have hhead := (spelled_escape true c).mono fun d hd => hd.weaken false
    exact hhead.append (Spelled.flatMap (spelled_escape false) rest)

end Fanout.Properties
