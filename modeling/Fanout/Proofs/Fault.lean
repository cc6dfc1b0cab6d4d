import Fanout.Fault

/-!
# Computations that a fault can stop

A computation of several steps has a result only if each step has one.
-/

namespace Fanout.Fault

variable {α β σ : Type}

/-! ## Two steps -/

/-- A result of two steps comes from a result of the first. -/
theorem bind_ok {step : Except Fault α} {next : α → Except Fault β} {b : β}
    (h : step >>= next = .ok b) : ∃ a, step = .ok a ∧ next a = .ok b := by
  cases step with
  | error fault => cases h
  | ok a => exact ⟨a, rfl, h⟩

/-- A computation stops at a fault exactly when it has no result. -/
theorem isError_iff {result : Except Fault α} :
    (∃ fault, result = .error fault) ↔ ¬ ∃ a, result = .ok a := by
  cases result <;> simp

/-- A step with a total one behind it fails when it does alone. -/
theorem bind_pure_eq_error_iff {step : Except Fault α} {f : α → β} {fault : Fault} :
    (step >>= fun a => pure (f a)) = .error fault ↔ step = .error fault := by
  constructor
  · intro h
    cases step with
    | error fault' => exact congrArg _ (Except.error.inj h)
    | ok a => cases h
  · rintro rfl
    rfl

/-! ## A list of computations -/

/-- A list of computations has a result exactly when each of them has one. -/
theorem mapM_isOk_iff {f : α → Except Fault β} {as : List α} :
    (∃ bs, as.mapM f = .ok bs) ↔ ∀ a ∈ as, ∃ b, f a = .ok b := by
  induction as with
  | nil => exact iff_of_true ⟨[], rfl⟩ fun a ha => absurd ha List.not_mem_nil
  | cons a as ih =>
    rw [List.mapM_cons, List.forall_mem_cons, ← ih]
    constructor
    · rintro ⟨bs, h⟩
      obtain ⟨b, hb, hrest⟩ := bind_ok h
      obtain ⟨bs', hbs', -⟩ := bind_ok hrest
      exact ⟨⟨b, hb⟩, bs', hbs'⟩
    · rintro ⟨⟨b, hb⟩, bs, hbs⟩
      rw [hb, hbs]
      exact ⟨b :: bs, rfl⟩

/-- The results of a list of computations are those of each. -/
theorem mem_of_mapM {f : α → Except Fault β} {as : List α} {bs : List β}
    (h : as.mapM f = .ok bs) {b : β} : b ∈ bs ↔ ∃ a ∈ as, f a = .ok b := by
  induction as generalizing bs with
  | nil =>
    obtain rfl := Except.ok.inj h
    simp
  | cons a as ih =>
    rw [List.mapM_cons] at h
    obtain ⟨b', hb', hrest⟩ := bind_ok h
    obtain ⟨bs', hbs', hbs⟩ := bind_ok hrest
    obtain rfl := Except.ok.inj hbs
    rw [List.mem_cons, ih hbs', eq_comm (a := b)]
    simp only [List.mem_cons, exists_eq_or_imp, hb', Except.ok.injEq]

/-- What a result has of the item it comes from, the results have of the items. -/
theorem map_eq_of_mapM {γ : Type} {f : α → Except Fault β} {field : β → γ} {source : α → γ}
    (hfield : ∀ {a b}, f a = .ok b → field b = source a) {as : List α} {bs : List β}
    (h : as.mapM f = .ok bs) : bs.map field = as.map source := by
  induction as generalizing bs with
  | nil =>
    obtain rfl := Except.ok.inj h
    rfl
  | cons a as ih =>
    rw [List.mapM_cons] at h
    obtain ⟨b, hb, hrest⟩ := bind_ok h
    obtain ⟨bs', hbs', hbs⟩ := bind_ok hrest
    obtain rfl := Except.ok.inj hbs
    rw [List.map_cons, List.map_cons, hfield hb, ih hbs']

/-- **A list of computations stops at the first fault**: those before it have
results. -/
theorem mapM_eq_error_iff {f : α → Except Fault β} {as : List α} {fault : Fault} :
    as.mapM f = .error fault ↔ ∃ before a after, as = before ++ a :: after ∧
      (∀ a' ∈ before, ∃ b, f a' = .ok b) ∧ f a = .error fault := by
  induction as with
  | nil => exact iff_of_false (fun h => by cases h) fun ⟨before, a, after, h, _⟩ => by simp at h
  | cons first as ih =>
    rw [List.mapM_cons]
    cases hfirst : f first with
    | error fault' =>
      show (Except.error fault' : Except Fault (List β)) = .error fault ↔ _
      rw [Except.error.injEq]
      constructor
      · rintro rfl
        exact ⟨[], first, as, rfl, fun a' ha' => absurd ha' List.not_mem_nil, hfirst⟩
      · rintro ⟨_ | ⟨a', before⟩, a, after, hsplit, hbefore, ha⟩
        · obtain ⟨rfl, rfl⟩ := List.cons.inj hsplit
          exact Except.error.inj (hfirst.symm.trans ha)
        · -- the first computation would have a result
          obtain ⟨rfl, -⟩ := List.cons.inj hsplit
          obtain ⟨b, hb⟩ := hbefore first List.mem_cons_self
          rw [hfirst] at hb
          cases hb
    | ok b =>
      have hrest : (Except.ok b >>= fun b => as.mapM f >>= fun bs => pure (b :: bs)) =
          .error fault ↔ as.mapM f = .error fault := bind_pure_eq_error_iff
      rw [hrest, ih]
      constructor
      · rintro ⟨before, a, after, rfl, hbefore, ha⟩
        exact ⟨first :: before, a, after, rfl, List.forall_mem_cons.2 ⟨⟨b, hfirst⟩, hbefore⟩, ha⟩
      · rintro ⟨_ | ⟨a', before⟩, a, after, hsplit, hbefore, ha⟩
        · obtain ⟨rfl, -⟩ := List.cons.inj hsplit
          rw [hfirst] at ha
          cases ha
        · obtain ⟨rfl, rfl⟩ := List.cons.inj hsplit
          exact ⟨before, a, after, rfl, (List.forall_mem_cons.1 hbefore).2, ha⟩

/-! ## Passes -/

/-- What each step of a pass preserves, if it has a result, the pass does.  The
property may be about what is done already. -/
theorem foldlM_induction {step : σ → α → Except Fault σ} (P : List α → σ → Prop) {as : List α}
    {s s' : σ} (done : List α) (hs : P done s)
    (hstep : ∀ {done s s' a}, P done s → step s a = .ok s' → P (done ++ [a]) s')
    (h : as.foldlM step s = .ok s') : P (done ++ as) s' := by
  induction as generalizing done s with
  | nil =>
    obtain rfl := Except.ok.inj h
    rwa [List.append_nil]
  | cons a as ih =>
    rw [List.foldlM_cons] at h
    obtain ⟨s₁, hs₁, hrest⟩ := bind_ok h
    rw [List.append_cons]
    exact ih (done ++ [a]) (hstep hs hs₁) hrest

/-- **A pass that a fault stops** has a step that does not get on, in the state that the
steps before it lead to. -/
theorem foldlM_error {step : σ → α → Except Fault σ} {as : List α} {s : σ} {fault : Fault}
    (h : as.foldlM step s = .error fault) :
    ∃ done a rest s', as = done ++ a :: rest ∧ done.foldlM step s = .ok s' ∧
      step s' a = .error fault := by
  induction as generalizing s with
  | nil => cases h
  | cons first as ih =>
    rw [List.foldlM_cons] at h
    cases hfirst : step s first with
    | error fault' =>
      rw [hfirst] at h
      exact ⟨[], first, as, s, rfl, rfl, hfirst.trans h⟩
    | ok s₁ =>
      rw [hfirst] at h
      obtain ⟨done, a, rest, s', rfl, hdone, hstep⟩ := ih h
      refine ⟨first :: done, a, rest, s', rfl, ?_, hstep⟩
      rw [List.foldlM_cons, hfirst]
      exact hdone

/-- A pass has a result if each step has one, in every state with a property that the
step keeps. -/
theorem foldlM_isOk {step : σ → α → Except Fault σ} (P : σ → Prop) {as : List α} {s : σ}
    (hs : P s) (hstep : ∀ a ∈ as, ∀ s, P s → ∃ s', step s a = .ok s' ∧ P s') :
    ∃ s', as.foldlM step s = .ok s' ∧ P s' := by
  induction as generalizing s with
  | nil => exact ⟨s, rfl, hs⟩
  | cons a as ih =>
    obtain ⟨hfirst, hrest⟩ := List.forall_mem_cons.1 hstep
    obtain ⟨s₁, hok, hs₁⟩ := hfirst s hs
    rw [List.foldlM_cons, hok]
    exact ih hs₁ hrest

/-- **A pass has a result as long as a condition holds** of what it has read: one
that no further reading can repair, and that a step meets exactly when it has a
result.  The state need not say what was read; `P` ties the two together. -/
theorem foldlM_isOk_iff {step : σ → α → Except Fault σ} (P : List α → σ → Prop)
    (Q : List α → Prop)
    (hkeep : ∀ {done s s' a}, P done s → step s a = .ok s' → P (done ++ [a]) s')
    (hstep : ∀ {done s a}, P done s → Q done → ((∃ s', step s a = .ok s') ↔ Q (done ++ [a])))
    (hmono : ∀ {done rest}, Q (done ++ rest) → Q done) {as : List α} {s : σ} (done : List α)
    (hs : P done s) (hdone : Q done) :
    (∃ s', as.foldlM step s = .ok s') ↔ Q (done ++ as) := by
  induction as generalizing done s with
  | nil =>
    rw [List.append_nil]
    exact iff_of_true ⟨s, rfl⟩ hdone
  | cons a as ih =>
    rw [List.foldlM_cons, List.append_cons]
    cases hfirst : step s a with
    | ok s₁ =>
      exact ih (done ++ [a]) (hkeep hs hfirst) ((hstep hs hdone).1 ⟨s₁, hfirst⟩)
    | error fault =>
      refine iff_of_false (fun ⟨_, h⟩ => by cases h) fun hwhole => ?_
      obtain ⟨s₁, hok⟩ := (hstep hs hdone).2 (hmono hwhole)
      rw [hfirst] at hok
      cases hok

end Fanout.Fault
