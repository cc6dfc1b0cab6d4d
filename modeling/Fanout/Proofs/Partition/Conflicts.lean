import Fanout.Proofs.Partition.Membership

/-!
# Conflicts about singleton roles

Only one capability may fill a singleton role.  When several claim it, either the
first of them has it, or the run has no partition.  This is the one thing for
which the order of the capabilities counts: without rivals, a run and all its
rearrangements have one partition.

## Main statements

* `Partition.compute_isOk_iff` — a run has a partition unless claimants are
  rejected and a role has more than one.
* `Partition.eq_of_firsts` — a partition is settled by the members of a run, its
  gates, and the first claimants.
* `Partition.compute_perm` — what becomes of a run that is rearranged.
-/

namespace Fanout.Partition

variable {ε : Type} {cs cs' ds : List (Capability ε)} {selection : Selection}
  {policy policy' : SingletonPolicy} {p p' : Partition ε} {c : Capability ε}

/-! ## Filling the roles -/

theorem offer_isOk_iff {role : SingletonRole} {holder? : Option (Capability ε)} :
    (∃ holder?', offer policy role holder? c = .ok holder?') ↔
      (policy = .reject → ∀ holder, holder? = some holder → holder.name = c.name) := by
  unfold offer
  cases holder? with
  | none => simp
  | some holder =>
    by_cases hname : holder.name = c.name
    · simp [hname]
    · cases policy <;> simp [hname]

theorem fill_isOk_iff {holders : SingletonRole → Option (Capability ε)} {role : SingletonRole} :
    (∃ holders', fill policy c holders role = .ok holders') ↔
      (policy = .reject → claims role c = true →
        ∀ holder, holders role = some holder → holder.name = c.name) := by
  unfold fill
  split
  next hclaims =>
    simp only [hclaims, forall_const]
    rw [← offer_isOk_iff]
    constructor
    · rintro ⟨holders', h⟩
      obtain ⟨holder?, hoffer, -⟩ := Fault.bind_ok h
      exact ⟨holder?, hoffer⟩
    · rintro ⟨holder?, hoffer⟩
      rw [hoffer]
      exact ⟨_, rfl⟩
  next hclaims => simp [hclaims]

/-- A capability is offered for several roles without a conflict, if nobody else
holds one that it claims. -/
theorem foldlM_fill_isOk_iff {roles : List SingletonRole}
    {holders : SingletonRole → Option (Capability ε)} :
    (∃ holders', roles.foldlM (fill policy c) holders = .ok holders') ↔
      (policy = .reject → ∀ role ∈ roles, claims role c = true →
        ∀ holder, holders role = some holder → holder.name = c.name) := by
  induction roles generalizing holders with
  | nil => exact iff_of_true ⟨holders, rfl⟩ fun _ role hrole => absurd hrole List.not_mem_nil
  | cons first roles ih =>
    rw [List.foldlM_cons]
    constructor
    · rintro ⟨holders', h⟩ hreject role hrole hclaims holder hholder
      obtain ⟨holders₁, hfirst, hrest⟩ := Fault.bind_ok h
      rcases List.mem_cons.1 hrole with rfl | hrole
      · exact fill_isOk_iff.1 ⟨holders₁, hfirst⟩ hreject hclaims holder hholder
      · refine ih.1 ⟨holders', hrest⟩ hreject role hrole hclaims holder ?_
        -- whoever held a role before the first offer still does
        rw [fill_ok hfirst role, hholder]
        split <;> rfl
    · intro h
      have hone : ∃ holders₁, fill policy c holders first = .ok holders₁ :=
        fill_isOk_iff.2 fun hreject => h hreject first List.mem_cons_self
      obtain ⟨holders₁, hfirst⟩ := hone
      rw [hfirst]
      refine ih.2 fun hreject role hrole hclaims holder hholder => ?_
      rw [fill_ok hfirst role] at hholder
      split at hholder
      · rcases Option.or_eq_some_iff.1 hholder with hholder | ⟨-, hself⟩
        · exact h hreject role (List.mem_cons_of_mem _ hrole) hclaims holder hholder
        · rw [Option.some.inj hself]
      · exact h hreject role (List.mem_cons_of_mem _ hrole) hclaims holder hholder

/-! ## The claimants of a longer run -/

/-- One more neutral capability that its gate admits claims the roles it has. -/
theorem claimants_append_of_admitted (hgate : isGatedOut cs c = false)
    (hneutral : c.isNeutral = true) (role : SingletonRole) :
    claimants cs (ds ++ [c]) role =
      claimants cs ds role ++ if claims role c = true then [c] else [] := by
  cases hclaims : claims role c <;> simp [claimants, neutrals, hgate, hneutral, hclaims]

/-- Any other capability claims nothing. -/
theorem claimants_append_of_not (hnot : ¬ (c.isNeutral = true ∧ isGatedOut cs c = false))
    (role : SingletonRole) : claimants cs (ds ++ [c]) role = claimants cs ds role := by
  unfold claimants neutrals
  rw [List.filter_append, List.filter_cons_of_neg, List.filter_nil, List.append_nil]
  simpa using hnot

/-- Reading on takes no first capability away. -/
theorem firsts_isPrefix_append (cs ds : List (Capability ε)) : firsts cs <+: firsts (cs ++ ds) := by
  have run : ∀ fs : List (Capability ε), fs <+: ds.foldl addFirst fs := by
    induction ds with
    | nil => exact fun fs => List.prefix_refl fs
    | cons d ds ih =>
      intro fs
      refine List.IsPrefix.trans ?_ (ih (addFirst fs d))
      unfold addFirst
      split
      · exact List.prefix_refl fs
      · exact List.prefix_append fs [d]
  rw [firsts, firsts, List.foldl_append]
  exact run _

/-- Capabilities of different names are all first of their names. -/
theorem firsts_eq_self (hnames : cs.Pairwise fun c d => c.name ≠ d.name) : firsts cs = cs := by
  have run : ∀ fs : List (Capability ε), ((fs ++ cs).Pairwise fun c d => c.name ≠ d.name) →
      cs.foldl addFirst fs = fs ++ cs := by
    clear hnames
    induction cs with
    | nil => simp
    | cons c cs ih =>
      intro fs h
      have hnew : ¬ (fs.any fun d => d.name == c.name) = true := by
        intro hseen
        obtain ⟨d, hd, hname⟩ := List.any_eq_true.1 hseen
        exact (List.pairwise_append.1 h).2.2 d hd c List.mem_cons_self (eq_of_beq hname)
      rw [List.foldl_cons, addFirst, if_neg hnew, ih (fs ++ [c]), List.append_assoc]
      · rfl
      · rwa [List.append_assoc]
  exact run [] hnames

/-! ## When there is a partition -/

namespace Gathered

variable {s : Gathered ε}

theorem takeNeutral_isOk_iff : (∃ s', s.takeNeutral selection policy c = .ok s') ↔
    (policy = .reject → ∀ role, claims role c = true →
      ∀ holder, s.holder? role = some holder → holder.name = c.name) := by
  have hfill : (∃ s', s.takeNeutral selection policy c = .ok s') ↔
      ∃ holders, singletonRoles.foldlM (fill policy c) s.holder? = .ok holders := by
    unfold Gathered.takeNeutral
    constructor
    · rintro ⟨s', hok⟩
      obtain ⟨holders, hholders, -⟩ := Fault.bind_ok hok
      exact ⟨holders, hholders⟩
    · rintro ⟨holders, hholders⟩
      rw [hholders]
      exact ⟨_, rfl⟩
  rw [hfill, foldlM_fill_isOk_iff]
  exact imp_congr_right fun _ => forall_congr' fun role => by simp [mem_singletonRoles role]

theorem takeNew_isOk_iff : (∃ s', s.takeNew cs selection policy c = .ok s') ↔
    (c.isNeutral = true ∧ isGatedOut cs c = false → policy = .reject →
      ∀ role, claims role c = true →
        ∀ holder, s.holder? role = some holder → holder.name = c.name) := by
  unfold takeNew
  cases hgate : isGatedOut cs c with
  | true =>
    rw [if_pos rfl]
    exact iff_of_true ⟨_, rfl⟩ fun ⟨_, h⟩ => by cases h
  | false =>
    rw [if_neg Bool.false_ne_true]
    cases hneutral : c.isNeutral with
    | true =>
      rw [if_pos rfl, takeNeutral_isOk_iff]
      simp
    | false =>
      rw [if_neg Bool.false_ne_true]
      refine iff_of_true ?_ fun ⟨h, _⟩ => by cases h
      cases c.target? with
      | none => exact ⟨_, rfl⟩
      | some t => exact ⟨_, rfl⟩

/-- **One step of the pass** has a result when it leaves every role that it may not
give twice to one claimant. -/
theorem Covers.take_isOk_iff (h : Covers cs selection ds s)
    (hone : policy = .reject → ∀ role, (claimants cs ds role).length ≤ 1) :
    (∃ s', s.take cs selection policy c = .ok s') ↔
      (policy = .reject → ∀ role, (claimants cs (addFirst ds c) role).length ≤ 1) := by
  unfold Gathered.take addFirst
  rw [h.all, FeatureSet.contains_eq, FeatureSet.find?_ofList, List.isSome_find?]
  split
  next hseen => exact iff_of_true ⟨s, rfl⟩ hone
  next hnew =>
    rw [takeNew_isOk_iff]
    by_cases hadmitted : c.isNeutral = true ∧ isGatedOut cs c = false
    · rw [forall_prop_of_true hadmitted]
      refine forall_congr' fun hreject => forall_congr' fun role => ?_
      rw [h.holder role, claimants_append_of_admitted hadmitted.2 hadmitted.1]
      have hone := hone hreject role
      cases hclaims : claims role c with
      | false => simpa using hone
      | true =>
        cases hbefore : claimants cs ds role with
        | nil => simp
        | cons d rest =>
          -- a claimant before `c` has another name, so there may be none
          have hd : d ∈ ds := by
            have hmem : d ∈ claimants cs ds role := hbefore ▸ List.mem_cons_self
            exact (List.mem_filter.1 (List.mem_filter.1 hmem).1).1
          have hname : ¬ d.name = c.name := fun hname =>
            hnew (List.any_eq_true.2 ⟨d, hd, beq_iff_eq.2 hname⟩)
          simp [hname]
    · rw [forall_prop_of_false hadmitted, iff_true_left trivial]
      intro hreject role
      rw [claimants_append_of_not hadmitted]
      exact hone hreject role

end Gathered

/-- Reading on takes no claimant away, and puts none in front. -/
theorem claimants_isPrefix_append (cs ds es : List (Capability ε)) (role : SingletonRole) :
    claimants cs (firsts ds) role <+: claimants cs (firsts (ds ++ es)) role :=
  ((firsts_isPrefix_append ds es).filter _).filter _

/-- **How far the pass gets**: through any capabilities, unless claimants are rejected;
then as long as no singleton role has more than one. -/
theorem pass_isOk_iff : (∃ s, ds.foldlM (Gathered.take cs selection policy) {} = .ok s) ↔
    (policy = .reject → ∀ role, (claimants cs (firsts ds) role).length ≤ 1) := by
  refine Fault.foldlM_isOk_iff (fun done s => Gathered.Covers cs selection (firsts done) s)
    (fun done => policy = .reject → ∀ role, (claimants cs (firsts done) role).length ≤ 1)
    (fun {done s s' c} hs hok => ?_) (fun {done s c} hs hone => ?_) (fun {done rest} h => ?_)
    [] (Gathered.covers_nil cs selection) (fun _ _ => Nat.zero_le 1)
  · rw [firsts, List.foldl_append]
    exact hs.take hok
  · rw [firsts, List.foldl_append]
    exact hs.take_isOk_iff hone
  · intro hreject role
    exact Nat.le_trans (claimants_isPrefix_append cs done rest role).length_le (h hreject role)

/-- **When a run has a partition**: always, unless claimants are rejected; then if
no singleton role has more than one. -/
theorem compute_isOk_iff : (∃ p, compute cs selection policy = .ok p) ↔
    (policy = .reject → ∀ role, (claimants cs (firsts cs) role).length ≤ 1) := by
  rw [← pass_isOk_iff]
  constructor
  · rintro ⟨p, hok⟩
    obtain ⟨s, hs, -⟩ := Fault.bind_ok hok
    exact ⟨s, hs⟩
  · rintro ⟨s, hs⟩
    unfold compute
    rw [hs]
    exact ⟨_, rfl⟩

/-! ## Rearranged runs -/

/-- **What settles a partition**: the first capabilities of their names, which of
them are gated out, and who is the first to claim each role. -/
theorem eq_of_firsts (h : compute cs selection policy = .ok p)
    (h' : compute cs' selection policy' = .ok p')
    (hfirst : ∀ c, c ∈ firsts cs ↔ c ∈ firsts cs') (hgate : ∀ c, GatedOut cs c ↔ GatedOut cs' c)
    (hhead : ∀ role, (claimants cs (firsts cs) role).head? =
      (claimants cs' (firsts cs') role).head?) : p = p' := by
  have hown : ∀ t c, c ∈ own cs selection t (firsts cs) ↔ c ∈ own cs' selection t (firsts cs') := by
    intro t c
    rw [mem_own, mem_own, hfirst, hgate]
  have hcommon : ∀ c, c ∈ common cs selection (firsts cs) ↔
      c ∈ common cs' selection (firsts cs') := by
    intro c
    simp only [mem_common, mem_neutrals, hfirst, hgate, hhead]
  have hall : p.all = p'.all := FeatureSet.ext_mem fun c => by rw [mem_all h, mem_all h', hfirst]
  have hshared : p.shared = p'.shared :=
    FeatureSet.ext_mem fun c => by rw [mem_shared h, mem_shared h', hall, hgate]
  have hactive : ∀ t, t ∈ p.concreteTargets ↔ t ∈ p'.concreteTargets := by
    intro t
    rw [mem_concreteTargets h, mem_concreteTargets h']
    exact exists_congr (hown t)
  have hbyTarget : p.byTarget = p'.byTarget := SortedMap.ext_find? fun t => by
    have hactive : t ∈ p.byTarget.keys ↔ t ∈ p'.byTarget.keys := hactive t
    rw [SortedMap.mem_keys_iff, SortedMap.mem_keys_iff] at hactive
    cases hset : p.byTarget.find? t with
    | none =>
      cases hset' : p'.byTarget.find? t with
      | none => rfl
      | some set' =>
        obtain ⟨set, hsome⟩ := hactive.2 ⟨set', hset'⟩
        rw [hset] at hsome
        cases hsome
    | some set =>
      obtain ⟨set', hset'⟩ := hactive.1 ⟨set, hset⟩
      rw [hset']
      refine congrArg some (FeatureSet.ext_mem fun c => ?_)
      rw [mem_targetSet h hset, mem_targetSet h' hset', hown, hcommon]
  obtain ⟨all, byTarget, shared⟩ := p
  obtain ⟨all', byTarget', shared'⟩ := p'
  rw [Partition.mk.injEq]
  exact ⟨hall, hbyTarget, hshared⟩

theorem isGatedOut_of_perm (hperm : cs.Perm cs') : isGatedOut cs = isGatedOut cs' := by
  funext c
  unfold isGatedOut isDeclared
  cases c.gate? with
  | none => rfl
  | some gate => exact congrArg not hperm.any_eq

theorem claimants_perm (hperm : cs.Perm cs') (role : SingletonRole) :
    (claimants cs cs role).Perm (claimants cs' cs' role) := by
  unfold claimants neutrals
  rw [isGatedOut_of_perm hperm]
  exact (hperm.filter _).filter _

/-- A list with one member at most is not changed by rearranging it. -/
theorem eq_of_perm_of_length_le_one {α : Type} {l l' : List α} (hperm : l.Perm l')
    (hone : l.length ≤ 1) : l = l' := by
  match l, hone with
  | [], _ => exact hperm.nil_eq
  | [a], _ => exact List.singleton_perm.1 hperm

/-- When the names in a run are different, who claims a role is read off it. -/
theorem compute_isOk_iff_of_names (hnames : cs.Pairwise fun c d => c.name ≠ d.name) :
    (∃ p, compute cs selection policy = .ok p) ↔
      (policy = .reject → ∀ role, (claimants cs cs role).length ≤ 1) := by
  rw [compute_isOk_iff, firsts_eq_self hnames]

/-- Rearranged runs without rivals have one partition. -/
theorem eq_of_perm (hnames : cs.Pairwise fun c d => c.name ≠ d.name) (hperm : cs.Perm cs')
    (hone : ∀ role, (claimants cs cs role).length ≤ 1)
    (h : compute cs selection policy = .ok p) (h' : compute cs' selection policy' = .ok p') :
    p = p' := by
  have hfirsts : firsts cs = cs := firsts_eq_self hnames
  have hfirsts' : firsts cs' = cs' := firsts_eq_self (hperm.pairwise hnames fun h => h.symm)
  refine eq_of_firsts h h' (fun c => ?_) (fun c => ?_) (fun role => ?_)
  · rw [hfirsts, hfirsts', hperm.mem_iff]
  · rw [← isGatedOut_iff, ← isGatedOut_iff, isGatedOut_of_perm hperm]
  · have hsame : claimants cs cs role = claimants cs' cs' role :=
      eq_of_perm_of_length_le_one (claimants_perm hperm role) (hone role)
    rw [hfirsts, hfirsts', hsame]

/-- **Rearranged runs.**  If the names in a run are different and no singleton role
has more than one claimant, all its rearrangements have one partition, whether
claimants are rejected or not.  If a role has more, none of them has a partition
when claimants are rejected. -/
theorem compute_perm (hnames : cs.Pairwise fun c d => c.name ≠ d.name) (hperm : cs.Perm cs')
    (selection : Selection) :
    ((∀ role, (claimants cs cs role).length ≤ 1) → ∃ p, ∀ policy,
      compute cs selection policy = .ok p ∧ compute cs' selection policy = .ok p) ∧
    (¬ (∀ role, (claimants cs cs role).length ≤ 1) →
      (∃ fault, compute cs selection .reject = .error fault) ∧
      ∃ fault, compute cs' selection .reject = .error fault) := by
  have hnames' : cs'.Pairwise fun c d => c.name ≠ d.name :=
    hperm.pairwise hnames fun h => h.symm
  have hrivals : (∀ role, (claimants cs' cs' role).length ≤ 1) ↔
      ∀ role, (claimants cs cs role).length ≤ 1 :=
    forall_congr' fun role => by rw [(claimants_perm hperm role).length_eq]
  constructor
  · intro hone
    have hok : ∀ policy, ∃ p, compute cs selection policy = .ok p := fun _ =>
      (compute_isOk_iff_of_names hnames).2 fun _ => hone
    have hok' : ∀ policy, ∃ p, compute cs' selection policy = .ok p := fun _ =>
      (compute_isOk_iff_of_names hnames').2 fun _ => hrivals.2 hone
    obtain ⟨p, hp⟩ := hok .keepFirst
    refine ⟨p, fun policy => ?_⟩
    obtain ⟨q, hq⟩ := hok policy
    obtain ⟨q', hq'⟩ := hok' policy
    rw [hq, hq', eq_of_perm hnames (.refl cs) hone hp hq, eq_of_perm hnames hperm hone hq hq']
    exact ⟨rfl, rfl⟩
  · intro hmany
    rw [Fault.isError_iff, Fault.isError_iff, compute_isOk_iff_of_names hnames,
      compute_isOk_iff_of_names hnames', hrivals]
    exact ⟨fun hone => hmany (hone rfl), fun hone => hmany (hone rfl)⟩

/-- A neutral capability that gives the application another identity. -/
def market : Capability Unit :=
  { name := "market", roles := { application := true }, effect := () }

/-- With `metrics` in the run, the gate of `shop` is open.  Alone it has no rival;
together with `market` it is in no partition, in whatever order they come. -/
theorem compute_perm_shop_market :
    (∃ p, ∀ policy, compute [shop, metrics] .empty policy = .ok p ∧
      compute [metrics, shop] .empty policy = .ok p) ∧
    (∃ fault, compute [shop, metrics, market] .empty .reject = .error fault) ∧
    ∃ fault, compute [market, metrics, shop] .empty .reject = .error fault := by
  have hnames : [shop, metrics, market].Pairwise fun c d => c.name ≠ d.name := by
    simp [shop, metrics, market]
  have hpair : [shop, metrics].Pairwise fun c d => c.name ≠ d.name := by simp [shop, metrics]
  have hreversed : [shop, metrics, market].Perm [market, metrics, shop] :=
    List.reverse_perm [market, metrics, shop]
  refine ⟨(compute_perm hpair (List.Perm.swap metrics shop []) .empty).1 ?_,
    (compute_perm hnames hreversed .empty).2 ?_⟩
  · intro role
    cases role <;> decide
  · intro hone
    exact absurd (hone .application) (by decide)

end Fanout.Partition
