import Fanout.Proofs.Partition.Conflicts

/-!
# The conflict that is reported

When claimants are rejected, a run is refused for the first conflict that the pass
meets.  Which one this is can be read off the run: a capability conflicts about a role
if it claims the role and the first claimant in the run has another name, and the
capability that is named in the report is the first in the run that conflicts about
any role.  If it conflicts about both, the report is about the application.

## Main definitions

* `Partition.Conflict` — a capability claims a role that another one claimed first.

## Main statements

* `Partition.Gathered.Covers.take_error` — why one step of the pass does not get on.
* `Partition.compute_refused` — which runs are refused, and what is reported.
-/

namespace Fanout.Partition

variable {ε : Type} {cs ds done rest : List (Capability ε)} {selection : Selection}
  {policy : SingletonPolicy} {c d holder : Capability ε} {role : SingletonRole} {fault : Fault}

/-- **Conflict about a role**: `holder` is the first in the run to claim it, and a
capability of another name claims it too. -/
structure Conflict (cs : List (Capability ε)) (role : SingletonRole) (holder c : Capability ε) :
    Prop where
  first : (claimants cs (firsts cs) role).head? = some holder
  claims : c ∈ claimants cs (firsts cs) role
  ne : holder.name ≠ c.name

/-! ## Offers that are refused -/

theorem offer_error {holder? : Option (Capability ε)}
    (h : offer policy role holder? c = .error fault) :
    policy = .reject ∧ ∃ holder, holder? = some holder ∧ holder.name ≠ c.name ∧
      fault = .conflictingRole role holder.name c.name := by
  unfold offer at h
  split at h
  · cases h
  next holder =>
    split at h
    · cases h
    next hname =>
      split at h
      · cases h
      · exact ⟨rfl, holder, rfl, hname, (Except.error.inj h).symm⟩

theorem fill_error {holders : SingletonRole → Option (Capability ε)}
    (h : fill policy c holders role = .error fault) :
    claims role c = true ∧ offer policy role (holders role) c = .error fault := by
  unfold fill at h
  split at h
  next hclaims => exact ⟨hclaims, Fault.bind_pure_eq_error_iff.1 h⟩
  · cases h

/-- The application is offered before all other roles, and no role twice. -/
theorem offered_before {before after : List SingletonRole}
    (h : singletonRoles = before ++ role :: after) :
    role ∉ before ∧ (role ≠ .application → .application ∈ before) := by
  match before, h with
  | [], h =>
    obtain ⟨rfl, -⟩ := List.cons.inj h
    exact ⟨List.not_mem_nil, fun hne => absurd rfl hne⟩
  | [.application], h =>
    obtain ⟨-, h⟩ := List.cons.inj h
    obtain ⟨rfl, -⟩ := List.cons.inj h
    exact ⟨by decide, fun _ => List.mem_cons_self⟩
  | [.databaseDriver], h => cases (List.cons.inj h).1
  | _ :: _ :: before, h =>
    have hlength := congrArg List.length h
    simp [singletonRoles] at hlength

/-- A capability is refused a role that another one holds; the application, if another
one holds it. -/
theorem foldlM_fill_error {holders : SingletonRole → Option (Capability ε)}
    (h : singletonRoles.foldlM (fill policy c) holders = .error fault) :
    policy = .reject ∧ ∃ role holder, claims role c = true ∧ holders role = some holder ∧
      holder.name ≠ c.name ∧ fault = .conflictingRole role holder.name c.name ∧
      (role ≠ .application → claims .application c = true →
        ∀ other, holders .application = some other → other.name = c.name) := by
  obtain ⟨before, role, after, holders', hroles, hbefore, hrole⟩ := Fault.foldlM_error h
  obtain ⟨hnew, happlication⟩ := offered_before hroles
  obtain ⟨hclaims, hoffer⟩ := fill_error hrole
  obtain ⟨hreject, holder, hholder, hname, hfault⟩ := offer_error hoffer
  rw [foldlM_fill_ok hbefore role, if_neg fun hagain => hnew hagain.1] at hholder
  refine ⟨hreject, role, holder, hclaims, hholder, hname, hfault, fun hother hclaims' => ?_⟩
  exact foldlM_fill_isOk_iff.1 ⟨holders', hbefore⟩ hreject .application (happlication hother)
    hclaims'

/-! ## The step that does not get on -/

namespace Gathered

variable {s : Gathered ε}

/-- **Why a step of the pass does not get on**: the capability is admitted and the first
of its name, and claims a role that was claimed before. -/
theorem Covers.take_error (h : Covers cs selection ds s)
    (herror : s.take cs selection policy c = .error fault) :
    policy = .reject ∧ addFirst ds c = ds ++ [c] ∧ c.isNeutral = true ∧
      isGatedOut cs c = false ∧
      ∃ role holder, claims role c = true ∧ (claimants cs ds role).head? = some holder ∧
        holder.name ≠ c.name ∧ fault = .conflictingRole role holder.name c.name ∧
        (role ≠ .application → claims .application c = true →
          claimants cs ds .application = []) := by
  unfold Gathered.take at herror
  rw [h.all, FeatureSet.contains_eq, FeatureSet.find?_ofList, List.isSome_find?] at herror
  split at herror
  · cases herror
  next hnew =>
    unfold takeNew at herror
    split at herror
    · cases herror
    next hgate =>
      split at herror
      next hneutral =>
        have hoffers := Fault.bind_pure_eq_error_iff.1 herror
        obtain ⟨hreject, role, holder, hclaims, hholder, hname, hfault, happlication⟩ :=
          foldlM_fill_error hoffers
        refine ⟨hreject, if_neg hnew, hneutral, by simpa using hgate, role, holder, hclaims, ?_,
          hname, hfault, fun hother hclaims' => ?_⟩
        · rw [← h.holder role]
          exact hholder
        · -- nobody before `c` has its name
          refine List.head?_eq_none_iff.1 ?_
          refine Option.eq_none_iff_forall_ne_some.2 fun other hhead => ?_
          have hsame := happlication hother hclaims' other ((h.holder .application).trans hhead)
          have hmem : other ∈ ds :=
            (List.mem_filter.1 (List.mem_filter.1 (List.mem_of_head? hhead)).1).1
          exact hnew (List.any_eq_true.2 ⟨other, hmem, beq_iff_eq.2 hsame⟩)
      next =>
        split at herror
        · cases herror
        · cases herror

end Gathered

/-! ## The conflict in the run -/

/-- Claimants of a role have different names. -/
theorem claimants_names_ne (cs ds : List (Capability ε)) (role : SingletonRole) :
    (claimants cs (firsts ds) role).Pairwise fun c d => c.name ≠ d.name :=
  ((nodup_names_firsts ds).filter _).filter _

/-- A list with one member at most has no other than the one it has. -/
theorem eq_singleton_of_mem {α : Type} {l : List α} {a : α} (hone : l.length ≤ 1) (h : a ∈ l) :
    l = [a] := by
  match l, hone with
  | [b], _ => rw [List.mem_singleton.1 h]

/-- Two members of a list with more than one are related as its members are. -/
theorem exists_of_pairwise {α : Type} {R : α → α → Prop} {l : List α} (h : l.Pairwise R)
    (hmany : ¬ l.length ≤ 1) : ∃ a ∈ l, ∃ b ∈ l, R a b := by
  match l, hmany with
  | [], hmany => exact absurd (Nat.zero_le 1) hmany
  | [_], hmany => exact absurd (Nat.le_refl 1) hmany
  | a :: b :: rest, _ =>
    have hab := (List.pairwise_cons.1 h).1 b List.mem_cons_self
    exact ⟨a, List.mem_cons_self, b, List.mem_cons_of_mem _ List.mem_cons_self, hab⟩

/-- A role has more than one claimant exactly if two of different names claim it. -/
theorem not_length_claimants_le_one_iff :
    ¬ (claimants cs (firsts cs) role).length ≤ 1 ↔
      ∃ c ∈ claimants cs (firsts cs) role, ∃ d ∈ claimants cs (firsts cs) role,
        c.name ≠ d.name := by
  constructor
  · exact exists_of_pairwise (claimants_names_ne cs cs role)
  · rintro ⟨c, hc, d, hd, hne⟩ hone
    rw [eq_singleton_of_mem hone hc, List.mem_singleton] at hd
    exact hne (congrArg Capability.name hd.symm)

/-- A capability among those read is first of its name among them, if it is in the
whole run. -/
theorem mem_firsts_of_mem (hmem : d ∈ done) (hfirst : d ∈ firsts (done ++ rest)) :
    d ∈ firsts done := by
  rw [mem_firsts, List.find?_append] at hfirst
  rw [mem_firsts]
  cases hfind : done.find? fun e => e.name == d.name with
  | none => exact absurd (beq_self_eq_true d.name) (List.find?_eq_none.1 hfind d hmem)
  | some e => rwa [hfind] at hfirst

/-- While no role has two claimants among the capabilities read, none of these
conflicts. -/
theorem not_conflict_of_mem (hcs : cs = done ++ rest)
    (hone : (claimants cs (firsts done) role).length ≤ 1) (hmem : d ∈ done) :
    ¬ Conflict cs role holder d := by
  rintro ⟨hhead, hclaims, hne⟩
  have hread : claimants cs (firsts done) role <+: claimants cs (firsts cs) role := by
    have hprefix := claimants_isPrefix_append cs done rest role
    rwa [← hcs] at hprefix
  obtain ⟨hadmitted, hclaim⟩ := List.mem_filter.1 hclaims
  obtain ⟨hfirst, hneutral⟩ := List.mem_filter.1 hadmitted
  have hd : d ∈ claimants cs (firsts done) role :=
    List.mem_filter.2 ⟨List.mem_filter.2 ⟨mem_firsts_of_mem hmem (hcs ▸ hfirst), hneutral⟩, hclaim⟩
  -- so it is the only claimant read, and the first one in the run
  obtain ⟨later, hlater⟩ := hread
  rw [← hlater, eq_singleton_of_mem hone hd] at hhead
  exact hne (congrArg Capability.name (Option.some.inj hhead)).symm

/-- **A refused run reports its first conflict.** -/
theorem exists_conflict (h : compute cs selection policy = .error fault) :
    ∃ role holder c before after,
      fault = .conflictingRole role holder.name c.name ∧ cs = before ++ c :: after ∧
      Conflict cs role holder c ∧ (∀ d ∈ before, ∀ r other, ¬ Conflict cs r other d) ∧
      ((∃ other, Conflict cs .application other c) → role = .application) := by
  have hpass : cs.foldlM (Gathered.take cs selection policy) {} = .error fault :=
    Fault.bind_pure_eq_error_iff.1 h
  obtain ⟨before, c, after, s, hcs, hbefore, hstep⟩ := Fault.foldlM_error hpass
  obtain ⟨hreject, hnew, hneutral, hgate, role, holder, hclaims, hholder, hname, hfault,
    happlication⟩ := (Gathered.covers_of_pass hbefore).take_error hstep
  have hone : ∀ r, (claimants cs (firsts before) r).length ≤ 1 :=
    pass_isOk_iff.1 ⟨s, hbefore⟩ hreject
  -- behind the claimants before it, `c` stands among those of the run
  have hrun : ∀ r, claims r c = true →
      claimants cs (firsts before) r ++ [c] <+: claimants cs (firsts cs) r := by
    intro r hr
    have hprefix := claimants_isPrefix_append cs (before ++ [c]) after r
    rw [← List.append_cons, ← hcs, firsts, List.foldl_append] at hprefix
    rw [show [c].foldl addFirst (before.foldl addFirst []) = firsts before ++ [c] from hnew,
      claimants_append_of_admitted hgate hneutral, if_pos hr] at hprefix
    exact hprefix
  obtain ⟨later, hlater⟩ := hrun role hclaims
  have hconflict : Conflict cs role holder c := by
    refine ⟨?_, ?_, hname⟩
    · rw [← hlater, List.head?_append, List.head?_append, hholder]
      rfl
    · rw [← hlater]
      simp
  refine ⟨role, holder, c, before, after, hfault, hcs, hconflict, fun d hd r other => ?_, ?_⟩
  · exact not_conflict_of_mem hcs (hone r) hd
  · rintro ⟨other, hhead, hmem, hne⟩
    refine Decidable.byContradiction fun hother => ?_
    have hclaims' : claims .application c = true := (List.mem_filter.1 hmem).2
    -- then `c` would be the first claimant of the application
    obtain ⟨later', hlater'⟩ := hrun .application hclaims'
    rw [← hlater', happlication hother hclaims'] at hhead
    exact hne (congrArg Capability.name (Option.some.inj hhead)).symm

/-- **Runs that are refused.**  A run has a partition unless claimants are rejected and
two capabilities of different names claim one role, each of them the first of its name,
neutral, and admitted by its gate.  The report is then about the first capability in the
run that conflicts about a role, and names as its holder the first one in the run that
claims it; a capability that conflicts about both roles is reported for the application. -/
theorem compute_refused (cs : List (Capability ε)) (selection : Selection)
    (policy : SingletonPolicy) :
    ((∃ fault, compute cs selection policy = .error fault) ↔
      policy = .reject ∧ ∃ role, ∃ c ∈ claimants cs (firsts cs) role,
        ∃ d ∈ claimants cs (firsts cs) role, c.name ≠ d.name) ∧
    (∃ p, compute cs selection .keepFirst = .ok p) ∧
    ∀ fault, compute cs selection policy = .error fault →
      ∃ role holder c before after,
        fault = .conflictingRole role holder.name c.name ∧ cs = before ++ c :: after ∧
        Conflict cs role holder c ∧ (∀ d ∈ before, ∀ r other, ¬ Conflict cs r other d) ∧
        ((∃ other, Conflict cs .application other c) → role = .application) := by
  refine ⟨?_, compute_isOk_iff.2 fun hreject => (by cases hreject), fun _ => exists_conflict⟩
  rw [Fault.isError_iff, compute_isOk_iff]
  constructor
  · intro hrefused
    obtain ⟨hreject, hmany⟩ := Classical.not_imp.1 hrefused
    obtain ⟨role, hrole⟩ := Classical.not_forall.1 hmany
    exact ⟨hreject, role, not_length_claimants_le_one_iff.1 hrole⟩
  · rintro ⟨hreject, role, hrivals⟩ hone
    exact not_length_claimants_le_one_iff.2 hrivals (hone hreject role)

/-- A neutral capability that gives the database driver. -/
def postgres : Capability Unit :=
  { name := "postgres", roles := { databaseDriver := true }, effect := () }

/-- A neutral capability that claims both roles. -/
def suite : Capability Unit :=
  { name := "suite", roles := { application := true, databaseDriver := true }, effect := () }

/-- Behind `shop` and `postgres`, `suite` conflicts about both roles and is reported for
the application; `market`, which comes later, is not reported. -/
theorem compute_refused_suite :
    compute [shop, metrics, postgres, suite, market] .empty .reject =
        .error (.conflictingRole .application "shop" "suite") ∧
      ∃ holder c, Conflict [shop, metrics, postgres, suite, market] .application holder c ∧
        holder.name = "shop" ∧ c.name = "suite" := by
  have herror : compute [shop, metrics, postgres, suite, market] .empty .reject =
      .error (.conflictingRole .application "shop" "suite") := rfl
  obtain ⟨role, holder, c, -, -, hfault, -, hconflict, -⟩ :=
    (compute_refused [shop, metrics, postgres, suite, market] .empty .reject).2.2 _ herror
  obtain ⟨rfl, hholder, hc⟩ := Fault.conflictingRole.inj hfault
  exact ⟨herror, holder, c, hconflict, hholder.symm, hc.symm⟩

end Fanout.Partition
