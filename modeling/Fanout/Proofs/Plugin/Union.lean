import Fanout.Proofs.Plugin.Registry
import Fanout.Proofs.Plugin.Sets

/-!
# The plugins of all modules

Which module has a plugin is up to the target it was added under and to the policy.
Neither counts for what all modules have together: that is what the additions
settle, wherever they put it, and whatever is read off it has no memory of how the
plugins came in.

## Main definitions

* `Plugin.IsPublished` — the registry has the plugin's release.
* `PluginSets.Addition`, `PluginSets.addEach` — additions one after the other, up to
  the first that fails.
* `PluginSets.Stores` — some addition stores a plugin.

## Main statements

* `PluginSets.mem_all` — what is in the union of the sets is in one of them.
* `PluginSets.coordinates_isOk_iff` — there are coordinates if all releases are known.
* `PluginSets.mem_all_addEach` — what is in it after additions that all succeed.
* `PluginSets.all_of_stores` — two runs that store the same plugins.
-/

namespace Fanout

/-- A Gradle plugin of an id may have any version. -/
theorem Plugin.isGradleId_iff {id : String} {p : Plugin} :
    p.isGradleId id = true ↔ ∃ version? lookup?, p = .gradle id version? lookup? := by
  cases p with
  | gradle id' version? lookup? => simp [isGradleId]
  | maven => simp [isGradleId]

/-- **The registry has the plugin's release**, if it is a versioned Gradle plugin. -/
def Plugin.IsPublished (r : Registry) (p : Plugin) : Prop :=
  ∀ id version, PluginSets.gradleRelease? p = some (id, version) →
    ∃ c, r.coordinate id version = .ok c

namespace PluginSets

variable {s s' : PluginSets} {t u : Target} {p r : Plugin} {policy policy' : PropagationPolicy}

/-! ## The union of the sets -/

/-- The union of the sets has what some module has. -/
theorem mem_all_iff_scopes : r ∈ s.all ↔ ∃ scope ∈ s.scopes, r ∈ scope.2 := by
  unfold all
  rw [SortedSet.mem_foldl_insertAll, or_iff_right (SortedSet.notMem_empty r)]
  rfl

/-- What is in the union of the sets is in one of them. -/
theorem mem_all (hshared : s.sets.opened.find? .shared = none) :
    r ∈ s.all ↔ ∃ t, r ∈ s.plugins t := by
  rw [mem_all_iff_scopes]
  unfold scopes plugins
  constructor
  · rintro ⟨⟨t, set⟩, hentry, hr⟩
    refine ⟨t, ?_⟩
    rw [(Scoped.mem_toList hshared).1 hentry]
    exact hr
  · rintro ⟨t, hr⟩
    cases hset : s.sets.find? t with
    | none =>
      rw [hset] at hr
      exact absurd hr (SortedSet.notMem_empty r)
    | some set =>
      rw [hset] at hr
      exact ⟨(t, set), (Scoped.mem_toList hshared).2 hset, hr⟩

/-- A settled plugin is in some set once it was added, and nothing else is new. -/
theorem exists_mem_plugins_addSettled : (∃ t, r ∈ (s.addSettled u p).plugins t) ↔
    r = p ∨ ∃ t, r ∈ s.plugins t := by
  constructor
  · rintro ⟨t, hr⟩
    rw [plugins_addSettled] at hr
    split at hr
    · exact (SortedSet.mem_insert.1 hr).imp_right fun hr => ⟨t, hr⟩
    · exact Or.inr ⟨t, hr⟩
  · rintro (rfl | ⟨t, hr⟩)
    · refine ⟨u, ?_⟩
      rw [plugins_addSettled, if_pos (Or.inl rfl)]
      exact SortedSet.mem_insert.2 (Or.inl rfl)
    · refine ⟨t, ?_⟩
      rw [plugins_addSettled]
      split
      · exact SortedSet.mem_insert.2 (Or.inr hr)
      · exact hr

/-- What the shared module of a function build applies. -/
theorem mem_view_function : r ∈ s.view .shared .function ↔
    r ∈ s.all ∧ ¬ ∃ version? lookup?, r = .gradle Plugin.applicationId version? lookup? := by
  show r ∈ SortedSet.ofList (s.all.toList.filter _) ↔ _
  rw [SortedSet.mem_ofList, List.mem_filter, SortedSet.mem_toList, Bool.not_eq_true',
    ← Bool.not_eq_true, Plugin.isGradleId_iff]

/-! ## Published coordinates -/

/-- There are coordinates of all plugins exactly when the registry has all releases. -/
theorem coordinates_isOk_iff {registry : Registry} :
    (∃ cs, s.coordinates registry = .ok cs) ↔ ∀ p ∈ s.all, p.IsPublished registry := by
  have hfound : (∃ cs, s.coordinates registry = .ok cs) ↔
      ∃ found, (s.all.toList.filterMap gradleRelease?).mapM
        (fun p => registry.coordinate p.1 p.2) = .ok found := by
    unfold coordinates
    constructor
    · rintro ⟨cs, h⟩
      obtain ⟨found, hfound, -⟩ := Fault.bind_ok h
      exact ⟨found, hfound⟩
    · rintro ⟨found, h⟩
      rw [h]
      exact ⟨_, rfl⟩
  rw [hfound, Fault.mapM_isOk_iff]
  constructor
  · intro h p hp id version hrelease
    exact h (id, version) (List.mem_filterMap.2 ⟨p, SortedSet.mem_toList.2 hp, hrelease⟩)
  · rintro h ⟨id, version⟩ hrelease
    obtain ⟨p, hp, hrelease⟩ := List.mem_filterMap.1 hrelease
    exact h p (SortedSet.mem_toList.1 hp) id version hrelease

/-! ## Additions one after the other -/

/-- **Addition of a plugin** under a target, with the coordinates that are known at the
time. -/
structure Addition where
  target : Target
  plugin : Plugin
  known : Resolver

variable {additions additions' : List Addition}

/-- **Makes additions one after the other**, up to the first that fails. -/
def addEach (s : PluginSets) (additions : List Addition) : Except Fault PluginSets :=
  additions.foldlM (fun s a => s.add a.target a.plugin a.known) s

/-- **Some addition stores a plugin**, which it has settled before if it needs to be. -/
def Stores (additions : List Addition) (r : Plugin) : Prop :=
  ∃ a ∈ additions, a.plugin.settled a.known = .ok r

theorem stores_append_singleton {a : Addition} (h : a.plugin.settled a.known = .ok p) :
    Stores (additions ++ [a]) r ↔ r = p ∨ Stores additions r := by
  unfold Stores
  constructor
  · rintro ⟨b, hb, hr⟩
    rcases List.mem_append.1 hb with hb | hb
    · exact Or.inr ⟨b, hb, hr⟩
    · obtain rfl := List.mem_singleton.1 hb
      rw [h] at hr
      exact Or.inl (Except.ok.inj hr).symm
  · rintro (rfl | ⟨b, hb, hr⟩)
    · exact ⟨a, List.mem_append_right _ (List.mem_singleton_self a), h⟩
    · exact ⟨b, List.mem_append_left _ hb, hr⟩

/-- **What additions have collected**: every stored plugin is in some set, and the
shared scope has no set among those of the concrete targets. -/
structure Collects (additions : List Addition) (s : PluginSets) : Prop where
  mem : ∀ r, (∃ t, r ∈ s.plugins t) ↔ Stores additions r
  concrete : s.sets.opened.find? .shared = none

theorem collects_empty (policy : PropagationPolicy) : Collects [] (empty policy) where
  mem := by
    intro r
    refine iff_of_false ?_ ?_
    · rintro ⟨t, hr⟩
      exact notMem_plugins_empty policy t r hr
    · rintro ⟨a, ha, -⟩
      exact absurd ha List.not_mem_nil
  concrete := rfl

/-- One more addition. -/
theorem Collects.add (h : Collects additions s) {a : Addition}
    (hadd : s.add a.target a.plugin a.known = .ok s') : Collects (additions ++ [a]) s' := by
  obtain ⟨p, hp, hs'⟩ := Fault.bind_ok hadd
  obtain rfl := Except.ok.inj hs'
  constructor
  case mem =>
    intro r
    rw [exists_mem_plugins_addSettled, stores_append_singleton hp, h.mem]
  case concrete => rw [opened_shared_addSettled, h.concrete]

theorem collects_addEach (h : (empty policy).addEach additions = .ok s) :
    Collects additions s := by
  have hrun := Fault.foldlM_induction (fun done s => Collects done s) [] (collects_empty policy)
    (fun {_ _ _ _} hs hadd => hs.add hadd) h
  rwa [List.nil_append] at hrun

/-- **What the modules have together** after additions that all succeed. -/
theorem mem_all_addEach (h : (empty policy).addEach additions = .ok s) :
    r ∈ s.all ↔ Stores additions r := by
  have hs := collects_addEach h
  rw [mem_all hs.concrete, hs.mem]

/-! ## Two runs -/

/-- **Runs that store the same plugins**, in whatever order, under whatever targets, and
with whatever policies, have the same plugins in all modules together.  So the shared
module of a function build applies the same plugins, which are those of all modules but
the one that makes an application, and any registry gives the same coordinates or the
same fault. -/
theorem all_of_stores (h : (empty policy).addEach additions = .ok s)
    (h' : (empty policy').addEach additions' = .ok s')
    (hsame : ∀ r, Stores additions r ↔ Stores additions' r) :
    s.all = s'.all ∧ s.view .shared .function = s'.view .shared .function ∧
    (∀ registry, s.coordinates registry = s'.coordinates registry) ∧
    (∀ r, r ∈ s.all ↔ Stores additions r) ∧
    ∀ r, r ∈ s.view .shared .function ↔
      (∃ t, r ∈ s.plugins t) ∧
        ¬ ∃ version? lookup?, r = .gradle Plugin.applicationId version? lookup? := by
  have hall : s.all = s'.all := SortedSet.ext_mem fun r => by
    rw [mem_all_addEach h, mem_all_addEach h', hsame]
  refine ⟨hall, SortedSet.ext_mem fun r => ?_, fun registry => ?_, fun r => mem_all_addEach h,
    fun r => ?_⟩
  · rw [mem_view_function, mem_view_function, hall]
  · unfold coordinates
    rw [hall]
  · rw [mem_view_function, mem_all (collects_addEach h).concrete]

/-- A plugin whose version is looked up under one target, and another one under a second
target. -/
def lookedUp : List Addition :=
  [⟨.aws, .gradle Plugin.applicationId none (some "micronaut-gradle-plugin"),
      fun _ => some ⟨"io.micronaut.gradle", "micronaut-gradle-plugin", "4.0.3"⟩⟩,
    ⟨.gcp, .gradle Plugin.shadowId (some "8.1.1") none, fun _ => none⟩]

/-- The same plugins under other targets, the other way round, with their versions. -/
def written : List Addition :=
  [⟨.shared, .gradle Plugin.shadowId (some "8.1.1") none, fun _ => none⟩,
    ⟨.oci, .gradle Plugin.applicationId (some "4.0.3") none, fun _ => none⟩]

/-- Both runs have the same plugins in all modules, and the same coordinates. -/
theorem all_of_stores_written :
    ∃ s s', (empty .standard).addEach lookedUp = .ok s ∧
      (empty (.ofBehaviour .exclude)).addEach written = .ok s' ∧
      (s.plugins .shared).toList ≠ (s'.plugins .shared).toList ∧ s.all = s'.all ∧
      s.coordinates .bundled = s'.coordinates .bundled := by
  have hsame : ∀ r, Stores lookedUp r ↔ Stores written r := by
    intro r
    simp only [Stores, lookedUp, written, List.mem_cons, List.not_mem_nil, or_false,
      exists_eq_or_imp, exists_eq_left]
    exact or_comm
  have hlookedUp : (empty .standard).addEach lookedUp = .ok _ := rfl
  have hwritten : (empty (.ofBehaviour .exclude)).addEach written = .ok _ := rfl
  refine ⟨_, _, hlookedUp, hwritten, by decide, ?_⟩
  have h := all_of_stores hlookedUp hwritten hsame
  exact ⟨h.1, h.2.2.1 .bundled⟩

end PluginSets

end Fanout
