import Fanout.Proofs.Plugin.Union

/-!
# Published coordinates

The coordinates of all modules together depend on the versioned Gradle plugins alone, and
of these on all: one module's plugin without an entry in the registry is enough for there
to be none.  Where a plugin came from and why it is not in the shared module as well has
no say in it.

## Main definitions

* `PluginSets.Has` — some module has a plugin.

## Main statements

* `PluginSets.coordinates_eq_error_iff` — which fault stops the search for coordinates.
* `PluginSets.coordinates_congr` — what the coordinates depend on.
* `PluginSets.coordinates_published` — all of it.
-/

namespace Fanout.PluginSets

variable {s s' : PluginSets} {p : Plugin} {registry : Registry}

/-- **Some module has a plugin**, whether the shared one or that of a concrete target. -/
def Has (s : PluginSets) (p : Plugin) : Prop := ∃ scope ∈ s.scopes, p ∈ scope.2

theorem mem_toList_all : p ∈ s.all.toList ↔ s.Has p := SortedSet.mem_toList.trans mem_all_iff_scopes

theorem gradleRelease?_eq_some_iff {release : String × String} :
    gradleRelease? p = some release ↔ ∃ lookup?, p = .gradle release.1 (some release.2) lookup? := by
  obtain ⟨id, version⟩ := release
  cases p with
  | gradle id' version? lookup? => cases version? <;> simp [gradleRelease?]
  | maven => simp [gradleRelease?]

/-- A versioned Gradle plugin is published if the registry has an entry of its release. -/
theorem isPublished_iff : p.IsPublished registry ↔ ∀ id version lookup?,
    p = .gradle id (some version) lookup? →
      (registry.plugins.find? (id ++ ":" ++ version)).isSome = true := by
  have hentry : ∀ key, (registry.find? key).isSome = (registry.plugins.find? key).isSome :=
    fun key => Option.isSome_map
  unfold Plugin.IsPublished
  simp only [Registry.coordinate_isOk_iff, hentry, gradleRelease?_eq_some_iff]
  exact ⟨fun h id version lookup? hp => h id version ⟨lookup?, hp⟩,
    fun h id version ⟨lookup?, hp⟩ => h id version lookup? hp⟩

/-- Plugins are published if the registry has an entry of every release among them. -/
theorem forall_isPublished_iff {P : Plugin → Prop} : (∀ p, P p → p.IsPublished registry) ↔
    ∀ id version lookup?, P (.gradle id (some version) lookup?) →
      (registry.plugins.find? (id ++ ":" ++ version)).isSome = true := by
  simp only [isPublished_iff]
  constructor
  · intro h id version lookup? hp
    exact h _ hp id version lookup? rfl
  · rintro h p hp id version lookup? rfl
    exact h id version lookup? hp

/-- The coordinates are those of the releases. -/
theorem mem_of_coordinates {cs : SortedSet String} (h : s.coordinates registry = .ok cs)
    {c : String} : c ∈ cs ↔ ∃ id version lookup?, s.Has (.gradle id (some version) lookup?) ∧
      registry.find? (id ++ ":" ++ version) = some c := by
  obtain ⟨found, hfound, hcs⟩ := Fault.bind_ok h
  obtain rfl := Except.ok.inj hcs
  rw [SortedSet.mem_ofList, Fault.mem_of_mapM hfound]
  constructor
  · rintro ⟨⟨id, version⟩, hrelease, hc⟩
    obtain ⟨p, hp, hp'⟩ := List.mem_filterMap.1 hrelease
    obtain ⟨lookup?, rfl⟩ := gradleRelease?_eq_some_iff.1 hp'
    exact ⟨id, version, lookup?, mem_toList_all.1 hp, Registry.coordinate_eq_ok_iff.1 hc⟩
  · rintro ⟨id, version, lookup?, hp, hc⟩
    exact ⟨(id, version), List.mem_filterMap.2 ⟨_, mem_toList_all.2 hp, rfl⟩,
      Registry.coordinate_eq_ok_iff.2 hc⟩

/-- **The first plugin that is not published** stops the search for coordinates. -/
theorem coordinates_eq_error_iff {fault : Fault} : s.coordinates registry = .error fault ↔
    ∃ before id version lookup? after,
      s.all.toList = before ++ .gradle id (some version) lookup? :: after ∧
      (∀ q ∈ before, q.IsPublished registry) ∧
      registry.plugins.find? (id ++ ":" ++ version) = none ∧
      fault = .unknownPluginCoordinate (id ++ ":" ++ version) := by
  have hsearch : s.coordinates registry = .error fault ↔
      (s.all.toList.filterMap gradleRelease?).mapM (fun p => registry.coordinate p.1 p.2) =
        .error fault := Fault.bind_pure_eq_error_iff
  rw [hsearch, Fault.mapM_eq_error_iff]
  constructor
  · rintro ⟨releases, ⟨id, version⟩, rest, hsplit, hreleases, hfault⟩
    obtain ⟨l, l', hall, rfl, hrest⟩ := List.filterMap_eq_append_iff.1 hsplit
    obtain ⟨others, p, after, rfl, hothers, hp, -⟩ := List.filterMap_eq_cons_iff.1 hrest
    obtain ⟨lookup?, rfl⟩ := gradleRelease?_eq_some_iff.1 hp
    refine ⟨l ++ others, id, version, lookup?, after, by rw [hall, List.append_assoc], ?_,
      Registry.coordinate_eq_error_iff.1 hfault⟩
    intro q hq id' version' hrelease
    rcases List.mem_append.1 hq with hq | hq
    · exact hreleases (id', version') (List.mem_filterMap.2 ⟨q, hq, hrelease⟩)
    · rw [hothers q hq] at hrelease
      cases hrelease
  · rintro ⟨before, id, version, lookup?, after, hall, hbefore, hfault⟩
    refine ⟨before.filterMap gradleRelease?, (id, version), after.filterMap gradleRelease?, ?_, ?_,
      Registry.coordinate_eq_error_iff.2 hfault⟩
    · rw [hall, List.filterMap_append]
      rfl
    · rintro ⟨id', version'⟩ hrelease
      obtain ⟨q, hq, hq'⟩ := List.mem_filterMap.1 hrelease
      exact hbefore q hq id' version' hq'

/-- **Only versioned Gradle plugins count** for the coordinates. -/
theorem coordinates_congr (h : ∀ id version lookup?, s.Has (.gradle id (some version) lookup?) ↔
    s'.Has (.gradle id (some version) lookup?)) :
    s.coordinates registry = s'.coordinates registry := by
  have hreleases : ∀ l : List Plugin, l.filterMap gradleRelease? =
      (l.filter fun p => (gradleRelease? p).isSome).filterMap gradleRelease? := by
    intro l
    have hrelease : (fun p => if (gradleRelease? p).isSome = true then gradleRelease? p else none) =
        gradleRelease? := by
      funext p
      cases gradleRelease? p <;> rfl
    rw [List.filterMap_filter, hrelease]
  have hsame : (s.all.toList.filter fun p => (gradleRelease? p).isSome) =
      s'.all.toList.filter fun p => (gradleRelease? p).isSome := by
    refine SortedSet.filter_toList_congr fun p hp => ?_
    obtain ⟨release, hrelease⟩ := Option.isSome_iff_exists.1 hp
    obtain ⟨lookup?, rfl⟩ := gradleRelease?_eq_some_iff.1 hrelease
    rw [mem_all_iff_scopes, mem_all_iff_scopes]
    exact h _ _ _
  unfold coordinates
  rw [hreleases, hsame, ← hreleases]

/-- **Published coordinates.**  There are coordinates exactly when the registry has an
entry for every versioned Gradle plugin that some module has, and they are those of these
plugins then.  Otherwise the fault names the first of them, in the order of the plugins of
all modules together, that has no entry.  Other plugins do not matter. -/
theorem coordinates_published (s : PluginSets) (registry : Registry) :
    ((∃ cs, s.coordinates registry = .ok cs) ↔
      ∀ id version lookup?, s.Has (.gradle id (some version) lookup?) →
        (registry.plugins.find? (id ++ ":" ++ version)).isSome = true) ∧
    (∀ cs, s.coordinates registry = .ok cs → ∀ c, c ∈ cs ↔
      ∃ id version lookup?, s.Has (.gradle id (some version) lookup?) ∧
        registry.find? (id ++ ":" ++ version) = some c) ∧
    (∀ fault, s.coordinates registry = .error fault ↔ ∃ before id version lookup? after,
      s.all.toList = before ++ .gradle id (some version) lookup? :: after ∧
      (∀ id' version' lookup?', .gradle id' (some version') lookup?' ∈ before →
        (registry.plugins.find? (id' ++ ":" ++ version')).isSome = true) ∧
      registry.plugins.find? (id ++ ":" ++ version) = none ∧
      fault = .unknownPluginCoordinate (id ++ ":" ++ version)) ∧
    ((s.all.toList.Pairwise fun p q => compare p q = .lt) ∧
      ∀ p, p ∈ s.all.toList ↔ s.Has p) ∧
    ∀ s' : PluginSets, (∀ id version lookup?, s.Has (.gradle id (some version) lookup?) ↔
        s'.Has (.gradle id (some version) lookup?)) →
      s.coordinates registry = s'.coordinates registry := by
  refine ⟨?_, fun cs hcs c => mem_of_coordinates hcs, fun fault => ?_,
    ⟨s.all.toList_ascending, fun p => mem_toList_all⟩, fun s' h => coordinates_congr h⟩
  · rw [coordinates_isOk_iff, ← forall_isPublished_iff]
    exact forall_congr' fun p => imp_congr_left mem_all_iff_scopes
  · rw [coordinates_eq_error_iff]
    simp only [forall_isPublished_iff]

end Fanout.PluginSets
