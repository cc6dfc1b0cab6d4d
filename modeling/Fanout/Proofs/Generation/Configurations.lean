import Fanout.Proofs.Generation.Batch
import Fanout.Proofs.Generation.Labels

/-!
# Registration of the configurations

A run registers the configurations of its shared scope through the routing rules,
and stores those of its targets directly.  Both come to the same: each
configuration goes to the file of its place.  As places do not meet in a key or a
path, an index without templates takes all of them, and none a second time.

## Main definitions

* `Generation.IsDue` — a configuration of a run that is to be registered.
* `Generation.duePlaces` — all of these, in the order in which they are registered.

## Main statements

* `Generation.mem_duePlaces` — the list is complete.
* `Generation.registerConfigurations_eq` — registration stores the files of the
  list one after the other.
* `Generation.registerConfigurations_twice` — what is stored, and answered, the
  first and the second time.
-/

namespace Fanout

namespace Generation

open Place (key_of_shared key_of_concrete module_of_shared module_of_concrete)

variable {ε : Type} {g : Generation ε} {p q : Place} {c d : Configuration} {t : Target}

/-! ## The places of a run -/

/-- **A configuration is to be registered** if something is set in it.  Those of the
shared scope that are for all environments are to be registered only if there is
no module but one. -/
structure IsDue (g : Generation ε) (p : Place) (c : Configuration) : Prop where
  stored : g.stored? p = some c
  nonempty : c.isEmpty = false
  applies : p.target = .shared → p.environment? = none → g.isSingleModule = true

/-- The overlays of a target and a kind, with their places. -/
def overlayPlaces (g : Generation ε) (t : Target) (kind : ConfigurationKind) :
    List (Place × Configuration) :=
  ((g.overlays kind).environments t).toList.map fun e => (⟨t, kind, some e.1⟩, e.2)

/-- The overlays of a target, with their places. -/
def allOverlayPlaces (g : Generation ε) (t : Target) : List (Place × Configuration) :=
  g.overlayPlaces t .application ++ g.overlayPlaces t .bootstrap

/-- The configurations of a kind for all environments that are of concrete targets,
with their places. -/
def basePlaces (g : Generation ε) (kind : ConfigurationKind) : List (Place × Configuration) :=
  (g.bases kind).openedList.map fun e => (⟨e.1, kind, none⟩, e.2)

/-- The configurations of the shared module, with their places. -/
def sharedPlaces (g : Generation ε) : List (Place × Configuration) :=
  (if g.isSingleModule then
      [.application, .bootstrap].map fun kind => (⟨.shared, kind, none⟩, (g.bases kind).base)
    else [])
    ++ g.allOverlayPlaces .shared

/-- The configurations of the concrete targets, with their places. -/
def targetPlaces (g : Generation ε) : List (Place × Configuration) :=
  g.basePlaces .application ++ g.basePlaces .bootstrap
    ++ (Target.clouds.filter g.hasOverlays).flatMap g.allOverlayPlaces

/-- **What is to be registered**, in that order. -/
def duePlaces (g : Generation ε) : List (Place × Configuration) :=
  (g.sharedPlaces ++ g.targetPlaces).filter fun e => !e.2.isEmpty

theorem map_allOverlayPlaces (g : Generation ε) (t : Target) :
    (g.allOverlayPlaces t).map (fun e => e.2) =
      (g.applicationOverlays.environments t).values
        ++ (g.bootstrapOverlays.environments t).values := by
  unfold allOverlayPlaces overlayPlaces SortedMap.values
  rw [List.map_append, List.map_map, List.map_map]
  rfl

theorem sharedConfigurations_eq (g : Generation ε) :
    g.sharedConfigurations = g.sharedPlaces.map fun e => e.2 := by
  unfold sharedConfigurations sharedPlaces
  rw [List.map_append, map_allOverlayPlaces, List.append_assoc]
  cases g.isSingleModule <;> rfl

theorem targetConfigurations_eq (g : Generation ε) :
    g.targetConfigurations = g.targetPlaces.map fun e => (e.1.target, e.2) := by
  have hbase : ∀ kind, (g.basePlaces kind).map (fun e => (e.1.target, e.2)) =
      (g.bases kind).openedList := by
    intro kind
    unfold basePlaces
    rw [List.map_map]
    exact List.map_id _
  have hoverlays : ∀ t, (g.allOverlayPlaces t).map (fun e => (e.1.target, e.2)) =
      ((g.allOverlayPlaces t).map fun e => e.2).map fun c => (t, c) := by
    intro t
    unfold allOverlayPlaces overlayPlaces
    simp only [List.map_append, List.map_map]
    rfl
  unfold targetConfigurations targetPlaces targetOverlays
  rw [List.map_append, List.map_append, List.map_flatMap, List.flatMap_map, hbase, hbase]
  simp only [hoverlays, map_allOverlayPlaces]
  rfl

/-! ## Who is in the lists -/

theorem mem_overlayPlaces {kind : ConfigurationKind} : (p, c) ∈ g.overlayPlaces t kind ↔
    (p.target = t ∧ p.kind = kind ∧ p.environment? ≠ none) ∧ g.stored? p = some c := by
  unfold overlayPlaces
  rw [List.mem_map]
  constructor
  · rintro ⟨⟨environment, c'⟩, hmem, heq⟩
    obtain ⟨rfl, rfl⟩ := Prod.mk.inj heq
    exact ⟨⟨rfl, rfl, nofun⟩, (SortedMap.find?_eq_some_iff _).2 hmem⟩
  · obtain ⟨t, kind, environment?⟩ := p
    rintro ⟨⟨rfl, rfl, henvironment⟩, hstored⟩
    cases environment? with
    | none => exact absurd rfl henvironment
    | some environment =>
      exact ⟨(environment, c), (SortedMap.find?_eq_some_iff _).1 hstored, rfl⟩

theorem mem_allOverlayPlaces : (p, c) ∈ g.allOverlayPlaces t ↔
    (p.target = t ∧ p.environment? ≠ none) ∧ g.stored? p = some c := by
  unfold allOverlayPlaces
  rw [List.mem_append, mem_overlayPlaces, mem_overlayPlaces]
  cases p.kind <;> simp

theorem mem_basePlaces (h : g.Labelled) {kind : ConfigurationKind} : (p, c) ∈ g.basePlaces kind ↔
    (p.target ≠ .shared ∧ p.kind = kind ∧ p.environment? = none) ∧ g.stored? p = some c := by
  unfold basePlaces
  rw [List.mem_map]
  constructor
  · rintro ⟨⟨t, c'⟩, hmem, heq⟩
    obtain ⟨rfl, rfl⟩ := Prod.mk.inj heq
    obtain ⟨hconcrete, hstored⟩ := (Scoped.mem_openedList (h.concrete kind)).1 hmem
    exact ⟨⟨hconcrete, rfl, rfl⟩, hstored⟩
  · obtain ⟨t, kind, environment?⟩ := p
    rintro ⟨⟨hconcrete, rfl, rfl⟩, hstored⟩
    exact ⟨(t, c), (Scoped.mem_openedList (h.concrete kind)).2 ⟨hconcrete, hstored⟩, rfl⟩

theorem mem_sharedPlaces : (p, c) ∈ g.sharedPlaces ↔ p.target = .shared ∧
    g.stored? p = some c ∧ (p.environment? = none → g.isSingleModule = true) := by
  unfold sharedPlaces
  rw [List.mem_append, mem_allOverlayPlaces]
  obtain ⟨t, kind, environment?⟩ := p
  have hbase : ∀ kind, g.stored? ⟨.shared, kind, none⟩ = some (g.bases kind).base := fun _ => rfl
  cases environment? with
  | none =>
    cases g.isSingleModule with
    | false => simp
    | true =>
      by_cases ht : t = .shared
      · subst ht
        cases kind <;> simp [hbase, bases, eq_comm]
      · simp [ht]
  | some environment => cases g.isSingleModule <;> simp

/-- A target with an overlay has its overlays open. -/
theorem hasOverlays_of_stored {kind : ConfigurationKind} {environment : String}
    (h : g.stored? ⟨t, kind, some environment⟩ = some c) : g.hasOverlays t = true := by
  have hopen : ((g.overlays kind).environments? t).isSome = true := by
    rw [← Bool.not_eq_false, ← Bool.not_eq_true', Bool.not_eq_true', Option.isSome_eq_false_iff,
      Option.isNone_iff_eq_none]
    intro hclosed
    unfold stored? overlay? Overlays.find? Overlays.environments at h
    rw [hclosed] at h
    cases h
  unfold hasOverlays
  rw [Bool.or_eq_true]
  cases kind with
  | application => exact Or.inl hopen
  | bootstrap => exact Or.inr hopen

theorem mem_targetPlaces (h : g.Labelled) :
    (p, c) ∈ g.targetPlaces ↔ p.target ≠ .shared ∧ g.stored? p = some c := by
  unfold targetPlaces
  rw [List.mem_append, List.mem_append, mem_basePlaces h, mem_basePlaces h, List.mem_flatMap]
  constructor
  · rintro ((⟨⟨hconcrete, -⟩, hstored⟩ | ⟨⟨hconcrete, -⟩, hstored⟩) | ⟨t, ht, hmem⟩)
    · exact ⟨hconcrete, hstored⟩
    · exact ⟨hconcrete, hstored⟩
    · obtain ⟨⟨rfl, -⟩, hstored⟩ := mem_allOverlayPlaces.1 hmem
      exact ⟨Target.mem_clouds.1 (List.mem_filter.1 ht).1, hstored⟩
  · obtain ⟨t, kind, environment?⟩ := p
    rintro ⟨hconcrete, hstored⟩
    cases environment? with
    | none => cases kind <;> simp [hconcrete, hstored]
    | some environment =>
      have hopen : t ∈ Target.clouds.filter g.hasOverlays :=
        List.mem_filter.2 ⟨Target.mem_clouds.2 hconcrete, hasOverlays_of_stored hstored⟩
      exact Or.inr ⟨t, hopen, mem_allOverlayPlaces.2 ⟨⟨rfl, nofun⟩, hstored⟩⟩

/-- **The list is complete.** -/
theorem mem_duePlaces (h : g.Labelled) : (p, c) ∈ g.duePlaces ↔ g.IsDue p c := by
  unfold duePlaces
  rw [List.mem_filter, List.mem_append, mem_sharedPlaces, mem_targetPlaces h, Bool.not_eq_true']
  constructor
  · rintro ⟨⟨hshared, hstored, happlies⟩ | ⟨hconcrete, hstored⟩, hempty⟩
    · exact ⟨hstored, hempty, fun _ => happlies⟩
    · exact ⟨hstored, hempty, fun hshared => absurd hshared hconcrete⟩
  · rintro ⟨hstored, hempty, happlies⟩
    by_cases hshared : p.target = .shared
    · exact ⟨Or.inl ⟨hshared, hstored, happlies hshared⟩, hempty⟩
    · exact ⟨Or.inr ⟨hshared, hstored⟩, hempty⟩

/-! ## Each place once -/

theorem distinct_overlayPlaces (g : Generation ε) (t : Target) (kind : ConfigurationKind) :
    (g.overlayPlaces t kind).Pairwise fun e e' => e.1 ≠ e'.1 := by
  have hkeys := List.pairwise_map.1 ((g.overlays kind).environments t).nodup_keys
  refine List.pairwise_map.2 (hkeys.imp fun hne heq => hne ?_)
  exact Option.some.inj (congrArg Place.environment? heq)

theorem distinct_basePlaces (g : Generation ε) (kind : ConfigurationKind) :
    (g.basePlaces kind).Pairwise fun e e' => e.1 ≠ e'.1 := by
  have hkeys := List.pairwise_map.1 (g.bases kind).opened.nodup_keys
  exact List.pairwise_map.2 (hkeys.imp fun hne heq => hne (congrArg Place.target heq))

theorem distinct_allOverlayPlaces (g : Generation ε) (t : Target) :
    (g.allOverlayPlaces t).Pairwise fun e e' => e.1 ≠ e'.1 := by
  refine List.pairwise_append.2 ⟨distinct_overlayPlaces g t _, distinct_overlayPlaces g t _, ?_⟩
  rintro ⟨p, c⟩ hp ⟨q, d⟩ hq rfl
  have hkind := (mem_overlayPlaces.1 hp).1.2.1.symm.trans (mem_overlayPlaces.1 hq).1.2.1
  cases hkind

theorem distinct_sharedPlaces (g : Generation ε) :
    g.sharedPlaces.Pairwise fun e e' => e.1 ≠ e'.1 := by
  refine List.pairwise_append.2 ⟨?_, distinct_allOverlayPlaces g .shared, ?_⟩
  · split <;> simp
  · rintro ⟨p, c⟩ hp ⟨q, d⟩ hq rfl
    have hoverlay := (mem_allOverlayPlaces.1 hq).1.2
    split at hp
    · obtain ⟨kind, -, heq⟩ := List.mem_map.1 hp
      exact hoverlay (congrArg (fun e => e.1.environment?) heq.symm)
    · cases hp

theorem distinct_targetPlaces (h : g.Labelled) :
    g.targetPlaces.Pairwise fun e e' => e.1 ≠ e'.1 := by
  refine List.pairwise_append.2 ⟨List.pairwise_append.2
    ⟨distinct_basePlaces g _, distinct_basePlaces g _, ?_⟩, List.pairwise_flatMap.2 ⟨?_, ?_⟩, ?_⟩
  · rintro ⟨p, c⟩ hp ⟨q, d⟩ hq rfl
    have hkind := ((mem_basePlaces h).1 hp).1.2.1.symm.trans ((mem_basePlaces h).1 hq).1.2.1
    cases hkind
  · exact fun t _ => distinct_allOverlayPlaces g t
  · have hclouds : Target.clouds.Pairwise (· ≠ ·) := by decide
    refine (hclouds.filter _).imp fun {t u} hne => ?_
    rintro ⟨p, c⟩ hp ⟨q, d⟩ hq rfl
    exact hne ((mem_allOverlayPlaces.1 hp).1.1.symm.trans (mem_allOverlayPlaces.1 hq).1.1)
  · rintro ⟨p, c⟩ hp ⟨q, d⟩ hq rfl
    obtain ⟨t, -, hq⟩ := List.mem_flatMap.1 hq
    refine (mem_allOverlayPlaces.1 hq).1.2 ?_
    rcases List.mem_append.1 hp with hp | hp
    · exact ((mem_basePlaces h).1 hp).1.2.2
    · exact ((mem_basePlaces h).1 hp).1.2.2

/-- **No place is in the list twice.** -/
theorem distinct_duePlaces (h : g.Labelled) : g.duePlaces.Pairwise fun e e' => e.1 ≠ e'.1 := by
  refine List.Pairwise.filter _ ?_
  refine List.pairwise_append.2 ⟨distinct_sharedPlaces g, distinct_targetPlaces h, ?_⟩
  rintro ⟨p, c⟩ hp ⟨q, d⟩ hq rfl
  exact ((mem_targetPlaces h).1 hq).1 (mem_sharedPlaces.1 hp).1

/-! ## Where the configurations go -/

/-- **An index goes by the standard rules** and no others. -/
structure GoesByStandard (x : TemplateIndex) : Prop where
  rules : x.rules = RoutingRule.standard
  suppressions : x.suppressions = Suppression.standard

theorem GoesByStandard.storeFile {x : TemplateIndex} (h : GoesByStandard x)
    (file : String × Template) : GoesByStandard (storeFile x file).1 where
  rules := (TemplateIndex.rules_insert x _ _).trans h.rules
  suppressions := (TemplateIndex.suppressions_insert x _ _).trans h.suppressions

/-- A file that is registered with a configuration of the shared scope is routed to
the library, or to the only module. -/
theorem route_shared {x : TemplateIndex} (h : GoesByStandard x) (c d : Configuration)
    (singleModule : Bool) :
    x.route ⟨configurationKey d, .new .lib c.path (.properties c), .shared, singleModule⟩ =
      ⟨if singleModule then .root else .lib, none⟩ := by
  have hkey : configurationKey d ≠ clusterManifestKey := by
    intro heq
    have hlast := getLast?_configurationKey d
    rw [heq] at hlast
    revert hlast
    decide
  have hroutable : Route.isRoutable (.new .lib c.path (.properties c)) = true := rfl
  unfold TemplateIndex.route
  rw [h.rules, Route.ofRules_standard]
  cases singleModule <;> simp [hroutable, hkey, Module.canonical, Module.isSharedOrDefault]

/-- Overlays are not suppressed, and nothing is where there is one module only. -/
theorem not_isSuppressed {x : TemplateIndex} (h : GoesByStandard x) {singleModule : Bool}
    (happlies : c.environment? = none → singleModule = true) :
    x.isSuppressed (configurationKey c) (.new .lib c.path (.properties c)) singleModule =
      false := by
  unfold TemplateIndex.isSuppressed
  rw [h.suppressions]
  cases hsingle : singleModule with
  | true => rfl
  | false =>
    have hkey : "application-config" ≠ configurationKey c := by
      intro heq
      have hlabel := label_eq_of_configurationKey_eq (c := .application) heq
      rw [happlies hlabel.2.symm] at hsingle
      cases hsingle
    simp [Suppression.standard, Suppression.covers, Template.kind, Content.kind, Template.new, hkey]

/-- The file of a configuration, with its key. -/
def fileOf (singleModule : Bool) (e : Place × Configuration) : String × Template :=
  (e.1.key, e.1.file singleModule e.2)

/-- The files of the configurations that are due. -/
def dueFiles (g : Generation ε) : List (String × Template) :=
  g.duePlaces.map (fileOf g.isSingleModule)

/-- A configuration of the shared scope is stored as the file of its place. -/
theorem registerShared_eq {x : TemplateIndex} (h : GoesByStandard x) (hp : p.Fits c)
    (hshared : p.target = .shared) {singleModule : Bool}
    (happlies : p.environment? = none → singleModule = true) :
    registerShared singleModule x c = storeFile x (fileOf singleModule (p, c)) := by
  have hsuppressed : x.isSuppressed (configurationKey c) (.new .lib c.path (.properties c))
      singleModule = false :=
    not_isSuppressed h (hp.environment ▸ happlies)
  unfold registerShared storeFile fileOf Place.file
  rw [TemplateIndex.register_of_not_isSuppressed hsuppressed, route_shared h,
    key_of_shared hshared, module_of_shared hshared, ← hp.configurationKey]
  rfl

/-- A configuration of a target is stored as the file of its place. -/
theorem insertTarget_eq (x : TemplateIndex) (hp : p.Fits c) (hconcrete : p.target ≠ .shared)
    (singleModule : Bool) :
    insertTarget x (p.target, c) = storeFile x (fileOf singleModule (p, c)) := by
  unfold insertTarget storeFile fileOf Place.file
  rw [key_of_concrete hconcrete, module_of_concrete hconcrete, ← hp.configurationKey]

/-- **Registration stores the files of the list**, one after the other. -/
theorem registerConfigurations_eq (h : g.Labelled) (hstandard : GoesByStandard g.index) :
    g.registerConfigurations =
      ({ g with index := (collect storeFile g.dueFiles g.index).1 },
        (collect storeFile g.dueFiles g.index).2) := by
  have hshared : ∀ x, GoesByStandard x →
      collect (registerShared g.isSingleModule)
          (g.sharedConfigurations.filter fun c => !c.isEmpty) x
        = collect storeFile ((g.sharedPlaces.filter fun e => !e.2.isEmpty).map
            (fileOf g.isSingleModule)) x := by
    intro x hx
    rw [sharedConfigurations_eq, List.filter_map, collect_map, collect_map]
    refine collect_congr (fun x e he hx => ?_) (fun x e hx => hx.storeFile _) hx
    obtain ⟨hshared, hstored, happlies⟩ := mem_sharedPlaces.1 (List.mem_filter.1 he).1
    exact registerShared_eq hx (h.fits _ _ hstored) hshared happlies
  have htargets : ∀ x,
      collect insertTarget (g.targetConfigurations.filter fun e => !e.2.isEmpty) x
        = collect storeFile ((g.targetPlaces.filter fun e => !e.2.isEmpty).map
            (fileOf g.isSingleModule)) x := by
    intro x
    rw [targetConfigurations_eq, List.filter_map, collect_map, collect_map]
    refine collect_congr (P := fun _ => True) (fun x e he _ => ?_) (fun _ _ _ => trivial) trivial
    obtain ⟨hconcrete, hstored⟩ := (mem_targetPlaces h).1 (List.mem_filter.1 he).1
    exact insertTarget_eq x (h.fits _ _ hstored) hconcrete _
  unfold registerConfigurations dueFiles duePlaces
  dsimp only
  rw [hshared _ hstandard, htargets, List.filter_append, List.map_append, collect_append]

/-! ## The first and the second time -/

theorem GoesByStandard.collect {x : TemplateIndex} (h : GoesByStandard x)
    (files : List (String × Template)) :
    GoesByStandard (Generation.collect Generation.storeFile files x).1 :=
  collect_preserves (P := GoesByStandard) (fun _ file hx => hx.storeFile file) files h

/-- The module of a place has one spelling. -/
theorem canonical_module (p : Place) (singleModule : Bool) :
    (p.module singleModule).canonical = p.module singleModule := by
  unfold Place.module
  cases p.target <;> cases singleModule <;> rfl

theorem mem_dueFiles (h : g.Labelled) {key : String} {file : Template} :
    (key, file) ∈ g.dueFiles ↔
      ∃ p c, g.IsDue p c ∧ key = p.key ∧ file = p.file g.isSingleModule c := by
  unfold dueFiles
  rw [List.mem_map]
  constructor
  · rintro ⟨⟨p, c⟩, hmem, heq⟩
    obtain ⟨rfl, rfl⟩ := Prod.mk.inj heq
    exact ⟨p, c, (mem_duePlaces h).1 hmem, rfl, rfl⟩
  · rintro ⟨p, c, hdue, rfl, rfl⟩
    exact ⟨(p, c), (mem_duePlaces h).2 hdue, rfl⟩

theorem dueFiles_keys (h : g.Labelled) : g.dueFiles.Pairwise fun e e' => e.1 ≠ e'.1 :=
  List.pairwise_map.2 ((distinct_duePlaces h).imp fun hne heq => hne (Place.key_injective heq))

theorem dueFiles_paths (h : g.Labelled) :
    g.dueFiles.Pairwise fun e e' => e.2.physicalPath ≠ e'.2.physicalPath := by
  refine List.pairwise_map.2 ((distinct_duePlaces h).imp_of_mem ?_)
  rintro ⟨p, c⟩ ⟨q, d⟩ hp hq hne heq
  have hfits := h.fits p c ((mem_duePlaces h).1 hp).stored
  have hfits' := h.fits q d ((mem_duePlaces h).1 hq).stored
  exact hne (Place.eq_of_physicalPath_eq hfits hfits' heq)

/-- **The first time**, on an index without templates. -/
theorem registerConfigurations_of_empty (h : g.Labelled) (hstandard : GoesByStandard g.index)
    (hreach : g.index.Reachable) (hempty : ∀ key, g.index.find? key = none) :
    g.registerConfigurations.2 = g.dueFiles.map (fun e => .registered e.1 e.2.module) ∧
    ∀ key t, g.registerConfigurations.1.index.find? key = some t ↔
      ∃ p c, g.IsDue p c ∧ key = p.key ∧ t = p.file g.isSingleModule c := by
  -- an index without templates has no paths either
  have hfree : ∀ e ∈ g.dueFiles, e.2.physicalPath ∉ g.index.paths := by
    intro e _ htaken
    obtain ⟨key, t, hstored, -⟩ :=
      ((TemplateIndex.consistent_of_reachable hreach).paths _).1 htaken
    rw [hempty] at hstored
    cases hstored
  obtain ⟨hanswers, hfind⟩ := collect_storeFile_of_free (dueFiles_keys h) (dueFiles_paths h) hfree
  rw [registerConfigurations_eq h hstandard]
  refine ⟨hanswers, fun key t => ?_⟩
  rw [hfind, hempty, mem_dueFiles h]
  simp

/-- **The second time**, and whenever the files that are due are stored. -/
theorem registerConfigurations_of_stored (h : g.Labelled) (hstandard : GoesByStandard g.index)
    (hreach : g.index.Reachable)
    (hstored : ∀ p c, g.IsDue p c → g.index.find? p.key = some (p.file g.isSingleModule c)) :
    g.registerConfigurations = (g, g.dueFiles.map fun _ => .duplicate) := by
  have htaken : ∀ e ∈ g.dueFiles, e.2.physicalPath ∈ g.index.paths := by
    intro e he
    obtain ⟨p, c, hdue, hkey, hfile⟩ := (mem_dueFiles h).1 he
    refine ((TemplateIndex.consistent_of_reachable hreach).paths _).2 ⟨e.1, e.2, ?_, rfl⟩
    rw [hkey, hfile]
    exact hstored p c hdue
  rw [registerConfigurations_eq h hstandard, collect_storeFile_of_taken htaken]

/-- **Registration of the configurations**, of a run that goes by the standard rules
and has no templates yet.  Each configuration that is due is registered, under the
key of its place, as its file, which is stored nowhere else; nothing else is
stored, and keys tell places apart.  The second time every answer is that the path
is taken, and nothing is changed. -/
theorem registerConfigurations_twice (hg : Configured g)
    (hrules : g.index.rules = RoutingRule.standard) (hempty : ∀ key, g.index.find? key = none) :
    g.registerConfigurations.2.Nodup ∧
    (∀ answer, answer ∈ g.registerConfigurations.2 ↔
      ∃ p c, g.IsDue p c ∧ answer = .registered p.key (p.module g.isSingleModule)) ∧
    (∀ key t, g.registerConfigurations.1.index.find? key = some t ↔
      ∃ p c, g.IsDue p c ∧ key = p.key ∧ t = p.file g.isSingleModule c) ∧
    (∀ p c, g.IsDue p c → ∀ key,
      g.registerConfigurations.1.index.find? key = some (p.file g.isSingleModule c) →
        key = p.key) ∧
    (∀ p q : Place, p.key = q.key → p = q) ∧
    g.registerConfigurations.1.registerConfigurations =
      (g.registerConfigurations.1, g.registerConfigurations.2.map fun _ => .duplicate) := by
  have hlabelled : g.Labelled := hg.labelled
  have hreach : g.index.Reachable := hg.reachable.index
  have hstandard : GoesByStandard g.index :=
    ⟨hrules, TemplateIndex.suppressions_of_reachable hreach⟩
  obtain ⟨hanswers, hstored⟩ := registerConfigurations_of_empty hlabelled hstandard hreach hempty
  refine ⟨?_, ?_, hstored, ?_, fun p q => Place.key_injective, ?_⟩
  · rw [hanswers]
    refine List.pairwise_map.2 ((dueFiles_keys hlabelled).imp fun hne heq => hne ?_)
    exact (Registration.registered.inj heq).1
  · intro answer
    rw [hanswers, List.mem_map]
    constructor
    · rintro ⟨⟨key, t⟩, hmem, rfl⟩
      obtain ⟨p, c, hdue, rfl, rfl⟩ := (mem_dueFiles hlabelled).1 hmem
      exact ⟨p, c, hdue, congrArg _ (canonical_module p _)⟩
    · rintro ⟨p, c, hdue, rfl⟩
      exact ⟨_, (mem_dueFiles hlabelled).2 ⟨p, c, hdue, rfl, rfl⟩,
        congrArg _ (canonical_module p _)⟩
  · intro p c hdue key hkey
    obtain ⟨q, d, hdue', rfl, hfile⟩ := (hstored _ _).1 hkey
    have hsame := Place.eq_of_physicalPath_eq (hlabelled.fits p c hdue.stored)
      (hlabelled.fits q d hdue'.stored) (congrArg Template.physicalPath hfile)
    rw [hsame]
  · -- the configurations are as they were, and so are those that are due
    have hlabelled' : g.registerConfigurations.1.Labelled := hlabelled.congr rfl rfl
    have hstandard' : GoesByStandard g.registerConfigurations.1.index := by
      rw [registerConfigurations_eq hlabelled hstandard]
      exact hstandard.collect _
    have hreach' : g.registerConfigurations.1.index.Reachable :=
      (hg.reachable.perform .registerConfigurations).index
    have hstored' : ∀ p c, g.registerConfigurations.1.IsDue p c →
        g.registerConfigurations.1.index.find? p.key = some (p.file g.isSingleModule c) :=
      fun p c hdue => (hstored _ _).2 ⟨p, c, ⟨hdue.stored, hdue.nonempty, hdue.applies⟩, rfl, rfl⟩
    rw [registerConfigurations_of_stored hlabelled' hstandard' hreach' hstored', hanswers,
      List.map_map]
    rfl

/-- A run with a module for the AWS target. -/
def meteredRun : GenerationPlan Unit :=
  { project := .parse "com.example.demo"
    capabilities := [{ name := "metrics", target? := some .aws, effect := () }] }

/-- Turns a feature on, in a configuration. -/
def turnOn (c : Configuration) : Configuration := c.addAll [("enabled", .bool true)]

/-- The overlay of the library and the configuration of the AWS module are stored in
these modules; the library has no configuration of its own for all environments.
The second time, both paths are taken. -/
theorem registerConfigurations_metered :
    ∃ g : Generation Unit, Configured g ∧ g.application.base.isEmpty = false ∧
      g.registerConfigurations.1.index.find? "application-dev-config" =
        some (.new .lib "src/main/resources/application-dev.properties"
          (.properties (turnOn .development))) ∧
      g.registerConfigurations.1.index.find? "application-config-aws" =
        some (.new (.target .aws) "src/main/resources/application.properties"
          (.properties (turnOn .application))) ∧
      (∀ module, .registered "application-config" module ∉ g.registerConfigurations.2) ∧
      g.registerConfigurations.1.registerConfigurations.2 = [.duplicate, .duplicate] := by
  have hstart : start meteredRun = .ok _ := rfl
  have hset : ∀ t environment?,
      Operation.OnlySets (.configuration t .application environment? turnOn) :=
    fun _ _ => ⟨_, fun _ => rfl⟩
  have hg := (((Configured.of_start hstart).perform (hset .aws none)).perform
    (hset .shared (some "dev"))).perform (hset .shared none)
  obtain ⟨-, hanswers, hstored, -, hkey, htwice⟩ := registerConfigurations_twice hg rfl fun _ => rfl
  refine ⟨_, hg, rfl, ?_, ?_, fun module hmem => ?_, ?_⟩
  · exact (hstored _ _).2 ⟨⟨.shared, .application, some "dev"⟩, _, ⟨rfl, rfl, nofun⟩, rfl, rfl⟩
  · exact (hstored _ _).2 ⟨⟨.aws, .application, none⟩, _, ⟨rfl, rfl, nofun⟩, rfl, rfl⟩
  · obtain ⟨p, c, hdue, heq⟩ := (hanswers _).1 hmem
    obtain rfl := hkey ⟨.shared, .application, none⟩ p (Registration.registered.inj heq).1
    exact absurd (hdue.applies rfl rfl) (by decide)
  · rw [htwice]
    rfl

end Generation

end Fanout
