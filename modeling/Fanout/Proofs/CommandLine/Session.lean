import Fanout.CommandLine.Folder
import Fanout.CommandLine.Session
import Fanout.Proofs.Catalog
import Fanout.Proofs.Text.Ends

/-!
# What can go wrong in a session

A manifest that gives no coordinates and no registry of its own leaves a run with the
tables that the catalog was written for.  If what it says about language and targets can
be read, a single thing can go wrong: a selected name may be none of the catalog.  A run
that gets past this check is finished, and answers whatever it is asked.

## Main definitions

* `Manifest.IsSelfContained` — a manifest that leaves the tables as they are.
* `CommandLine.IsPropagation` — a text that propagates a capability to a target.
* `CommandLine.Request.ofSelection` — what a selection asks of the catalog.

## Main statements

* `CommandLine.requestOf_eq` — the request of such a manifest, or the unknown name.
* `CommandLine.fulfil_isOk` — what a selection asks of the catalog is fulfilled.
* `CommandLine.generate_isOk_iff` — which runs there are.
-/

namespace Fanout

namespace Manifest

variable {manifest : Manifest}

/-- **A manifest that leaves the tables as they are**, and whose language and targets can
be read. -/
structure IsSelfContained (manifest : Manifest) : Prop where
  language : ∃ l, Language.parse manifest.build.language = .ok l
  targets : ∀ e ∈ manifest.selection.propagate.toList, ∀ target ∈ e.2,
    ∃ t, Target.parse target = .ok t
  coordinates : manifest.coordinates = .empty
  registry : manifest.registryPath? = none

/-- The selection of a manifest has the names it lists. -/
theorem IsSelfContained.selection? (h : manifest.IsSelfContained) :
    ∃ s, manifest.selection? = .ok s ∧
      ∀ name, s.isSelected name = true ↔ name ∈ manifest.selection.features := by
  refine Fault.foldlM_isOk _ (fun name => ?_) fun e he s hs =>
    Fault.foldlM_isOk _ hs fun target htarget s hs => ?_
  · rw [Selection.isSelected_foldl_select]
    exact or_iff_left (SortedSet.notMem_empty name)
  · obtain ⟨t, ht⟩ := h.targets e he target htarget
    refine ⟨s.propagate e.1 t, by rw [ht]; rfl, fun name => ?_⟩
    rw [Selection.isSelected_propagate, hs]

theorem IsSelfContained.options? (h : manifest.IsSelfContained) :
    ∃ options, manifest.options? = .ok options := by
  obtain ⟨l, hl⟩ := h.language
  unfold Manifest.options?
  rw [hl]
  exact ⟨_, rfl⟩

theorem IsSelfContained.extendTable (h : manifest.IsSelfContained) (table : CoordinateTable) :
    manifest.extendTable table = .ok table := by
  unfold Manifest.extendTable
  rw [h.coordinates]
  rfl

end Manifest

namespace CommandLine

variable {arguments : Arguments} {manifest : Manifest}

/-! ## Propagations -/

/-- **A text that propagates a capability to a target**: a name, an equals sign, and the
name of a target. -/
def IsPropagation (pair : String) : Prop :=
  ∃ name target, '=' ∉ name.toList ∧ pair = name ++ "=" ++ target ∧
    ∃ t, Target.parse target = .ok t

/-- These are the texts that are read. -/
theorem parsePropagation_isOk_iff {pair : String} :
    (∃ p, parsePropagation pair = .ok p) ↔ IsPropagation pair := by
  unfold parsePropagation
  constructor
  · rintro ⟨p, h⟩
    split at h
    next => cases h
    next name target hcut =>
      obtain ⟨t, ht, -⟩ := Fault.bind_ok h
      obtain ⟨hname, hpair⟩ := Text.of_cutFirst hcut
      refine ⟨String.ofList name, String.ofList target, by simpa using hname, ?_, t, ht⟩
      rw [← String.toList_inj, hpair]
      simp
  · rintro ⟨name, target, hname, rfl, t, ht⟩
    have hcut : Text.cutFirst '=' (name ++ "=" ++ target).toList =
        some (name.toList, target.toList) := by
      rw [← Text.cutFirst_append hname target.toList]
      simp
    rw [hcut]
    simp only [String.ofList_toList, ht]
    exact ⟨_, rfl⟩

/-! ## The request -/

/-- **What a session selects**: the names of the manifest and those of the command
line. -/
theorem selectionOf_isOk (h : manifest.IsSelfContained)
    (hpairs : ∀ pair ∈ arguments.propagations, IsPropagation pair) :
    ∃ s, selectionOf arguments manifest = .ok s ∧ ∀ name, s.isSelected name = true ↔
      name ∈ manifest.selection.features ∨ name ∈ arguments.features := by
  obtain ⟨s, hs, hnames⟩ := h.selection?
  unfold selectionOf
  rw [hs]
  refine Fault.foldlM_isOk _ (fun name => ?_) fun pair hpair s hs => ?_
  · rw [Selection.isSelected_foldl_select, hnames, or_comm]
  · obtain ⟨⟨name, t⟩, hparse⟩ := parsePropagation_isOk_iff.2 (hpairs pair hpair)
    refine ⟨s.propagate name t, by rw [hparse]; rfl, fun other => ?_⟩
    rw [Selection.isSelected_propagate, hs]

/-- No name is unknown exactly when all selected ones are in the catalog: a selected
capability of the catalog takes part. -/
theorem unknownName?_eq_none_iff (selection : Selection) :
    unknownName? selection (Catalog.capabilities.filter (takesPart selection)) = none ↔
      ∀ name, selection.isSelected name = true → ∃ c ∈ Catalog.capabilities, c.name = name := by
  have hname : ∀ name, selection.isSelected name = true →
      (((Catalog.capabilities.filter (takesPart selection)).any fun c => c.name == name) = true ↔
        ∃ c ∈ Catalog.capabilities, c.name = name) := by
    intro name hselected
    rw [List.any_eq_true]
    constructor
    · rintro ⟨c, hc, hname⟩
      exact ⟨c, (List.mem_filter.1 hc).1, beq_iff_eq.1 hname⟩
    · rintro ⟨c, hc, rfl⟩
      refine ⟨c, List.mem_filter.2 ⟨hc, ?_⟩, beq_self_eq_true _⟩
      simp [takesPart, hselected]
  unfold unknownName?
  simp only [List.find?_eq_none, SortedSet.mem_toList, Bool.not_eq_true', Bool.not_eq_false]
  exact forall₂_congr hname

/-- **What a selection asks for**: its capabilities of the catalog, and the catalog's own
coordinates. -/
def Request.ofSelection (selection : Selection) (options : BuildOptions) : Request where
  selection
  capabilities := Catalog.capabilities.filter (takesPart selection)
  options
  table := Catalog.coordinates

/-- **The request of a self-contained manifest**, or the first unknown name. -/
theorem requestOf_eq (h : manifest.IsSelfContained)
    (hpairs : ∀ pair ∈ arguments.propagations, IsPropagation pair) :
    ∃ selection options,
      (∀ name, selection.isSelected name = true ↔
        name ∈ manifest.selection.features ∨ name ∈ arguments.features) ∧
      requestOf arguments manifest =
        match unknownName? selection (Catalog.capabilities.filter (takesPart selection)) with
        | some name => .error (.unknownCapability name)
        | none => .ok (.ofSelection selection options) := by
  obtain ⟨selection, hselection, hnames⟩ := selectionOf_isOk h hpairs
  obtain ⟨options, hoptions⟩ := h.options?
  refine ⟨selection, options, hnames, ?_⟩
  unfold requestOf
  rw [hselection, hoptions, h.extendTable]
  simp only [bind, Except.bind]
  cases unknownName? selection (Catalog.capabilities.filter (takesPart selection)) <;> rfl

/-! ## Fulfilment -/

/-- The plan that a request leads to. -/
def Request.plan (request : Request) (manifest : Manifest) (registry : Registry) :
    GenerationPlan CatalogEffect where
  project := manifest.project
  options := request.options
  capabilities := request.capabilities
  selection := request.selection
  resolver := request.table.resolver
  registry

/-- **What a selection asks for is fulfilled** with the bundled registry, and the
generation is sound. -/
theorem fulfil_isOk (manifest : Manifest) (selection : Selection) (options : BuildOptions) :
    ∃ g, fulfil manifest (.ofSelection selection options) .bundled = .ok g ∧
      g.IsSound Catalog.coordinates.resolver .bundled := by
  have hcs : (Request.ofSelection selection options).capabilities.Sublist Catalog.capabilities :=
    List.filter_sublist
  obtain ⟨p, hp⟩ := Catalog.compute_isOk hcs selection options.singletonPolicy
  have hplan : ∃ g, Generation.start ((Request.ofSelection selection options).plan manifest
      .bundled) = .ok g ∧ g.partition = p := Generation.start_of_compute hp
  obtain ⟨start, hstart, rfl⟩ := hplan
  obtain ⟨hfault, hsound⟩ := Catalog.apply_sound hcs hp (Generation.isSound_of_start hstart)
  refine ⟨_, ?_, hsound.registerConfigurations⟩
  change Generation.start ((Request.ofSelection selection options).plan manifest .bundled) >>= _ = _
  rw [hstart]
  simp only [bind, Except.bind, hfault]
  rfl

/-! ## The run -/

variable {files : FileAccess Id} {folder : String}

/-- Without a registry of its own, a manifest is read, and no other file. -/
theorem generate_eq (hload : (loadManifest files arguments.config?).run = .ok (manifest, folder))
    (hregistry : manifest.registryPath? = none) : (generate files arguments).run =
      requestOf arguments manifest >>= fun request => fulfil manifest request .bundled := by
  have hbundled : (loadRegistry files folder manifest).run = .ok .bundled := by
    unfold loadRegistry
    rw [hregistry]
    rfl
  unfold generate
  simp only [Id.run_bind, hload]
  cases requestOf arguments manifest with
  | error fault => rfl
  | ok request =>
    simp only [Id.run_bind, hbundled]
    rfl

/-- **Which runs there are.**  With a self-contained manifest and propagations that can be
read, there is a generation exactly when every selected name, of the manifest or of the
command line, is the name of a capability of the catalog.  Then there are coordinates of
all its plugins, and all its files are rendered. -/
theorem generate_isOk_iff
    (hload : (loadManifest files arguments.config?).run = .ok (manifest, folder))
    (h : manifest.IsSelfContained)
    (hpairs : ∀ pair ∈ arguments.propagations, IsPropagation pair) :
    ((∃ g, (generate files arguments).run = .ok g) ↔
      ∀ name, name ∈ manifest.selection.features ∨ name ∈ arguments.features →
        ∃ c ∈ Catalog.capabilities, c.name = name) ∧
    ∀ g, (generate files arguments).run = .ok g →
      (∃ cs, g.pluginCoordinates = .ok cs) ∧ ∃ rendered, g.render = .ok rendered := by
  obtain ⟨selection, options, hnames, hrequest⟩ := requestOf_eq h hpairs
  have hknown := unknownName?_eq_none_iff selection
  simp only [hnames] at hknown
  rw [generate_eq hload h.registry, hrequest, ← hknown]
  cases hunknown : unknownName? selection (Catalog.capabilities.filter (takesPart selection)) with
  | some name =>
    have hstopped : ∀ g, (Except.error (.unknownCapability name) :
        Except Fault (Generation CatalogEffect)) ≠ .ok g := fun g hg => by cases hg
    exact ⟨iff_of_false (fun ⟨g, hg⟩ => hstopped g hg) (by simp),
      fun g hg => absurd hg (hstopped g)⟩
  | none =>
    obtain ⟨g, hg, hsound⟩ := fulfil_isOk manifest selection options
    refine ⟨iff_of_true ⟨g, hg⟩ rfl, fun g' hg' => ?_⟩
    obtain rfl := Except.ok.inj (hg.symm.trans hg')
    exact ⟨hsound.pluginCoordinates_isOk, hsound.render_isOk⟩

/-- An empty folder. -/
def noFiles : FileAccess Id := (Folder.ofFiles "/work" []).access none

/-- A command line with two selected capabilities and a propagation. -/
def streaming : Arguments where
  command := .modules
  features := ["kafka", "azure-function"]
  propagations := ["security=GCP"]

/-- The same with a misspelt name. -/
def misspelt : Arguments := { streaming with features := ["kafak", "azure-function"] }

/-- In an empty folder, the command line has a generation, but not the misspelt one. -/
theorem generate_streaming :
    (∃ g, (generate noFiles streaming).run = .ok g ∧
      (∃ cs, g.pluginCoordinates = .ok cs) ∧ ∃ rendered, g.render = .ok rendered) ∧
    ¬ ∃ g, (generate noFiles misspelt).run = .ok g := by
  have hmanifest : ({} : Manifest).IsSelfContained :=
    ⟨⟨.java, rfl⟩, fun _ he => absurd he List.not_mem_nil, rfl, rfl⟩
  have hpairs : ∀ pair ∈ ["security=GCP"], IsPropagation pair := by
    intro pair hpair
    obtain rfl := List.mem_singleton.1 hpair
    exact ⟨"security", "GCP", by decide, rfl, .gcp, rfl⟩
  constructor
  · have hload : (loadManifest noFiles streaming.config?).run = .ok ({}, ".") := rfl
    obtain ⟨hiff, hanswers⟩ := generate_isOk_iff hload hmanifest hpairs
    have hknown : ∀ name ∈ streaming.features, ∃ c ∈ Catalog.capabilities, c.name = name := by
      decide
    obtain ⟨g, hg⟩ := hiff.2 fun name hname =>
      hname.elim (fun hname => absurd hname List.not_mem_nil) (hknown name)
    exact ⟨g, hg, hanswers g hg⟩
  · have hload : (loadManifest noFiles misspelt.config?).run = .ok ({}, ".") := rfl
    obtain ⟨hiff, -⟩ := generate_isOk_iff hload hmanifest hpairs
    have hunknown : ¬ ∃ c ∈ Catalog.capabilities, c.name = "kafak" := by decide
    exact fun hg => hunknown (hiff.1 hg "kafak" (Or.inr (by decide)))

end CommandLine

end Fanout
