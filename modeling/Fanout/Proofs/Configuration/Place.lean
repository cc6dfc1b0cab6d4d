import Fanout.Generation.Output
import Fanout.Proofs.Template.Paths
import Fanout.Proofs.Template.Routing

/-!
# Places of configurations

A run has one configuration for each target, kind and environment, and one for all
environments.  From its place follow the key, the module and the path under which
it is registered.  Whatever the environments are called, no two places meet in a
key, nor in a path inside one module.

## Main definitions

* `Place` — a target, a kind, and perhaps an environment.
* `Place.Fits` — a configuration is labelled with its place.
* `Place.key`, `Place.module`, `Place.file` — how it is registered.

## Main statements

* `Place.key_injective` — a key says which place it belongs to.
* `Place.eq_of_physicalPath_eq` — so does a physical path.
-/

namespace Fanout

/-! ## Names of files -/

namespace Configuration

/-- The name of a configuration's file, without the ending. -/
def stem (kind : ConfigurationKind) : Option String → String
  | none => kind.name
  | some environment => kind.name ++ "-" ++ environment

/-- The sources that a configuration's file belongs to. -/
def sources (environment? : Option String) : String :=
  if environment? = some testName ∨ environment? = some functionName then "test" else "main"

/-- The name of a kind begins the names of all its files. -/
theorem head?_stem (kind : ConfigurationKind) (environment? : Option String) :
    (stem kind environment?).toList.head? = kind.name.toList.head? := by
  cases environment? with
  | none => rfl
  | some environment =>
    rw [stem, String.toList_append, String.toList_append, List.append_assoc]
    cases kind <;> rfl

/-- An overlay has a name of its own. -/
theorem stem_some_ne_none (kind : ConfigurationKind) (environment : String) :
    stem kind (some environment) ≠ stem kind none := by
  intro h
  have hlength := congrArg String.length h
  rw [stem, stem, String.length_append, String.length_append, show "-".length = 1 from rfl]
    at hlength
  omega

/-- A name says which kind and which environment it belongs to. -/
theorem stem_injective {kind kind' : ConfigurationKind} {environment? environment?' : Option String}
    (h : stem kind environment? = stem kind' environment?') :
    kind = kind' ∧ environment? = environment?' := by
  have hkind : kind = kind' := by
    -- the names of the kinds begin with different letters
    have hletter : kind.name.toList.head? = kind'.name.toList.head? := by
      rw [← head?_stem kind environment?, h, head?_stem]
    revert hletter
    cases kind <;> cases kind' <;> decide
  subst hkind
  refine ⟨rfl, ?_⟩
  match environment?, environment?', h with
  | none, none, _ => rfl
  | none, some e, h => exact absurd h.symm (stem_some_ne_none kind e)
  | some e, none, h => exact absurd h (stem_some_ne_none kind e)
  | some e, some e', h => rw [(String.append_right_inj _).1 h]

theorem path_eq (c : Configuration) :
    c.path = "src/" ++ sources c.environment? ++ "/resources/" ++ stem c.kind c.environment?
      ++ ".properties" := by
  unfold path sources stem
  cases c.environment? with
  | none => rfl
  | some e => simp only [Option.some.injEq, String.append_assoc]

/-- A path says which kind and which environment it belongs to. -/
theorem label_eq_of_path_eq {c d : Configuration} (h : c.path = d.path) :
    c.kind = d.kind ∧ c.environment? = d.environment? := by
  have hsources : ∀ e : Option String, (sources e).length = 4 := by
    intro e
    unfold sources
    split <;> rfl
  rw [path_eq, path_eq, String.append_left_inj] at h
  have hlists := congrArg String.toList h
  rw [String.toList_append, String.toList_append (t := stem d.kind d.environment?)] at hlists
  -- the folders are equally long, so the rest are the names
  have hfolders : ("src/" ++ sources c.environment? ++ "/resources/").toList.length =
      ("src/" ++ sources d.environment? ++ "/resources/").toList.length := by
    simp only [String.length_toList, String.length_append, hsources]
  exact stem_injective (String.toList_inj.1 (List.append_inj hlists hfolders).2)

end Configuration

namespace Generation

theorem configurationKey_eq (c : Configuration) :
    configurationKey c = Configuration.stem c.kind c.environment? ++ "-config" := by
  unfold configurationKey Configuration.stem
  cases c.environment? <;> rfl

/-- A key says which kind and which environment it belongs to. -/
theorem label_eq_of_configurationKey_eq {c d : Configuration}
    (h : configurationKey c = configurationKey d) :
    c.kind = d.kind ∧ c.environment? = d.environment? := by
  rw [configurationKey_eq, configurationKey_eq, String.append_left_inj] at h
  exact Configuration.stem_injective h

theorem getLast?_configurationKey (c : Configuration) :
    (configurationKey c).toList.getLast? = some 'g' := by
  rw [configurationKey_eq, String.toList_append, List.getLast?_append]
  rfl

end Generation

/-! ## Places -/

/-- **Place of a configuration** in a run. -/
structure Place where
  target : Target
  kind : ConfigurationKind
  /-- The environment of an overlay. -/
  environment? : Option String
deriving DecidableEq, Repr

namespace Place

open Generation (configurationKey)

/-- What is in a place before anything is set. -/
def fresh (p : Place) : Configuration := .ofKind p.kind p.environment?

/-- **A configuration is labelled with its place.** -/
structure Fits (p : Place) (c : Configuration) : Prop where
  kind : c.kind = p.kind
  environment : c.environment? = p.environment?

/-- The module that a configuration is written into: the library, or the only
module there is, for those of the shared scope. -/
def module (singleModule : Bool) (p : Place) : Module :=
  if p.target.isShared then if singleModule then .root else .lib else p.target.module

/-- The key under which a configuration is registered. -/
def key (p : Place) : String :=
  if p.target.isShared then configurationKey p.fresh
  else configurationKey p.fresh ++ "-" ++ p.target.moduleName

/-- **The file of a configuration**: itself, at its own path, in the module of its
place. -/
def file (singleModule : Bool) (p : Place) (c : Configuration) : Template :=
  .new (p.module singleModule) c.path (.properties c)

variable {p q : Place} {c d : Configuration}

theorem key_of_shared (h : p.target = .shared) : p.key = configurationKey p.fresh :=
  if_pos (Target.isShared_iff.2 h)

theorem key_of_concrete (h : p.target ≠ .shared) :
    p.key = configurationKey p.fresh ++ "-" ++ p.target.moduleName :=
  if_neg (mt Target.isShared_iff.1 h)

theorem module_of_shared (h : p.target = .shared) (singleModule : Bool) :
    p.module singleModule = if singleModule then .root else .lib :=
  if_pos (Target.isShared_iff.2 h)

theorem module_of_concrete (h : p.target ≠ .shared) (singleModule : Bool) :
    p.module singleModule = p.target.module :=
  if_neg (mt Target.isShared_iff.1 h)

theorem fits_fresh (p : Place) : p.Fits p.fresh := ⟨rfl, rfl⟩

theorem Fits.configurationKey (h : p.Fits c) : configurationKey c = configurationKey p.fresh := by
  rw [Generation.configurationKey_eq, Generation.configurationKey_eq, h.kind, h.environment]
  rfl

/-- Places with one label are told apart by their targets. -/
theorem eq_of_label_eq (htarget : p.target = q.target) (hp : p.Fits c) (hq : q.Fits d)
    (hlabel : c.kind = d.kind ∧ c.environment? = d.environment?) : p = q := by
  obtain ⟨target, kind, environment?⟩ := p
  obtain ⟨target', kind', environment?'⟩ := q
  obtain rfl : target = target' := htarget
  obtain rfl : kind = kind' := hp.kind.symm.trans (hlabel.1.trans hq.kind)
  obtain rfl : environment? = environment?' :=
    hp.environment.symm.trans (hlabel.2.trans hq.environment)
  rfl

/-- The key of a place of the shared scope is marked by no target. -/
theorem not_marks_configurationKey {t : Target} (ht : t ≠ .shared) (c : Configuration) :
    ¬ t.Marks (configurationKey c) := by
  intro hmarks
  have hlast := Target.getLast?_of_marks hmarks
  rw [Generation.getLast?_configurationKey] at hlast
  revert ht hlast
  cases t <;> decide

/-- **A key says which place it belongs to.** -/
theorem key_injective (h : p.key = q.key) : p = q := by
  have hlabel (htarget : p.target = q.target)
      (hkey : configurationKey p.fresh = configurationKey q.fresh) : p = q :=
    eq_of_label_eq htarget p.fits_fresh q.fits_fresh
      (Generation.label_eq_of_configurationKey_eq hkey)
  by_cases hp : p.target = .shared
  · rw [key_of_shared hp] at h
    by_cases hq : q.target = .shared
    · rw [key_of_shared hq] at h
      exact hlabel (hp.trans hq.symm) h
    · rw [key_of_concrete hq] at h
      exact absurd ⟨_, h⟩ (not_marks_configurationKey hq _)
  · rw [key_of_concrete hp] at h
    by_cases hq : q.target = .shared
    · rw [key_of_shared hq] at h
      exact absurd ⟨_, h.symm⟩ (not_marks_configurationKey hp _)
    · rw [key_of_concrete hq] at h
      have htarget : p.target = q.target := Target.eq_of_marks hp hq ⟨_, rfl⟩ ⟨_, h⟩
      rw [htarget, String.append_left_inj, String.append_left_inj] at h
      exact hlabel htarget h

/-- The module of a place says which target it belongs to. -/
theorem target_eq_of_module_eq {singleModule : Bool}
    (h : (p.module singleModule).canonical = (q.module singleModule).canonical) :
    p.target = q.target := by
  unfold module at h
  revert h
  cases p.target <;> cases q.target <;> cases singleModule <;> decide

/-- **A physical path says which place it belongs to.** -/
theorem eq_of_physicalPath_eq {singleModule : Bool} (hp : p.Fits c) (hq : q.Fits d)
    (h : (p.file singleModule c).physicalPath = (q.file singleModule d).physicalPath) : p = q := by
  obtain ⟨hmodule, hpath⟩ := Template.physicalPath_eq_iff.1 h
  exact eq_of_label_eq (target_eq_of_module_eq hmodule) hp hq
    (Configuration.label_eq_of_path_eq hpath)

end Place

end Fanout
