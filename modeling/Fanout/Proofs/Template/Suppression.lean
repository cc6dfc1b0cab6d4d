import Fanout.Proofs.Template.Index
import Fanout.Proofs.Template.Routing

/-!
# Application configurations in the library

The shared module of a multi-module build is a library, and the configuration of
an application that is registered for it is suppressed.  Suppression goes by the
module that a template declares, and it comes before routing, which gives the
library what declares no module of its own.  So there is one way past it: an
application configuration that declares the default module and is registered for
the shared scope.

## Main definitions

* `RoutingQuestion.IsUnplacedConfig` — the one way past suppression.
* `TemplateIndex.HoldsLibraryConfig` — the library has an application
  configuration.
* `TemplateIndex.registerAll` — registrations one after the other.

## Main statements

* `TemplateIndex.holdsLibraryConfig_register` — which registration gives the
  library an application configuration.
* `TemplateIndex.holdsLibraryConfig_registerAll` — the same said of a sequence of
  registrations.
* `TemplateIndex.never_holdsLibraryConfig_iff` — when the library never gets one.
-/

namespace Fanout

/-! ## The way into the library -/

/-- **Application configuration that declares the default module**, registered for
the shared scope. -/
structure RoutingQuestion.IsUnplacedConfig (q : RoutingQuestion) : Prop where
  kind : q.template.kind = .properties
  key : q.key = "application-config"
  module : q.template.module = .default
  scope : q.scope = .shared

/-- The standard rules give the library what is registered for the shared scope and
declares the library or the default module; its key stays as it is. -/
theorem Route.standard_into_lib {q : RoutingQuestion} (hkind : q.template.kind ≠ .resource)
    (h : (ofRules RoutingRule.standard q).module.canonical = .lib) :
    ofRules RoutingRule.standard q = ⟨.lib, none⟩ ∧ q.scope = .shared ∧
      (q.template.module = .lib ∨ q.template.module = .default) := by
  rw [ofRules_standard] at h ⊢
  by_cases hroutable : isRoutable q.template = false
  · rw [if_pos hroutable] at h
    have hroot : q.template.module = .root := by simpa [isRoutable, hkind] using hroutable
    rw [hroot] at h
    cases h
  rw [if_neg hroutable] at h ⊢
  by_cases hkey : q.key = clusterManifestKey
  · rw [if_pos hkey] at h
    cases h
  rw [if_neg hkey] at h ⊢
  by_cases htarget : q.scope ≠ .shared ∧ q.template.module ≠ q.scope.module
  · -- a concrete target has a module of its own
    rw [if_pos htarget, Target.canonical_module, Target.module_eq_lib_iff] at h
    exact absurd h htarget.1
  rw [if_neg htarget] at h ⊢
  by_cases hsingle : q.singleModule = true ∧ q.template.module.isSharedOrDefault = true
  · rw [if_pos hsingle] at h
    cases h
  rw [if_neg hsingle] at h ⊢
  have hown : q.scope ≠ .shared → q.template.module = q.scope.module := by
    intro hscope
    exact Classical.not_not.1 fun hmodule => htarget ⟨hscope, hmodule⟩
  by_cases hdefault : q.template.module = .default
  · rw [if_pos hdefault]
    refine ⟨rfl, Classical.not_not.1 fun hscope => ?_, Or.inr hdefault⟩
    exact q.scope.module_ne_default ((hown hscope).symm.trans hdefault)
  · rw [if_neg hdefault] at h ⊢
    have hlib : q.template.module = .lib := q.template.canonical.symm.trans h
    refine ⟨by rw [hlib], Classical.not_not.1 fun hscope => ?_, Or.inl hlib⟩
    exact hscope (Target.module_eq_lib_iff.1 ((hown hscope).symm.trans hlib))

namespace TemplateIndex

variable {x : TemplateIndex} {q : RoutingQuestion} {questions : List RoutingQuestion}

/-! ## One registration -/

/-- **The library has an application configuration.** -/
def HoldsLibraryConfig (x : TemplateIndex) : Prop :=
  ∃ t, x.find? "application-config" = some t ∧ t.kind = .properties ∧ t.module = .lib

/-- The index after a registration. -/
def registerOne (x : TemplateIndex) (q : RoutingQuestion) : TemplateIndex :=
  (x.register q.key q.template q.scope q.singleModule).1

/-- An application configuration that declares the library is suppressed where there
are several modules. -/
theorem isSuppressed_of_lib (hsuppressions : x.suppressions = Suppression.standard)
    {t : Template} (hkind : t.kind = .properties) (hmodule : t.module = .lib) :
    x.isSuppressed "application-config" t false = true := by
  unfold isSuppressed
  rw [hsuppressions]
  simp [Suppression.standard, Suppression.covers, hkind, hmodule, Module.canonical]

/-- One that declares the default module is not. -/
theorem isSuppressed_of_default (hsuppressions : x.suppressions = Suppression.standard)
    {t : Template} (hmodule : t.module = .default) (singleModule : Bool) :
    x.isSuppressed "application-config" t singleModule = false := by
  unfold isSuppressed
  rw [hsuppressions]
  simp [Suppression.standard, Suppression.covers, hmodule, Module.canonical]

/-- **Which registration gives the library an application configuration.**  If it
has one after a registration of a multi-module build, it had one before, or the
registered file declares the default module and its path was free. -/
theorem holdsLibraryConfig_register (hrules : x.rules = RoutingRule.standard)
    (hsuppressions : x.suppressions = Suppression.standard) (hmulti : q.singleModule = false)
    (h : (x.registerOne q).HoldsLibraryConfig) :
    x.HoldsLibraryConfig ∨
      q.IsUnplacedConfig ∧ (q.template.withModule .lib).physicalPath ∉ x.paths := by
  obtain ⟨t, hstored, hkind, hmodule⟩ := h
  unfold registerOne register at hstored
  split at hstored
  next => exact Or.inl ⟨t, hstored, hkind, hmodule⟩
  next hkept =>
    rcases stored_of_insert hstored with hold | ⟨hkey, rfl, hfree⟩
    · exact Or.inl ⟨t, hold, hkind, hmodule⟩
    -- the file is new: its route led into the library
    have hdeclared : q.template.kind = .properties := hkind
    have hresource : q.template.kind ≠ .resource := by rw [hdeclared]; decide
    unfold route at hkey hmodule hfree
    rw [hrules] at hkey hmodule hfree
    obtain ⟨hroute, hscope, hfrom⟩ := Route.standard_into_lib hresource hmodule
    rw [hroute] at hkey hfree
    have hkey : q.key = "application-config" := hkey.symm
    rcases hfrom with hlib | hdefault
    · rw [hkey, hmulti, isSuppressed_of_lib hsuppressions hdeclared hlib] at hkept
      exact absurd rfl hkept
    · exact Or.inr ⟨⟨hdeclared, hkey, hdefault, hscope⟩, hfree⟩

/-- An application configuration that declares the default module gets into the
library if its path is free. -/
theorem holdsLibraryConfig_of_isUnplacedConfig (hrules : x.rules = RoutingRule.standard)
    (hsuppressions : x.suppressions = Suppression.standard) (hmulti : q.singleModule = false)
    (hq : q.IsUnplacedConfig) (hfree : (q.template.withModule .lib).physicalPath ∉ x.paths) :
    (x.registerOne q).HoldsLibraryConfig := by
  have hkept : x.isSuppressed q.key q.template q.singleModule = false := by
    rw [hq.key]
    exact isSuppressed_of_default hsuppressions hq.module _
  have hroute : x.route q = ⟨.lib, none⟩ := by
    have hroutable : Route.isRoutable q.template = true := by
      rw [Route.isRoutable, hq.kind, hq.module]
      rfl
    have hkey : q.key ≠ clusterManifestKey := by rw [hq.key]; decide
    unfold route
    rw [hrules, Route.ofRules_standard]
    simp [hroutable, hkey, hq.scope, hmulti, hq.module]
  have hregister : x.registerOne q = (x.insert q.key (q.template.withModule .lib)).1 := by
    unfold registerOne
    rw [register_of_not_isSuppressed hkept, hroute]
    rfl
  refine ⟨q.template.withModule .lib, ?_, hq.kind, rfl⟩
  rw [hregister, find?_insert hfree, if_pos hq.key.symm]

/-! ## Registrations one after the other -/

/-- **Registrations one after the other.** -/
def registerAll (x : TemplateIndex) (questions : List RoutingQuestion) : TemplateIndex :=
  questions.foldl registerOne x

theorem registerAll_append (x : TemplateIndex) (before after : List RoutingQuestion) :
    x.registerAll (before ++ after) = (x.registerAll before).registerAll after :=
  List.foldl_append

theorem rules_registerAll (x : TemplateIndex) (questions : List RoutingQuestion) :
    (x.registerAll questions).rules = x.rules := by
  induction questions generalizing x with
  | nil => rfl
  | cons q questions ih => exact (ih _).trans (rules_register ..)

theorem suppressions_registerAll (x : TemplateIndex) (questions : List RoutingQuestion) :
    (x.registerAll questions).suppressions = x.suppressions := by
  induction questions generalizing x with
  | nil => rfl
  | cons q questions ih => exact (ih _).trans (suppressions_register ..)

/-- **Where an application configuration of the library comes from**: it was there
before, or one of the registered files declared the default module and found its
path free. -/
theorem holdsLibraryConfig_registerAll (hrules : x.rules = RoutingRule.standard)
    (hsuppressions : x.suppressions = Suppression.standard)
    (hmulti : ∀ q ∈ questions, q.singleModule = false)
    (h : (x.registerAll questions).HoldsLibraryConfig) :
    x.HoldsLibraryConfig ∨ ∃ before q after, questions = before ++ q :: after ∧
      q.IsUnplacedConfig ∧
        (q.template.withModule .lib).physicalPath ∉ (x.registerAll before).paths := by
  induction questions generalizing x with
  | nil => exact Or.inl h
  | cons q questions ih =>
    have hfirst := hmulti q List.mem_cons_self
    have hrest := fun r hr => hmulti r (List.mem_cons_of_mem q hr)
    rcases ih ((rules_register ..).trans hrules) ((suppressions_register ..).trans hsuppressions)
      hrest h with hnext | ⟨before, r, after, rfl, hr, hfree⟩
    · refine (holdsLibraryConfig_register hrules hsuppressions hfirst hnext).imp_right ?_
      rintro ⟨hq, hfree⟩
      exact ⟨[], q, questions, rfl, hq, hfree⟩
    · exact Or.inr ⟨q :: before, r, after, rfl, hr, hfree⟩

/-- **When the library never gets an application configuration.**  In a multi-module
build with the standard rules it gets none from any sequence of registrations in
which every application configuration that declares the default module, if there is
one for the shared scope, finds its path taken; and it gets one from every other. -/
theorem never_holdsLibraryConfig_iff (hmulti : ∀ q ∈ questions, q.singleModule = false) :
    (∀ before, before <+: questions → ¬ (empty.registerAll before).HoldsLibraryConfig) ↔
      ∀ before q after, questions = before ++ q :: after → q.IsUnplacedConfig →
        (q.template.withModule .lib).physicalPath ∈ (empty.registerAll before).paths := by
  constructor
  · rintro hnever before q after rfl hq
    refine Classical.not_not.1 fun hfree => hnever (before ++ [q]) ⟨after, by simp⟩ ?_
    have hone : q.singleModule = false := hmulti q (by simp)
    rw [registerAll_append]
    exact holdsLibraryConfig_of_isUnplacedConfig (rules_registerAll ..)
      (suppressions_registerAll ..) hone hq hfree
  · rintro htaken before ⟨rest, rfl⟩ hholds
    have hbefore : ∀ q ∈ before, q.singleModule = false :=
      fun q hq => hmulti q (List.mem_append_left rest hq)
    rcases holdsLibraryConfig_registerAll rfl rfl hbefore hholds with
      hempty | ⟨first, q, after, rfl, hq, hfree⟩
    · obtain ⟨t, hstored, -⟩ := hempty
      cases hstored
    · exact hfree (htaken first q (after ++ rest) (by simp) hq)

/-- The configuration of an application, declared for a module. -/
def applicationConfig (module : Module) : RoutingQuestion where
  key := "application-config"
  template := .new module "application.properties" (.properties .application)
  scope := .shared
  singleModule := false

/-- Another file of that path. -/
def sampleConfig : RoutingQuestion :=
  { applicationConfig .lib with
    key := "sample", template := .new .lib "application.properties" (.text "a=b") }

/-- One that declares the library is dropped, and so is one that declares the default
module when its path is taken. -/
theorem configs_dropped :
    ¬ HoldsLibraryConfig
      (empty.registerAll [applicationConfig .lib, sampleConfig, applicationConfig .default]) := by
  refine (never_holdsLibraryConfig_iff (by simp [applicationConfig, sampleConfig])).2 ?_ _
    (List.prefix_refl _)
  intro before q after hsplit hq
  -- the three places where a registration can stand
  rcases before with _ | ⟨a, _ | ⟨b, _ | ⟨c, before⟩⟩⟩ <;>
    simp only [List.cons_append, List.nil_append, List.cons.injEq] at hsplit
  · obtain ⟨rfl, -⟩ := hsplit
    exact absurd hq.module (by decide)
  · obtain ⟨-, rfl, -⟩ := hsplit
    exact absurd hq.kind (by decide)
  · obtain ⟨rfl, rfl, rfl, -⟩ := hsplit
    decide
  · simp at hsplit

/-- One that declares the default module gets into the library if its path is free. -/
theorem default_config_stored :
    (applicationConfig .default).singleModule = false ∧
      (empty.registerAll [applicationConfig .default]).HoldsLibraryConfig :=
  ⟨rfl, _, rfl, rfl, rfl⟩

end TemplateIndex

end Fanout
