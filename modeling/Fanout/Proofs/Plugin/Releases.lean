import Fanout.Proofs.Plugin.Sets

/-!
# Releases that are listed once

A set compares plugins by all their fields, and one of the fields of a Gradle plugin is the
artifact to look its version up with.  A lookup clears that field, but a plugin that is
added with a version needs no lookup and keeps it.  Such a plugin and one of the same id and
version that came in another way are two entries of a set, and that is the only way in which
a release can be listed twice.  Maven plugins have no such field left once they are stored.

## Main definitions

* `PluginSets.OnePerRelease` — no release is listed twice.
* `PluginSets.Brings` — an addition brings a plugin into the set of a module.

## Main statements

* `Plugin.of_settled_gradle_lookup` — what is left to look up was there from the start.
* `PluginSets.onePerRelease_iff` — when no release is listed twice.
-/

namespace Fanout

variable {known : Resolver} {id artifact : String} {version? lookup? : Option String}

/-! ## What is left to look up -/

/-- **An artifact that a settled plugin still has** is one that it was added with, beside a
version. -/
theorem Plugin.of_settled_gradle_lookup {p : Plugin}
    (h : p.settled known = .ok (.gradle id version? (some artifact))) :
    p = .gradle id version? (some artifact) ∧ ∃ version, version? = some version := by
  have hdone := Plugin.needsLookup_of_settled h
  have hversion : ∃ version, version? = some version := by
    refine Option.ne_none_iff_exists'.1 ?_
    rintro rfl
    cases hdone
  refine ⟨?_, hversion⟩
  unfold Plugin.settled at h
  split at h
  next hlookup =>
    -- a lookup would have cleared the artifact
    cases p with
    | gradle id' version?' lookup?' =>
      cases lookup?' with
      | none => cases hlookup
      | some artifact' =>
        obtain ⟨c, -, hr⟩ := Fault.bind_ok h
        cases Except.ok.inj hr
    | maven group? artifact' version?' needsLookup =>
      obtain ⟨c, -, hr⟩ := Fault.bind_ok h
      cases Except.ok.inj hr
  next => exact Except.ok.inj h

namespace PluginSets

variable {policy : PropagationPolicy} {adds : List (Target × Plugin)} {t : Target} {r : Plugin}

/-- **No release is listed twice**: Gradle plugins of one id and one version are one
entry. -/
def OnePerRelease (set : SortedSet Plugin) : Prop :=
  ∀ id version? lookup? lookup?', .gradle id version? lookup? ∈ set →
    .gradle id version? lookup?' ∈ set → lookup? = lookup?'

/-- **An addition brings a plugin into the set of a module**, whether it is made under the
module's own target or the policy propagates the plugin. -/
def Brings (policy : PropagationPolicy) (known : Resolver) (adds : List (Target × Plugin))
    (t : Target) (p r : Plugin) : Prop :=
  ∃ u, (u, p) ∈ adds ∧ p.settled known = .ok r ∧
    (t = u ∨ t = .shared ∧ policy.propagates r = true)

/-- What is in a set was brought there. -/
theorem mem_plugins_iff_brings : r ∈ (addAll known (empty policy) adds).plugins t ↔
    ∃ p, Brings policy known adds t p r := by
  rw [mem_plugins_addAll, or_iff_left (notMem_plugins_empty policy t r)]
  exact exists_comm

/-- A plugin that still has an artifact was brought as it is. -/
theorem Brings.of_lookup {p : Plugin}
    (h : Brings policy known adds t p (.gradle id version? (some artifact))) :
    ∃ version, version? = some version ∧ p = .gradle id (some version) (some artifact) := by
  obtain ⟨u, -, hsettled, -⟩ := h
  obtain ⟨hp, version, rfl⟩ := Plugin.of_settled_gradle_lookup hsettled
  exact ⟨version, rfl, hp⟩

/-- **One plugin that keeps its artifact is enough** for a release to be listed twice, and
without one no release is. -/
theorem onePerRelease_plugins_iff :
    OnePerRelease ((addAll known (empty policy) adds).plugins t) ↔
      ∀ id version artifact,
        Brings policy known adds t (.gradle id (some version) (some artifact))
          (.gradle id (some version) (some artifact)) →
        ∀ q lookup?, Brings policy known adds t q (.gradle id (some version) lookup?) →
          lookup? = some artifact := by
  constructor
  · intro hone id version artifact hkept q lookup? hother
    exact hone id (some version) lookup? (some artifact) (mem_plugins_iff_brings.2 ⟨q, hother⟩)
      (mem_plugins_iff_brings.2 ⟨_, hkept⟩)
  · intro hkept id version? lookup? lookup?' hmem hmem'
    -- of two entries that differ, one has an artifact, and the other one cannot but have it
    have hsame : ∀ {artifact other},
        .gradle id version? (some artifact) ∈ (addAll known (empty policy) adds).plugins t →
        .gradle id version? other ∈ (addAll known (empty policy) adds).plugins t →
        other = some artifact := by
      intro artifact other hartifact hother
      obtain ⟨p, hp⟩ := mem_plugins_iff_brings.1 hartifact
      obtain ⟨q, hq⟩ := mem_plugins_iff_brings.1 hother
      obtain ⟨version, rfl, rfl⟩ := hp.of_lookup
      exact hkept id version artifact hp q other hq
    cases lookup? with
    | some artifact => exact (hsame hmem hmem').symm
    | none =>
      cases lookup?' with
      | none => rfl
      | some artifact => exact hsame hmem' hmem

/-- **When no release is listed twice.**  In the set of a module no two Gradle plugins have
one id and one version exactly when every plugin that was brought there with both a version
and an artifact meets there no other plugin of its id and version that has another artifact
or none.  So it is in every module if no plugin is added with both.  Of Maven plugins no two
have one group, artifact and version in any case. -/
theorem onePerRelease_iff (policy : PropagationPolicy) (known : Resolver)
    (adds : List (Target × Plugin)) :
    (∀ t, OnePerRelease ((addAll known (empty policy) adds).plugins t) ↔
      ∀ id version artifact,
        Brings policy known adds t (.gradle id (some version) (some artifact))
          (.gradle id (some version) (some artifact)) →
        ∀ q lookup?, Brings policy known adds t q (.gradle id (some version) lookup?) →
          lookup? = some artifact) ∧
    ((∀ u id version artifact, (u, .gradle id (some version) (some artifact)) ∉ adds) →
      ∀ t, OnePerRelease ((addAll known (empty policy) adds).plugins t)) ∧
    ∀ t group? artifact version? needsLookup needsLookup',
      .maven group? artifact version? needsLookup ∈
        (addAll known (empty policy) adds).plugins t →
      .maven group? artifact version? needsLookup' ∈
        (addAll known (empty policy) adds).plugins t →
      needsLookup = needsLookup' := by
  refine ⟨fun t => onePerRelease_plugins_iff, ?_, ?_⟩
  · intro hnone t
    rw [onePerRelease_plugins_iff]
    rintro id version artifact ⟨u, hadded, -⟩
    exact absurd hadded (hnone u id version artifact)
  · intro t group? artifact version? needsLookup needsLookup' hmem hmem'
    have hsettled : ∀ {r}, r ∈ (addAll known (empty policy) adds).plugins t →
        r.needsLookup = false := by
      intro r hr
      obtain ⟨p, u, -, hp, -⟩ := mem_plugins_iff_brings.1 hr
      exact Plugin.needsLookup_of_settled hp
    exact (hsettled hmem).trans (hsettled hmem').symm

/-- The coordinate of a tool. -/
def toolKnown : Resolver := fun artifact =>
  if artifact = "tool" then some ⟨"org.acme", "tool", "1.0"⟩ else none

/-- A tool that is looked up under one target and written with its version under another. -/
def toolAdds : List (Target × Plugin) :=
  [(.aws, .gradle "org.acme.tool" none (some "tool")),
    (.gcp, .gradle "org.acme.tool" (some "1.0") none)]

/-- The shared module lists the tool once, although it comes to it in two ways. -/
theorem tool_listed_once :
    OnePerRelease ((addAll toolKnown (empty .standard) toolAdds).plugins .shared) ∧
    (.gradle "org.acme.tool" (some "1.0") none) ∈
      (addAll toolKnown (empty .standard) toolAdds).plugins .shared := by
  obtain ⟨-, hone, -⟩ := onePerRelease_iff .standard toolKnown toolAdds
  refine ⟨hone ?_ .shared, by decide⟩
  intro u id version artifact hadded
  simp [toolAdds] at hadded

/-- A tool that is written with its version twice, the second time with its artifact. -/
def toolAddsTwice : List (Target × Plugin) :=
  [(.aws, .gradle "org.acme.tool" (some "1.0") none),
    (.aws, .gradle "org.acme.tool" (some "1.0") (some "tool"))]

/-- Both the target's module and the shared one list it twice. -/
theorem tool_listed_twice :
    ¬ (∀ (policy : PropagationPolicy) (known : Resolver) (adds : List (Target × Plugin)) t,
      OnePerRelease ((addAll known (empty policy) adds).plugins t)) ∧
    ¬ OnePerRelease ((addAll toolKnown (empty .standard) toolAddsTwice).plugins .aws) ∧
    ¬ OnePerRelease ((addAll toolKnown (empty .standard) toolAddsTwice).plugins .shared) := by
  have htwice : ∀ t, (.gradle "org.acme.tool" (some "1.0") none) ∈
        (addAll toolKnown (empty .standard) toolAddsTwice).plugins t →
      (.gradle "org.acme.tool" (some "1.0") (some "tool")) ∈
        (addAll toolKnown (empty .standard) toolAddsTwice).plugins t →
      ¬ OnePerRelease ((addAll toolKnown (empty .standard) toolAddsTwice).plugins t) := by
    intro t hplain hkept hone
    cases hone _ _ _ _ hplain hkept
  have haws := htwice .aws (by decide) (by decide)
  exact ⟨fun hall => haws (hall _ _ _ _), haws, htwice .shared (by decide) (by decide)⟩

end PluginSets

end Fanout
