import Fanout.Plugin.Registry
import Fanout.Proofs.Text.Ends
import Fanout.Proofs.Text.Pieces

/-!
# Version rules

A version rule looks at the two ends of a coordinate.  It says nothing of fields, and on
a text with colons in unexpected places it may cut a field in two.  On three fields with
a rule whose versions hold no colon that cannot happen: the colon that the rule puts in
front of the old version is then the last one of the coordinate, so what is behind it is
the version, all of it.

## Main definitions

* `VersionRule.Applies` — a rule applies to a coordinate.
* `Registry.IsFirstRule` — no rule before it in the registry applies.

## Main statements

* `VersionRule.updated?_eq_some_iff` — what a rule makes of a coordinate.
* `VersionRule.oldVersion_eq` — on three fields the old version is the version.
* `Registry.find?_of_isFirstRule` — the first rule that applies, and no other, counts.
* `Registry.find?_updated` — all of it, for the coordinate of a plugin key.
-/

namespace Fanout

/-! ## One rule -/

namespace VersionRule

variable {rule : VersionRule} {coordinate head c : String}

/-- **A rule applies to a coordinate** that has its start in front, and a colon and its
old version at the end; the two may overlap. -/
def Applies (rule : VersionRule) (coordinate : String) : Prop :=
  (∃ rest, coordinate = rule.start ++ rest) ∧ ∃ head, coordinate = head ++ ":" ++ rule.oldVersion

/-- What a rule looks for at the end of a coordinate. -/
theorem toList_append_oldVersion (rule : VersionRule) (head : String) :
    (head ++ ":" ++ rule.oldVersion).toList = head.toList ++ ':' :: rule.oldVersion.toList := by
  simp

/-- The tests of a rule are those of the two ends of a coordinate. -/
theorem applies_iff : rule.Applies coordinate ↔
    (rule.start.toList.isPrefixOf coordinate.toList &&
      (':' :: rule.oldVersion.toList).isSuffixOf coordinate.toList) = true := by
  rw [Bool.and_eq_true, List.isPrefixOf_iff_prefix, List.isSuffixOf_iff_suffix]
  refine and_congr ?_ ?_
  · constructor
    · rintro ⟨rest, rfl⟩
      rw [String.toList_append]
      exact List.prefix_append _ _
    · rintro ⟨rest, hrest⟩
      refine ⟨String.ofList rest, String.toList_injective ?_⟩
      rw [String.toList_append, String.toList_ofList, hrest]
  · constructor
    · rintro ⟨head, rfl⟩
      rw [toList_append_oldVersion]
      exact List.suffix_append _ _
    · rintro ⟨head, hhead⟩
      refine ⟨String.ofList head, String.toList_injective ?_⟩
      rw [toList_append_oldVersion, String.toList_ofList, hhead]

theorem updated?_eq_none_iff : rule.updated? coordinate = none ↔ ¬ rule.Applies coordinate := by
  rw [applies_iff, updated?]
  split <;> simp_all

/-- A rule that applies cuts the old version off and puts the new one in its place. -/
theorem updated?_of_applies (h : rule.Applies (head ++ ":" ++ rule.oldVersion)) :
    rule.updated? (head ++ ":" ++ rule.oldVersion) = some (head ++ ":" ++ rule.newVersion) := by
  have hhead : (head.toList ++ ':' :: rule.oldVersion.toList).take
      ((head.toList ++ ':' :: rule.oldVersion.toList).length -
        (':' :: rule.oldVersion.toList).length) = head.toList := by
    rw [List.length_append, Nat.add_sub_cancel, List.take_left]
  rw [updated?, if_pos (applies_iff.1 h), toList_append_oldVersion, hhead, String.ofList_toList]

/-- **What a rule makes of a coordinate.** -/
theorem updated?_eq_some_iff : rule.updated? coordinate = some c ↔
    (∃ rest, coordinate = rule.start ++ rest) ∧
      ∃ head, coordinate = head ++ ":" ++ rule.oldVersion ∧ c = head ++ ":" ++ rule.newVersion := by
  constructor
  · intro h
    have happlies : rule.Applies coordinate := by
      refine Classical.not_not.1 fun hnot => ?_
      rw [updated?_eq_none_iff.2 hnot] at h
      cases h
    obtain ⟨hstart, head, rfl⟩ := happlies
    rw [updated?_of_applies ⟨hstart, head, rfl⟩] at h
    exact ⟨hstart, head, rfl, (Option.some.inj h).symm⟩
  · rintro ⟨hstart, head, rfl, rfl⟩
    exact updated?_of_applies ⟨hstart, head, rfl⟩

/-- **On three fields the old version is the version**, if it holds no colon, and in front
of it stand group and artifact. -/
theorem oldVersion_eq {group artifact version : String} (hold : ':' ∉ rule.oldVersion.toList)
    (hfields : Text.split (· = ':') (head ++ ":" ++ rule.oldVersion) = [group, artifact, version]) :
    rule.oldVersion = version ∧ head = group ++ ":" ++ artifact := by
  obtain ⟨htext, -, -, hversion⟩ := Text.split_eq_fields_iff.1 hfields
  -- both texts are cut at their last colon
  have hcut : head.toList ++ ':' :: rule.oldVersion.toList =
      (group ++ ":" ++ artifact).toList ++ ':' :: version.toList := by
    rw [← toList_append_oldVersion, htext]
    simp
  have hends := congrArg (Text.cutLast ':') hcut
  rw [Text.cutLast_append hold, Text.cutLast_append hversion] at hends
  obtain ⟨hhead, holdVersion⟩ := Prod.mk.inj (Option.some.inj hends)
  exact ⟨String.toList_injective holdVersion, String.toList_injective hhead⟩

end VersionRule

/-! ## The rules of a registry -/

namespace Registry

variable {r : Registry} {key coordinate head c : String} {rule : VersionRule}

/-- **The first rule that applies to a coordinate.** -/
def IsFirstRule (r : Registry) (coordinate : String) (rule : VersionRule) : Prop :=
  rule.Applies coordinate ∧
    ∃ before after, r.rules = before ++ rule :: after ∧ ∀ q ∈ before, ¬ q.Applies coordinate

/-- The rules leave it open to no plugin key whether it has a coordinate. -/
theorem find?_eq_none_iff : r.find? key = none ↔ r.plugins.find? key = none :=
  Option.map_eq_none_iff

/-- A coordinate to which no rule applies stays as it is. -/
theorem find?_of_forall_not (h : r.plugins.find? key = some coordinate)
    (hrules : ∀ rule ∈ r.rules, ¬ rule.Applies coordinate) : r.find? key = some coordinate := by
  have hnone : (r.rules.findSome? fun rule => rule.updated? coordinate) = none :=
    List.findSome?_eq_none_iff.2 fun rule hrule =>
      VersionRule.updated?_eq_none_iff.2 (hrules rule hrule)
  rw [find?, h, Option.map_some, hnone]
  rfl

/-- **The first rule that applies counts**, and no other one has a say in what it makes of
the coordinate. -/
theorem find?_of_isFirstRule (h : r.plugins.find? key = some (head ++ ":" ++ rule.oldVersion))
    (hfirst : r.IsFirstRule (head ++ ":" ++ rule.oldVersion) rule) :
    r.find? key = some (head ++ ":" ++ rule.newVersion) := by
  obtain ⟨happlies, before, after, hrules, hbefore⟩ := hfirst
  have hsome : (r.rules.findSome? fun q => q.updated? (head ++ ":" ++ rule.oldVersion)) =
      some (head ++ ":" ++ rule.newVersion) :=
    List.findSome?_eq_some_iff.2 ⟨before, rule, after, hrules,
      VersionRule.updated?_of_applies happlies,
      fun q hq => VersionRule.updated?_eq_none_iff.2 (hbefore q hq)⟩
  rw [find?, h, Option.map_some, hsome]
  rfl

/-- A coordinate is given of the releases that the registry has. -/
theorem coordinate_isOk_iff {id version : String} :
    (∃ c, r.coordinate id version = .ok c) ↔ (r.find? (id ++ ":" ++ version)).isSome = true := by
  unfold coordinate
  cases r.find? (id ++ ":" ++ version) <;> simp

theorem coordinate_eq_ok_iff {id version : String} :
    r.coordinate id version = .ok c ↔ r.find? (id ++ ":" ++ version) = some c := by
  unfold coordinate
  cases r.find? (id ++ ":" ++ version) <;> simp

/-- The fault names the release that has no entry. -/
theorem coordinate_eq_error_iff {id version : String} {fault : Fault} :
    r.coordinate id version = .error fault ↔ r.plugins.find? (id ++ ":" ++ version) = none ∧
      fault = .unknownPluginCoordinate (id ++ ":" ++ version) := by
  rw [← find?_eq_none_iff]
  unfold coordinate
  cases r.find? (id ++ ":" ++ version) <;> simp [eq_comm]

/-- If a rule applies, then there is a first one. -/
theorem exists_isFirstRule (h : ∃ rule ∈ r.rules, rule.Applies coordinate) :
    ∃ rule, r.IsFirstRule coordinate rule := by
  have hsome : (r.rules.findSome? fun q => q.updated? coordinate).isSome = true := by
    obtain ⟨rule, hrule, happlies⟩ := h
    refine List.findSome?_isSome_iff.2 ⟨rule, hrule, ?_⟩
    rw [Option.isSome_iff_ne_none, ne_eq, VersionRule.updated?_eq_none_iff]
    exact not_not_intro happlies
  obtain ⟨c, hc⟩ := Option.isSome_iff_exists.1 hsome
  obtain ⟨before, rule, after, hrules, hupdated, hbefore⟩ := List.findSome?_eq_some_iff.1 hc
  obtain ⟨hstart, head, hhead, -⟩ := VersionRule.updated?_eq_some_iff.1 hupdated
  exact ⟨rule, ⟨hstart, head, hhead⟩, before, after, hrules,
    fun q hq => VersionRule.updated?_eq_none_iff.1 (hbefore q hq)⟩

/-- **The coordinate of a plugin key.**  There is one exactly when the registry has an
entry under the key.  It is the entry, with the old version of the first rule that
applies to it replaced by the new one; if no rule applies, it is the entry itself.  So an
entry of three fields, under rules whose versions hold no colon, keeps its group and its
artifact, and its version changes only if it is the old version of that rule. -/
theorem find?_updated (r : Registry) (key : String) :
    (r.find? key = none ↔ r.plugins.find? key = none) ∧
    ∀ entry, r.plugins.find? key = some entry →
      ((∀ rule ∈ r.rules, ¬ rule.Applies entry) → r.find? key = some entry) ∧
      (∀ rule, r.IsFirstRule entry rule → ∃ head, entry = head ++ ":" ++ rule.oldVersion ∧
        r.find? key = some (head ++ ":" ++ rule.newVersion)) ∧
      ∀ group artifact version, Text.split (· = ':') entry = [group, artifact, version] →
        (∀ rule ∈ r.rules, ':' ∉ rule.oldVersion.toList ∧ ':' ∉ rule.newVersion.toList) →
        ∃ found version', r.find? key = some found ∧
          Text.split (· = ':') found = [group, artifact, version'] ∧
          (version' ≠ version → ∃ rule, r.IsFirstRule entry rule ∧
            rule.oldVersion = version ∧ rule.newVersion = version') := by
  refine ⟨find?_eq_none_iff, fun entry hentry => ⟨find?_of_forall_not hentry, ?_, ?_⟩⟩
  · intro rule hfirst
    obtain ⟨head, rfl⟩ := hfirst.1.2
    exact ⟨head, rfl, find?_of_isFirstRule hentry hfirst⟩
  · intro group artifact version hfields hcolons
    by_cases hsome : ∃ rule ∈ r.rules, rule.Applies entry
    · obtain ⟨rule, hfirst⟩ := exists_isFirstRule hsome
      obtain ⟨head, rfl⟩ := hfirst.1.2
      have hrule : rule ∈ r.rules := by
        obtain ⟨-, before, after, hrules, -⟩ := hfirst
        rw [hrules]
        exact List.mem_append_right _ List.mem_cons_self
      obtain ⟨hold, hnew⟩ := hcolons rule hrule
      obtain ⟨hversion, rfl⟩ := VersionRule.oldVersion_eq hold hfields
      obtain ⟨-, hparts⟩ := (Text.split_eq_iff (List.cons_ne_nil _ _)).1 hfields
      refine ⟨_, rule.newVersion, find?_of_isFirstRule hentry hfirst, ?_,
        fun _ => ⟨rule, hfirst, hversion, rfl⟩⟩
      refine (Text.split_eq_iff (List.cons_ne_nil _ _)).2 ⟨by simp [List.intercalate], ?_⟩
      simp only [List.forall_mem_cons] at hparts ⊢
      exact ⟨hparts.1, hparts.2.1, hnew, List.forall_mem_nil _⟩
    · have hnone : ∀ rule ∈ r.rules, ¬ rule.Applies entry := fun rule hrule happlies =>
        hsome ⟨rule, hrule, happlies⟩
      exact ⟨entry, version, find?_of_forall_not hentry hnone, hfields,
        fun hne => absurd rfl hne⟩

/-- What a rule makes of a coordinate is not looked at by the next one. -/
example : (⟨.ofList [("tool:1", "org.acme:tool:1")],
    [⟨"org.acme:", "1", "2"⟩, ⟨"org.acme:", "2", "3"⟩]⟩ : Registry).find? "tool:1" =
      some "org.acme:tool:2" := by
  decide

end Registry

end Fanout
