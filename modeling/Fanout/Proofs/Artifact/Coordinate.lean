import Fanout.Artifact.Coordinate
import Fanout.Proofs.Text.Pieces

/-!
# Written coordinates

A coordinate is written as its three parts with colons between them, and that is a text
from which it can be read again as long as no part is empty or has a colon of its own.
Nothing else is read: a text is a written coordinate, or the fault gives it back.

## Main definitions

* `Coordinate.IsPart` — what can stand between the colons.
* `Coordinate.HasParts` — a coordinate that can be read again.

## Main statements

* `Coordinate.parse_eq_ok_iff` — which coordinate is read from a text.
* `Coordinate.parse_written` — reading and writing are inverse to each other.
-/

namespace Fanout.Coordinate

variable {c : Coordinate} {s : String} {fault : Fault}

/-- **Part of a written coordinate**: a text that is not empty and has no colon. -/
def IsPart (part : String) : Prop := part ≠ "" ∧ ':' ∉ part.toList

/-- **All three parts can stand between colons.** -/
structure HasParts (c : Coordinate) : Prop where
  group : IsPart c.group
  artifact : IsPart c.artifact
  version : IsPart c.version

/-- **Which coordinate is read**: the one that is written so, if its parts are such that
there is no other. -/
theorem parse_eq_ok_iff : parse s = .ok c ↔ s = c.text ∧ c.HasParts := by
  constructor
  · intro h
    unfold parse at h
    split at h
    next group artifact version hsplit =>
      obtain ⟨hs, hgroup, hartifact, hversion⟩ := Text.split_eq_fields_iff.1 hsplit
      split at h
      next => cases h
      next hnone =>
        obtain rfl := Except.ok.inj h
        simp only [Bool.or_eq_true, not_or, String.isEmpty_iff] at hnone
        exact ⟨hs, ⟨hnone.1.1, hgroup⟩, ⟨hnone.1.2, hartifact⟩, ⟨hnone.2, hversion⟩⟩
    next => cases h
  · rintro ⟨rfl, hgroup, hartifact, hversion⟩
    have hsplit : Text.split (· = ':') c.text = [c.group, c.artifact, c.version] :=
      Text.split_eq_fields_iff.2 ⟨rfl, hgroup.2, hartifact.2, hversion.2⟩
    unfold parse
    rw [hsplit]
    simp [hgroup.1, hartifact.1, hversion.1]

/-- What is not read is given back by the fault. -/
theorem parse_eq_error_iff : parse s = .error fault ↔
    (¬ ∃ c, parse s = .ok c) ∧ fault = .invalidCoordinate s := by
  have hfault : ∀ fault', parse s = .error fault' → fault' = .invalidCoordinate s := by
    intro fault' h
    unfold parse at h
    split at h
    · split at h
      · exact (Except.error.inj h).symm
      · cases h
    · exact (Except.error.inj h).symm
  cases hparse : parse s with
  | ok c => simp
  | error fault' =>
    rw [hfault fault' hparse]
    simp [eq_comm]

/-- **Reading and writing coordinates.**  A text is read exactly when it is three parts
with colons between them, each of them not empty and without a colon, and the coordinate
that is read is written as that text.  The other way round, a coordinate is read from what
it is written as exactly when its parts are such.  So no two texts are read as one
coordinate, and no two coordinates that are read are written alike.  The fault gives back a
text that is not read. -/
theorem parse_written :
    (∀ s, (∃ c, parse s = .ok c) ↔ ∃ group artifact version,
      IsPart group ∧ IsPart artifact ∧ IsPart version ∧
        s = group ++ ":" ++ artifact ++ ":" ++ version) ∧
    (∀ s c, parse s = .ok c → c.text = s ∧ parse c.text = .ok c) ∧
    (∀ c : Coordinate, parse c.text = .ok c ↔ c.HasParts) ∧
    (∀ s s' c, parse s = .ok c → parse s' = .ok c → s = s') ∧
    (∀ c c' : Coordinate, c.HasParts → c'.HasParts → c.text = c'.text → c = c') ∧
    ∀ s fault, parse s = .error fault ↔
      (¬ ∃ c, parse s = .ok c) ∧ fault = .invalidCoordinate s := by
  refine ⟨fun s => ?_, fun s c h => ?_, fun c => ?_, fun s s' c h h' => ?_,
    fun c c' h h' htext => ?_, fun s fault => parse_eq_error_iff⟩
  · constructor
    · rintro ⟨c, h⟩
      obtain ⟨hs, hgroup, hartifact, hversion⟩ := parse_eq_ok_iff.1 h
      exact ⟨c.group, c.artifact, c.version, hgroup, hartifact, hversion, hs⟩
    · rintro ⟨group, artifact, version, hgroup, hartifact, hversion, hs⟩
      exact ⟨⟨group, artifact, version⟩, parse_eq_ok_iff.2 ⟨hs, hgroup, hartifact, hversion⟩⟩
  · obtain ⟨hs, -⟩ := parse_eq_ok_iff.1 h
    rw [← hs]
    exact ⟨rfl, h⟩
  · rw [parse_eq_ok_iff, and_iff_right rfl]
  · rw [(parse_eq_ok_iff.1 h).1, (parse_eq_ok_iff.1 h').1]
  · have hc : parse c.text = .ok c := parse_eq_ok_iff.2 ⟨rfl, h⟩
    have hc' : parse c.text = .ok c' := parse_eq_ok_iff.2 ⟨htext, h'⟩
    rw [hc] at hc'
    exact Except.ok.inj hc'

/-- A colon too many does not make a coordinate, wherever it stands. -/
example : parse ":a:b" = .error (.invalidCoordinate ":a:b") ∧
    parse "a:b:c:" = .error (.invalidCoordinate "a:b:c:") ∧
    parse "a:b:c" = .ok ⟨"a", "b", "c"⟩ := ⟨rfl, rfl, rfl⟩

end Fanout.Coordinate
