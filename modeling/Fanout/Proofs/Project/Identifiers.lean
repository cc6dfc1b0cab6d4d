import Fanout.Project
import Fanout.Proofs.Text.Pieces
import Fanout.Proofs.Text.Words

/-!
# Identifiers of a project

The name of a class and the name of a property are made from the name of the project.
Separators go, and the first character of each word changes its case; nothing else is lost,
and nothing moves.  Since a change of case makes no separator and takes none away, an
identifier is one word, and making an identifier from it only changes the case of its first
character again.

## Main statements

* `Text.toNat_toUpper`, `Text.toNat_toLower` — what a change of case does to a code point.
* `Project.toList_className`, `Project.toList_propertyName` — both as changes of first
  characters.
* `Project.identifiers_of_name` — which characters the identifiers have, that they are the
  identifiers of a project named by them, and when they are empty.
-/

namespace Fanout.Text

/-! ## Upper and lower case -/

/-- Upper case is 32 code points below lower case, for the letters from `a` to `z`. -/
theorem toNat_toUpper (c : Char) :
    c.toUpper.toNat = if 97 ≤ c.toNat ∧ c.toNat ≤ 122 then c.toNat - 32 else c.toNat := by
  have hletter : 'a'.val ≤ c.val ∧ c.val ≤ 'z'.val ↔ 97 ≤ c.toNat ∧ c.toNat ≤ 122 := Iff.rfl
  -- code points are added modulo `2 ^ 32`
  have hshift : ('A'.val - 'a'.val).toNat = 2 ^ 32 - 32 := by decide
  unfold Char.toUpper
  split
  next h =>
    have hc : 97 ≤ c.val.toNat ∧ c.val.toNat ≤ 122 := hletter.1 h
    rw [if_pos (hletter.1 h)]
    show (c.val + ('A'.val - 'a'.val)).toNat = c.val.toNat - 32
    rw [UInt32.toNat_add, hshift]
    omega
  next h => rw [if_neg (mt hletter.2 h)]

/-- Lower case is as much above upper case, for the letters from `A` to `Z`. -/
theorem toNat_toLower (c : Char) :
    c.toLower.toNat = if 65 ≤ c.toNat ∧ c.toNat ≤ 90 then c.toNat + 32 else c.toNat := by
  have hletter : c.val ≥ 'A'.val ∧ c.val ≤ 'Z'.val ↔ 65 ≤ c.toNat ∧ c.toNat ≤ 90 := Iff.rfl
  have hshift : ('a'.val - 'A'.val).toNat = 32 := by decide
  unfold Char.toLower
  split
  next h =>
    have hc : 65 ≤ c.val.toNat ∧ c.val.toNat ≤ 90 := hletter.1 h
    rw [if_pos (hletter.1 h)]
    show (c.val + ('a'.val - 'A'.val)).toNat = c.val.toNat + 32
    rw [UInt32.toNat_add, hshift]
    omega
  next h => rw [if_neg (mt hletter.2 h)]

theorem toUpper_toUpper (c : Char) : c.toUpper.toUpper = c.toUpper := by
  refine Char.toNat_inj.1 ?_
  rw [toNat_toUpper, toNat_toUpper]
  split_ifs <;> omega

theorem toLower_toLower (c : Char) : c.toLower.toLower = c.toLower := by
  refine Char.toNat_inj.1 ?_
  rw [toNat_toLower, toNat_toLower]
  split_ifs <;> omega

/-- Lower case forgets the case there was. -/
theorem toLower_toUpper (c : Char) : c.toUpper.toLower = c.toLower := by
  refine Char.toNat_inj.1 ?_
  rw [toNat_toLower, toNat_toUpper, toNat_toLower]
  split_ifs <;> omega

end Fanout.Text

namespace Fanout.Project

/-! ## Separators -/

theorem separatesParts_eq : separatesParts = fun c => decide (c ∈ ['-', '_', '.']) := by
  funext c
  simp [separatesParts, Bool.or_assoc]

theorem separatesParts_iff {c : Char} :
    separatesParts c = true ↔ c.toNat = 45 ∨ c.toNat = 95 ∨ c.toNat = 46 := by
  have hchar : ∀ d : Char, c = d ↔ c.toNat = d.toNat := fun d => Char.toNat_inj.symm
  rw [separatesParts_eq, decide_eq_true_iff]
  simp [hchar]

/-- A change of case makes no separator and takes none away. -/
theorem separatesParts_toUpper (c : Char) : separatesParts c.toUpper = separatesParts c := by
  rw [Bool.eq_iff_iff, separatesParts_iff, separatesParts_iff, Text.toNat_toUpper]
  split_ifs <;> omega

theorem separatesParts_toLower (c : Char) : separatesParts c.toLower = separatesParts c := by
  rw [Bool.eq_iff_iff, separatesParts_iff, separatesParts_iff, Text.toNat_toLower]
  split_ifs <;> omega

/-! ## First characters -/

theorem capitalize_eq_modifyHead : capitalize = List.modifyHead Char.toUpper := by
  funext l
  cases l <;> rfl

theorem uncapitalize_eq_modifyHead : uncapitalize = List.modifyHead Char.toLower := by
  funext l
  cases l <;> rfl

theorem toList_className (p : Project) : p.className.toList =
    (Text.pieces separatesParts p.name.toList).flatMap (List.modifyHead Char.toUpper) := by
  rw [className, String.toList_ofList, capitalize_eq_modifyHead]

theorem toList_propertyName (p : Project) :
    p.propertyName.toList = p.className.toList.modifyHead Char.toLower := by
  rw [propertyName, String.toList_ofList, uncapitalize_eq_modifyHead]

/-- A text without separators has none after such a change of its first character
either. -/
theorem forall_modifyHead {f : Char → Char} (hf : ∀ c, separatesParts (f c) = separatesParts c)
    {l : List Char} (h : ∀ c ∈ l, separatesParts c = false) :
    ∀ c ∈ l.modifyHead f, separatesParts c = false := by
  cases l with
  | nil => exact h
  | cons d rest =>
    obtain ⟨hd, hrest⟩ := List.forall_mem_cons.1 h
    exact List.forall_mem_cons.2 ⟨(hf d).trans hd, hrest⟩

/-- No separator is left in the name of a class. -/
theorem not_separatesParts_className (p : Project) :
    ∀ c ∈ p.className.toList, separatesParts c = false := by
  rw [toList_className]
  intro c hc
  obtain ⟨piece, hpiece, hc⟩ := List.mem_flatMap.1 hc
  exact forall_modifyHead separatesParts_toUpper
    (fun d hd => Text.not_separator_of_mem_pieces hpiece hd) c hc

theorem not_separatesParts_propertyName (p : Project) :
    ∀ c ∈ p.propertyName.toList, separatesParts c = false := by
  rw [toList_propertyName]
  exact forall_modifyHead separatesParts_toLower p.not_separatesParts_className

/-! ## Identifiers of identifiers -/

/-- A name without separators is one word. -/
theorem toList_className_of_forall_not {name : String}
    (h : ∀ c ∈ name.toList, separatesParts c = false) (package : String) :
    (className ⟨name, package⟩).toList = name.toList.modifyHead Char.toUpper := by
  rw [toList_className, Text.pieces_of_forall_not h, List.flatMap_singleton]

theorem className_className (p : Project) (package : String) :
    className ⟨p.className, package⟩ = p.className := by
  refine String.toList_injective ?_
  rw [toList_className_of_forall_not p.not_separatesParts_className, toList_className p,
    Text.modifyHead_flatMap_modifyHead Text.toUpper_toUpper]

theorem propertyName_propertyName (p : Project) (package : String) :
    propertyName ⟨p.propertyName, package⟩ = p.propertyName := by
  have hcase : (Char.toLower ∘ Char.toUpper) ∘ Char.toLower = Char.toLower := by
    funext c
    rw [Function.comp_apply, Function.comp_apply, Text.toLower_toUpper,
      Text.toLower_toLower]
  refine String.toList_injective ?_
  rw [toList_propertyName,
    toList_className_of_forall_not p.not_separatesParts_propertyName, toList_propertyName p,
    List.modifyHead_modifyHead, List.modifyHead_modifyHead, hcase]

/-! ## Empty identifiers -/

theorem className_eq_empty_iff (p : Project) :
    p.className = "" ↔ ∀ c ∈ p.name.toList, separatesParts c = true := by
  have hplaces : (∀ c ∈ p.name.toList.zipIdx, separatesParts c.1 = true) ↔
      ∀ c ∈ p.name.toList.zipIdx.map Prod.fst, separatesParts c = true := by
    rw [List.forall_mem_map]
  rw [List.zipIdx_map_fst] at hplaces
  rw [← hplaces, ← String.toList_eq_nil_iff, toList_className, Text.flatMap_pieces,
    List.map_eq_nil_iff, List.filter_eq_nil_iff]
  simp

theorem propertyName_eq_empty_iff (p : Project) :
    p.propertyName = "" ↔ ∀ c ∈ p.name.toList, separatesParts c = true := by
  rw [← className_eq_empty_iff, ← String.toList_eq_nil_iff, ← String.toList_eq_nil_iff,
    toList_propertyName, List.modifyHead_eq_nil_iff]

/-! ## Main statement -/

/-- **The identifiers of a project.**  The name of a class has the characters of the
project's name that are no separators, in their order, and a character differs from the one
in the name only if a word starts with it: it is in upper case then.  The name of a property
differs from it only in the first character, which is in lower case.  A project named by one
of them has the same one, and both are empty exactly when the name has only separators. -/
theorem identifiers_of_name (p : Project) :
    p.className.toList =
        ((p.name.toList.zipIdx.filter fun c => c.1 ∉ ['-', '_', '.']).map fun c =>
          if Text.StartsWord (· ∈ ['-', '_', '.']) p.name.toList c.2 then c.1.toUpper else c.1) ∧
      (p.propertyName.toList.head? = p.className.toList.head?.map Char.toLower ∧
        p.propertyName.toList.tail = p.className.toList.tail) ∧
      (∀ package, className ⟨p.className, package⟩ = p.className) ∧
      (∀ package, propertyName ⟨p.propertyName, package⟩ = p.propertyName) ∧
      (p.className = "" ↔ ∀ c ∈ p.name.toList, c ∈ ['-', '_', '.']) ∧
      (p.propertyName = "" ↔ ∀ c ∈ p.name.toList, c ∈ ['-', '_', '.']) := by
  have hall : (∀ c ∈ p.name.toList, separatesParts c = true) ↔
      ∀ c ∈ p.name.toList, c ∈ ['-', '_', '.'] := by
    rw [separatesParts_eq]
    simp only [decide_eq_true_eq]
  refine ⟨?_, ⟨?_, ?_⟩, p.className_className, p.propertyName_propertyName,
    p.className_eq_empty_iff.trans hall, p.propertyName_eq_empty_iff.trans hall⟩
  · rw [toList_className, Text.flatMap_pieces, separatesParts_eq]
    simp only [decide_not]
  · rw [toList_propertyName, List.head?_modifyHead]
  · rw [toList_propertyName, List.tail_modifyHead]

/-- Separators may stand at the ends and next to each other. -/
example : className ⟨"_order-.service", "org.acme"⟩ = "OrderService" ∧
    propertyName ⟨"_order-.service", "org.acme"⟩ = "orderService" := by
  decide

end Fanout.Project
