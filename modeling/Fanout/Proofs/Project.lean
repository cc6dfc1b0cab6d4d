import Fanout.Project
import Fanout.Proofs.Text.Ends
import Fanout.Target

/-!
# Identities of modules

A module has the package of its project and a name of its own.  The identity is
read from the two written one after the other, so it is what it should be only if
reading leaves the package as it is: a package that was read from a qualified name
has no blank in front that a second reading would take away.

With the name it is not as simple.  What stands behind the last dot is a name, and reading
it again changes nothing; but a text with nothing behind its last dot is taken for a name
as a whole, and only then its outer dots go.

## Main definitions

* `Project.IsName` — a name that can be read again.

## Main statements

* `Project.parse_package` — what a package that was read is like.
* `Project.forModule_parse` — the identity of a target's module.
* `Project.parse_again_iff` — which written projects are read again as they are.
-/

namespace Fanout.Project

/-- **A package that was read from a qualified name** is not empty and does not
start with a blank. -/
theorem parse_package (qualified : String) :
    ∃ c, (parse qualified).packageName.toList.head? = some c ∧ Text.isBlank c = false := by
  have hfallback : ∃ c, fallbackPackage.toList.head? = some c ∧ Text.isBlank c = false :=
    ⟨'c', by decide, by decide⟩
  unfold parse
  dsimp only
  split
  next => exact hfallback
  next package name hcut =>
    split
    next => exact hfallback
    next hparts =>
      -- the package is in front of the trimmed text
      cases package with
      | nil => simp at hparts
      | cons c rest =>
        obtain ⟨-, htrimmed⟩ := Text.of_cutLast hcut
        refine ⟨c, by simp, Text.not_of_head?_trimEnds (l := qualified.toList) ?_⟩
        rw [htrimmed]
        rfl

/-- Reading a package and a name that does not hold a dot gives these two back. -/
theorem parse_append {package name : String} {c d : Char} (hfirst : package.toList.head? = some c)
    (hc : Text.isBlank c = false) (hlast : name.toList.getLast? = some d)
    (hd : Text.isBlank d = false) (hdot : '.' ∉ name.toList) :
    parse (package ++ "." ++ name) = ⟨name, package⟩ := by
  have htext : (package ++ "." ++ name).toList = package.toList ++ '.' :: name.toList := by simp
  have htrimmed : Text.trimEnds Text.isBlank (package.toList ++ '.' :: name.toList) =
      package.toList ++ '.' :: name.toList :=
    Text.trimEnds_append hfirst hc (by rw [List.getLast?_cons, hlast, Option.getD_some]) hd
  have hpackage : package.toList.isEmpty = false := by
    cases hl : package.toList with
    | nil => rw [hl] at hfirst; cases hfirst
    | cons => rfl
  have hname : name.toList.isEmpty = false := by
    cases hl : name.toList with
    | nil => rw [hl] at hlast; cases hlast
    | cons => rfl
  unfold parse
  dsimp only
  rw [htext, htrimmed, Text.cutLast_append hdot]
  simp [hpackage, hname]

/-- **The identity of a target's module** has the package of the project, and the
module's name. -/
theorem forModule_parse (qualified : String) (t : Target) :
    (parse qualified).forModule t.moduleName = ⟨t.moduleName, (parse qualified).packageName⟩ := by
  obtain ⟨c, hfirst, hc⟩ := parse_package qualified
  have hdot : '.' ∉ t.moduleName.toList := by cases t <;> decide
  have hlast : ∃ d, t.moduleName.toList.getLast? = some d ∧ Text.isBlank d = false := by
    cases t <;> exact ⟨_, rfl, by decide⟩
  obtain ⟨d, hlast, hd⟩ := hlast
  exact parse_append hfirst hc hlast hd hdot

/-! ## Reading a qualified name again -/

variable {q : String}

/-- What stands on both sides of the last dot is package and name. -/
theorem parse_of_cutLast {package name : List Char} (hpackage : package ≠ []) (hname : name ≠ [])
    (h : Text.cutLast '.' (Text.trim q).toList = some (package, name)) :
    parse q = ⟨String.ofList name, String.ofList package⟩ := by
  rw [Text.trim, String.toList_ofList] at h
  unfold parse
  dsimp only
  rw [h]
  simp [hpackage, hname]

/-- Without something on both sides of its last dot a text is a plain name. -/
theorem parse_of_plain (h : ∀ package name,
    Text.cutLast '.' (Text.trim q).toList = some (package, name) → package = [] ∨ name = []) :
    parse q = ⟨String.ofList (Text.trimEnds (· = '.') (Text.trim q).toList), fallbackPackage⟩ := by
  rw [Text.trim, String.toList_ofList] at h ⊢
  unfold parse
  dsimp only
  split
  next => rfl
  next package name hcut =>
    rw [if_pos]
    rcases h package name hcut with rfl | rfl <;> simp

/-- **A name that can be read again**: it is not empty, has no dot, and does not end with
a blank. -/
structure IsName (name : List Char) : Prop where
  ne_nil : name ≠ []
  noDot : '.' ∉ name
  last : ∀ c, name.getLast? = some c → Text.isBlank c = false

/-- Such a name and its package are read from the qualified name again. -/
theorem parse_qualifiedName (h : IsName (parse q).name.toList) :
    parse (parse q).qualifiedName = parse q := by
  obtain ⟨c, hfirst, hc⟩ := parse_package q
  have hlast := List.getLast?_eq_some_getLast h.ne_nil
  exact parse_append hfirst hc hlast (h.last _ hlast) h.noDot

theorem trimEnds_dots {l : List Char} (h : '.' ∉ l) : Text.trimEnds (· = '.') l = l :=
  Text.trimEnds_eq_self
    (fun _ hc => decide_eq_false fun hdot => h (hdot ▸ List.mem_of_head? hc))
    (fun _ hc => decide_eq_false fun hdot => h (hdot ▸ List.mem_of_getLast? hc))

/-- A text that does not end with a dot has a name that can be read again. -/
theorem isName_of_getLast? (hq : (Text.trim q).toList ≠ [])
    (hdot : (Text.trim q).toList.getLast? ≠ some '.') : IsName (parse q).name.toList := by
  have hblank : ∀ c, (Text.trim q).toList.getLast? = some c → Text.isBlank c = false := by
    intro c hc
    rw [Text.trim, String.toList_ofList] at hc
    exact Text.not_of_getLast?_trimEnds hc
  -- what stands at the end of the text ends as the text does
  have hname : ∀ before name, (Text.trim q).toList = before ++ name → name ≠ [] → '.' ∉ name →
      IsName name := by
    intro before name htext hne hnot
    refine ⟨hne, hnot, fun c hc => hblank c ?_⟩
    rw [htext, List.getLast?_append, hc]
    rfl
  cases hcut : Text.cutLast '.' (Text.trim q).toList with
  | none =>
    have hplain : parse q = _ := parse_of_plain fun package name h => by
      rw [hcut] at h
      cases h
    have hnot := Text.cutLast_eq_none_iff.1 hcut
    rw [hplain, trimEnds_dots hnot, String.toList_ofList]
    exact hname [] _ (List.nil_append _).symm hq hnot
  | some parts =>
    obtain ⟨package, name⟩ := parts
    obtain ⟨hnot, htext⟩ := Text.of_cutLast hcut
    have hne : name ≠ [] := by
      rintro rfl
      exact hdot (by rw [htext, List.getLast?_append, List.getLast?_singleton, Option.some_or])
    have hisName := hname (package ++ ['.']) name (by rw [htext]; simp) hne hnot
    by_cases hpackage : package = []
    · have hplain : parse q = _ := parse_of_plain fun package' name' h => by
        rw [hcut] at h
        exact Or.inl ((Prod.mk.inj (Option.some.inj h)).1 ▸ hpackage)
      rw [hplain, htext, hpackage, List.nil_append, Text.trimEnds_cons_of (decide_eq_true rfl),
        trimEnds_dots hnot, String.toList_ofList]
      exact hisName
    · rw [parse_of_cutLast hpackage hne hcut, String.toList_ofList]
      exact hisName

/-- A text that ends with a dot is a plain name. -/
theorem parse_of_getLast? (hdot : (Text.trim q).toList.getLast? = some '.') :
    parse q = ⟨String.ofList (Text.trimEnds (· = '.') (Text.trim q).toList), fallbackPackage⟩ := by
  refine parse_of_plain fun package name hcut => Or.inr ?_
  obtain ⟨hnot, htext⟩ := Text.of_cutLast hcut
  refine Classical.not_not.1 fun hne => hnot ?_
  obtain ⟨c, hc⟩ := Option.isSome_iff_exists.1 (List.getLast?_isSome.2 hne)
  rw [htext, List.getLast?_append, List.getLast?_cons, hc] at hdot
  obtain rfl := Option.some.inj hdot
  exact List.mem_of_getLast? hc

/-- Blanks behind a text make no difference. -/
theorem parse_append_blanks {rest : List Char} (h : ∀ c ∈ rest, Text.isBlank c = true)
    (q : String) : parse (q ++ String.ofList rest) = parse q := by
  have htrim : Text.trimEnds Text.isBlank (q ++ String.ofList rest).toList =
      Text.trimEnds Text.isBlank q.toList := by
    rw [String.toList_append, String.toList_ofList, Text.trimEnds_append_of_forall h]
  unfold parse
  rw [htrim]

/-- If nothing is left of a name, then its package becomes the name, which has dots. -/
theorem dot_mem_of_parse_package (h : parse ((parse q).packageName ++ ".") = parse q) :
    '.' ∈ (parse q).name.toList := by
  obtain ⟨c, hfirst, hc⟩ := parse_package q
  have htrim : (Text.trim ((parse q).packageName ++ ".")).toList =
      (parse q).packageName.toList ++ ['.'] := by
    rw [Text.trim, String.toList_ofList, String.toList_append]
    exact Text.trimEnds_append hfirst hc rfl (by decide)
  have hplain := parse_of_getLast? (by rw [htrim, List.getLast?_concat])
  rw [h, htrim] at hplain
  have hpackage : (parse q).packageName = fallbackPackage := congrArg packageName hplain
  have hname : (parse q).name = _ := congrArg Project.name hplain
  rw [hname, hpackage]
  decide

/-- A name without dots that is read again does not end with a blank. -/
theorem isName_of_parse_qualifiedName (hne : (parse q).name.toList ≠ [])
    (hdot : '.' ∉ (parse q).name.toList) (h : parse (parse q).qualifiedName = parse q) :
    IsName (parse q).name.toList := by
  obtain ⟨body, blanks, hname, hblanks, hbody⟩ :=
    Text.exists_eq_append Text.isBlank (parse q).name.toList
  obtain ⟨kept, rfl⟩ : ∃ kept : String, kept.toList = body := ⟨_, String.toList_ofList⟩
  -- the blanks at the end of the name are not read again
  have hread : parse ((parse q).packageName ++ "." ++ kept) = parse q := by
    have hwhole : (parse q).qualifiedName =
        (parse q).packageName ++ "." ++ kept ++ String.ofList blanks := by
      refine String.toList_injective ?_
      rw [qualifiedName, String.toList_append, hname]
      simp
    rw [← parse_append_blanks hblanks, ← hwhole, h]
  cases hlast : kept.toList.getLast? with
  | none =>
    have hempty := String.toList_eq_nil_iff.1 (List.getLast?_eq_none_iff.1 hlast)
    rw [hempty, String.append_empty] at hread
    exact absurd (dot_mem_of_parse_package hread) hdot
  | some c =>
    have hkeptDot : '.' ∉ kept.toList := fun hmem => hdot (hname ▸ List.mem_append_left _ hmem)
    obtain ⟨d, hfirst, hd⟩ := parse_package q
    have hkept := parse_append hfirst hd hlast (hbody c hlast) hkeptDot
    rw [hread] at hkept
    have hsame : (parse q).name = kept := congrArg Project.name hkept
    exact ⟨hne, hdot, hsame ▸ hbody⟩

/-- **Which written projects are read again as they are.**  A name that is not blank gives
a project whose name is not empty, has no dot, and is read again from the qualified name
exactly when it does not end with a dot, blanks aside, or what is left of it without the
dots at its ends is such a name itself. -/
theorem parse_again_iff (h : (Text.trim q).isEmpty = false) :
    ((parse q).name ≠ "" ∧ '.' ∉ (parse q).name.toList ∧
      parse (parse q).qualifiedName = parse q) ↔
    (Text.trim q).toList.getLast? ≠ some '.' ∨
      IsName (Text.trimEnds (· = '.') (Text.trim q).toList) := by
  have hq : (Text.trim q).toList ≠ [] := fun hnil => by
    rw [String.toList_eq_nil_iff.1 hnil] at h
    cases h
  have hagain : ((parse q).name ≠ "" ∧ '.' ∉ (parse q).name.toList ∧
      parse (parse q).qualifiedName = parse q) ↔ IsName (parse q).name.toList := by
    rw [ne_eq, ← String.toList_eq_nil_iff]
    exact ⟨fun ⟨hne, hdot, hread⟩ => isName_of_parse_qualifiedName hne hdot hread,
      fun hname => ⟨hname.ne_nil, hname.noDot, parse_qualifiedName hname⟩⟩
  rw [hagain]
  by_cases hdot : (Text.trim q).toList.getLast? = some '.'
  · rw [parse_of_getLast? hdot, String.toList_ofList, or_iff_right (not_not_intro hdot)]
  · exact iff_of_true (isName_of_getLast? hq hdot) (Or.inl hdot)

/-- A single segment may have dots around it. -/
theorem demo_read_again : (Text.trim " .demo. ").isEmpty = false ∧
    (parse " .demo. ").name ≠ "" ∧ '.' ∉ (parse " .demo. ").name.toList ∧
      parse (parse " .demo. ").qualifiedName = parse " .demo. " := by
  have h : (Text.trim " .demo. ").isEmpty = false := by decide
  have hname : IsName (Text.trimEnds (· = '.') (Text.trim " .demo. ").toList) := by
    refine ⟨by decide, by decide, fun c hc => ?_⟩
    obtain rfl : 'o' = c := Option.some.inj hc
    decide
  exact ⟨h, (parse_again_iff h).2 (Or.inr hname)⟩

/-- Behind a qualified name a dot makes a name of the whole, which has dots then and is
another project when it is read again. -/
theorem shop_not_read_again : (Text.trim "org.acme.shop.").isEmpty = false ∧
    parse "org.acme.shop." = ⟨"org.acme.shop", "com.example"⟩ ∧
      '.' ∈ (parse "org.acme.shop.").name.toList ∧
      parse (parse "org.acme.shop.").qualifiedName = ⟨"shop", "com.example.org.acme"⟩ ∧
      parse (parse "org.acme.shop.").qualifiedName ≠ parse "org.acme.shop." := by
  decide

end Fanout.Project
