import Fanout.Proofs.Template.Index
import Fanout.Proofs.Text.Pieces

/-!
# Physical paths

The index writes the folder of a module and the path of a file into one text and
compares these texts.  Nothing is lost that way: no module's name holds a slash,
so the first slash of the text is the one behind the folder.

## Main statements

* `Template.physicalPath_eq_iff` — templates with one physical path have one
  module and one path inside it.
* `TemplateIndex.paths_of_reachable` — what a reachable index records about its
  paths, and which templates it can hold side by side.
-/

namespace Fanout

/-! ## Folders -/

theorem Module.slash_notMem_name (m : Module) : ∀ c ∈ m.name.toList, decide (c = '/') = false := by
  have hall : (m.name.toList.all fun c => !decide (c = '/')) = true := by
    rcases m with _ | _ | _ | _ | t
    case target => cases t <;> rfl
    all_goals rfl
  intro c hc
  simpa using List.all_eq_true.1 hall c hc

namespace Template

/-- A template is in no second spelling of the shared library. -/
theorem module_ne_target_shared (t : Template) : t.module ≠ .target .shared := by
  intro h
  have hcanonical := t.canonical
  rw [h] at hcanonical
  cases hcanonical

/-- The first piece of a physical path is the module's folder. -/
theorem pieces_physicalPath (t : Template) :
    Text.pieces (fun c => decide (c = '/')) t.physicalPath.toList =
      t.module.name.toList :: Text.pieces (fun c => decide (c = '/')) t.path.toList := by
  unfold physicalPath
  rw [String.toList_append, String.toList_append, List.append_assoc]
  exact Text.pieces_append_cons t.module.slash_notMem_name (by decide) t.path.toList

/-- **A physical path says which file of which module it is.** -/
theorem physicalPath_eq_iff {t u : Template} :
    t.physicalPath = u.physicalPath ↔ t.module = u.module ∧ t.path = u.path := by
  constructor
  · intro h
    have hpieces := congrArg (fun s : String => Text.pieces (fun c => decide (c = '/')) s.toList) h
    simp only [pieces_physicalPath, List.cons.injEq, String.toList_inj] at hpieces
    obtain ⟨hname, -⟩ := hpieces
    have hmodule : t.module = u.module := by
      rw [← t.canonical, ← u.canonical]
      exact Module.canonical_eq_of_name_eq hname
    refine ⟨hmodule, ?_⟩
    unfold physicalPath at h
    rw [hname] at h
    exact (String.append_right_inj _).1 h
  · rintro ⟨hmodule, hpath⟩
    rw [physicalPath, hmodule, hpath, physicalPath]

end Template

/-! ## Reachable indexes -/

namespace TemplateIndex

variable {x : TemplateIndex}

/-- **What a reachable index records.**  Its paths are those of the stored
templates, each of which is in a module's only spelling.  Templates under
different keys have different paths, that is, not both the same module and the
same path inside it. -/
theorem paths_of_reachable (h : x.Reachable) :
    (∀ path, path ∈ x.paths ↔ ∃ key t, x.find? key = some t ∧ t.physicalPath = path) ∧
    (∀ key t, x.find? key = some t → t.module.canonical = t.module ∧ t.module ≠ .target .shared) ∧
    (∀ key key' t t', x.find? key = some t → x.find? key' = some t' → key ≠ key' →
      t.physicalPath ≠ t'.physicalPath ∧ ¬ (t.module = t'.module ∧ t.path = t'.path)) ∧
    ∀ t t' : Template, t.physicalPath = t'.physicalPath ↔
      t.module = t'.module ∧ t.path = t'.path := by
  have hconsistent := consistent_of_reachable h
  refine ⟨hconsistent.paths, ?_, ?_, fun t t' => Template.physicalPath_eq_iff⟩
  · intro key t _
    exact ⟨t.canonical, t.module_ne_target_shared⟩
  · intro key key' t t' hkey hkey' hne
    have hpath : t.physicalPath ≠ t'.physicalPath :=
      fun hpath => hne (hconsistent.injective key key' t t' hkey hkey' hpath)
    exact ⟨hpath, fun hsame => hpath (Template.physicalPath_eq_iff.2 hsame)⟩

/-- A rule that sends every file into the module of the shared scope. -/
def toShared : RoutingRule where
  name := "all-to-shared"
  applies _ := true
  route _ := ⟨.target .shared, none⟩

/-- A guide is registered, and then again under another path, each time for the
module of the shared scope.  Only the second path is taken in the end. -/
theorem guide_moved :
    ∃ (x : TemplateIndex) (t : Template), x.Reachable ∧ x.find? "guide" = some t ∧
      t.module ≠ .target .shared ∧ "lib/manual.md" ∈ x.paths ∧ "lib/guide.md" ∉ x.paths := by
  have hreach := ((Reachable.empty [toShared]).register "guide"
      (.new .app "guide.md" (.text "guide")) .shared false).register "guide"
      (.new .app "manual.md" (.text "manual")) .shared false
  obtain ⟨hpaths, hmodules, -⟩ := paths_of_reachable hreach
  refine ⟨_, .new .lib "manual.md" (.text "manual"), hreach, rfl, (hmodules "guide" _ rfl).2, ?_, ?_⟩
  · exact (hpaths _).2 ⟨"guide", _, rfl, by decide⟩
  · decide

end TemplateIndex

end Fanout
