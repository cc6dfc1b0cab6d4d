import Fanout.Proofs.Generation.Faultless
import Fanout.Proofs.Generation.Opening
import Fanout.Proofs.Template.Paths

/-!
# The files of a run

The files are rendered in the order of their keys, and a model that fails stops that.  As
the fault of the whole is the first one met, it depends on the keys alone which of several
failing models is reported, and not on the order in which the templates were registered.  If
none fails, there is one file for each template.  No two of them are one and the same file
of a module, since the index has seen to that.

## Main definitions

* `Template.Fails` — the model of a template fails.
* `TemplateIndex.FailsFirst` — no template of a smaller key fails.
* `Content.HasText` — the text of a content, before it is revised.
* `RenderedTemplate.IsFileOf` — what the file of a template has to be.

## Main statements

* `Generation.renderOne_eq_error_iff`, `Generation.isFileOf_of_renderOne` — one template.
* `Generation.render_eq_error_iff` — which fault stops the rendering.
* `Generation.files_of_render` — all files.
-/

namespace Fanout

/-! ## One template -/

/-- **The model of a template fails.** -/
def Template.Fails (t : Template) (fault : Fault) : Prop := t.content = .model (.error fault)

/-- **The text of a content**, before it is revised: what its model produces, the text that
is given, or the configuration as it is written. -/
inductive Content.HasText : Content → String → Prop where
  | model (s : String) : HasText (.model (.ok s)) s
  | text (s : String) : HasText (.text s) s
  | properties (c : Configuration) : HasText (.properties c) c.properties

namespace Content

/-- Only a model fails, and what it reports is not changed. -/
theorem output_eq_error_iff {content : Content} {fault : Fault} :
    content.output = .error fault ↔ content = .model (.error fault) := by
  cases content with
  | model result => cases result <;> simp [output, Except.map]
  | text | properties | resource => simp [output]

theorem output_of_hasText {content : Content} {s : String} (h : content.HasText s) :
    content.output = .ok (.text s) := by
  cases h <;> rfl

end Content

/-- A template has a content unless its model fails. -/
theorem Template.hasOutput_iff {t : Template} : t.HasOutput ↔ ∀ fault, ¬ t.Fails fault := by
  simp only [Template.Fails, ← Content.output_eq_error_iff]
  rw [← not_exists, Fault.isError_iff, not_not]
  rfl

/-- **The first template that fails**, in the order of keys. -/
structure TemplateIndex.FailsFirst (x : TemplateIndex) (key : String) (t : Template)
    (fault : Fault) : Prop where
  found : x.find? key = some t
  fails : t.Fails fault
  first : ∀ key' t', x.find? key' = some t' → compare key' key = .lt →
    ∀ fault', ¬ t'.Fails fault'

/-- **File of a template** under its key.  A resource is copied from its place; a text is
revised by the revisions for the template's key and its path. -/
structure RenderedTemplate.IsFileOf (file : RenderedTemplate) (revisions : Revisions)
    (k : String) (t : Template) : Prop where
  key : file.key = k
  module : file.module = t.module
  path : file.path = t.path
  executable : file.executable = t.executable
  resource : ∀ location, t.content = .resource location → file.output = .resource location
  text : ∀ s, t.content.HasText s → file.output = .text (revisions.apply k t.physicalPath s)

namespace Generation

section One

variable {revisions : Revisions} {key : String} {t : Template} {file : RenderedTemplate}
  {fault : Fault}

/-- A template is not rendered when its model fails. -/
theorem renderOne_eq_error_iff : renderOne revisions key t = .error fault ↔ t.Fails fault := by
  have hone : renderOne revisions key t = .error fault ↔
      revised revisions key t = .error fault := Fault.bind_pure_eq_error_iff
  rw [hone, Template.Fails, ← Content.output_eq_error_iff, revised]
  -- what is done with an output does not fail
  cases t.content.output with
  | error fault' => rfl
  | ok output => cases output <;> exact iff_of_false (fun h => by cases h) fun h => by cases h

/-- **What is rendered is the file of the template.** -/
theorem isFileOf_of_renderOne (h : renderOne revisions key t = .ok file) :
    file.IsFileOf revisions key t := by
  obtain ⟨output, houtput, hfile⟩ := Fault.bind_ok h
  obtain rfl := Except.ok.inj hfile
  refine ⟨rfl, rfl, rfl, rfl, ?_, ?_⟩
  · intro location hcontent
    rw [revised, hcontent] at houtput
    exact (Except.ok.inj houtput).symm
  · intro s htext
    rw [revised, Content.output_of_hasText htext] at houtput
    exact (Except.ok.inj houtput).symm

end One

/-! ## All templates -/

variable {ε : Type} {g : Generation ε} {files : List RenderedTemplate} {fault : Fault}

/-- **The rendering stops at the first template that fails**, in the order of keys. -/
theorem render_eq_error_iff : g.render = .error fault ↔
    ∃ key t, g.index.FailsFirst key t fault := by
  unfold render
  rw [Fault.mapM_eq_error_iff]
  simp only [renderOne_isOk_iff, Template.hasOutput_iff, renderOne_eq_error_iff]
  constructor
  · rintro ⟨before, ⟨key, t⟩, after, hsplit, hbefore, hfails⟩
    refine ⟨key, t, ?_, hfails, ?_⟩
    · refine g.index.templates.find?_eq_some_iff.2 ?_
      rw [hsplit]
      exact List.mem_append_right _ List.mem_cons_self
    · intro key' t' hfound hlt fault'
      have hmem := g.index.templates.find?_eq_some_iff.1 hfound
      exact hbefore _ ((g.index.templates.mem_before_iff hsplit).2 ⟨hmem, hlt⟩) fault'
  · rintro ⟨key, t, hfound, hfails, hfirst⟩
    obtain ⟨before, after, hsplit⟩ :=
      List.append_of_mem (g.index.templates.find?_eq_some_iff.1 hfound)
    refine ⟨before, (key, t), after, hsplit, ?_, hfails⟩
    rintro ⟨key', t'⟩ hbefore
    obtain ⟨hmem, hlt⟩ := (g.index.templates.mem_before_iff hsplit).1 hbefore
    exact hfirst key' t' (g.index.templates.find?_eq_some_iff.2 hmem) hlt

/-- There is one file under each key. -/
theorem keys_of_render (h : g.render = .ok files) :
    files.map (fun file => file.key) = g.index.templates.keys :=
  Fault.map_eq_of_mapM (fun hone => (isFileOf_of_renderOne hone).key) h

theorem isFileOf_of_render (h : g.render = .ok files) {file : RenderedTemplate}
    (hfile : file ∈ files) : ∃ t, g.index.find? file.key = some t ∧
      file.IsFileOf g.index.revisions file.key t := by
  obtain ⟨⟨key, t⟩, hmem, hone⟩ := (Fault.mem_of_mapM h).1 hfile
  have hfileOf := isFileOf_of_renderOne hone
  obtain rfl := hfileOf.key
  exact ⟨t, g.index.templates.find?_eq_some_iff.2 hmem, hfileOf⟩

theorem ascending_of_render (h : g.render = .ok files) :
    files.Pairwise fun file file' => compare file.key file'.key = .lt := by
  have hkeys := g.index.templates.keys_ascending
  rw [← keys_of_render h] at hkeys
  exact List.pairwise_map.1 hkeys

/-- **No two files are one**, where no two templates have one path. -/
theorem pairwise_path_ne_of_render (hg : g.index.Consistent) (h : g.render = .ok files) :
    files.Pairwise fun file file' =>
      ¬ (file.module = file'.module ∧ file.path = file'.path) := by
  refine (ascending_of_render h).imp_of_mem fun {file file'} hfile hfile' hlt hsame => ?_
  obtain ⟨t, hfound, hfileOf⟩ := isFileOf_of_render h hfile
  obtain ⟨t', hfound', hfileOf'⟩ := isFileOf_of_render h hfile'
  obtain ⟨hmodule, hpath⟩ := hsame
  have hphysical : t.physicalPath = t'.physicalPath := by
    refine Template.physicalPath_eq_iff.2 ⟨?_, ?_⟩
    · rw [← hfileOf.module, hmodule, hfileOf'.module]
    · rw [← hfileOf.path, hpath, hfileOf'.path]
  exact ne_of_compare_lt hlt (hg.injective _ _ t t' hfound hfound' hphysical)

/-- **The files of a run.**  They are rendered unless the model of some stored template
fails, and the fault is then that of the first such template in the order of keys.  If none
fails, there is one file for each stored template, in strictly ascending order of keys, and
no two files are at one path of one module.  Each is the file of its template: of a resource
the place of the copy is as it was given, and any other content is its text, revised by the
revisions for the stored key and the physical path. -/
theorem files_of_render (h : Reachable g) :
    ((∃ fault, g.render = .error fault) ↔
      ∃ key t fault, g.index.find? key = some t ∧ t.Fails fault) ∧
    (∀ fault, g.render = .error fault ↔ ∃ key t, g.index.FailsFirst key t fault) ∧
    ((¬ ∃ key t fault, g.index.find? key = some t ∧ t.Fails fault) →
      ∃ files, g.render = .ok files ∧
        files.map (fun file => file.key) = g.index.templates.keys ∧
        (files.Pairwise fun file file' => compare file.key file'.key = .lt) ∧
        (files.Pairwise fun file file' =>
          ¬ (file.module = file'.module ∧ file.path = file'.path)) ∧
        ∀ file ∈ files, ∃ t, g.index.find? file.key = some t ∧
          file.IsFileOf g.index.revisions file.key t) := by
  have hok : (∃ files, g.render = .ok files) ↔
      ¬ ∃ key t fault, g.index.find? key = some t ∧ t.Fails fault := by
    rw [render_isOk_iff]
    simp only [TemplateIndex.HasOutputs, Template.hasOutput_iff, not_exists, not_and]
    exact forall₂_congr fun key t => forall_comm
  refine ⟨?_, fun fault => render_eq_error_iff, ?_⟩
  · rw [Fault.isError_iff, hok, not_not]
  · intro hnone
    obtain ⟨files, hfiles⟩ := hok.2 hnone
    exact ⟨files, hfiles, keys_of_render hfiles, ascending_of_render hfiles,
      pairwise_path_ne_of_render (TemplateIndex.consistent_of_reachable h.index) hfiles,
      fun file hfile => isFileOf_of_render hfiles hfile⟩

/-- A file whose model fails. -/
def unfinished (name : String) : Template := .new .root name (.model (.error (.failure name)))

/-- An executable file. -/
def script : Template := .new .root "run.sh" (.text "ls") true

/-- A script that is revised for its path and for its key, and two files that cannot be
rendered, the one with the greater key first. -/
def scripted : List Operation :=
  [.template .shared "zeta" (unfinished "zeta.txt"),
    .template .shared "run" script,
    .revisePattern ⟨"", .empty⟩ (· ++ " -a"), .reviseKey "run" (· ++ " -l"),
    .template .shared "alpha" (unfinished "alpha.txt")]

/-- The same without the files that cannot be rendered. -/
def finished : List Operation := scripted ++ [.removeTemplate "zeta", .removeTemplate "alpha"]

/-- The model of the smaller key is the one that is reported; without the two, the script is
rendered, revised for its key first. -/
theorem scripted_rendered :
    ∃ g : Generation Unit, start bareRun = .ok g ∧
      (Operation.performAll scripted g).render = .error (.failure "alpha.txt") ∧
      ∃ files, (Operation.performAll finished g).render = .ok files ∧ ∃ file ∈ files,
        file.key = "run" ∧ file.executable = true ∧ file.output = .text "ls -l -a" := by
  have hstart : start bareRun = .ok _ := rfl
  have hreach := Reachable.of_start hstart
  obtain ⟨-, hfirst, -⟩ := files_of_render (hreach.performAll scripted)
  obtain ⟨-, -, hfiles⟩ := files_of_render (hreach.performAll finished)
  refine ⟨_, hstart, (hfirst _).2 ⟨"alpha", unfinished "alpha.txt", rfl, rfl, ?_⟩, ?_⟩
  · intro key t hfound hlt
    have hkey : key ∈ ["alpha", "run", "zeta"] := (SortedMap.mem_keys_iff _).2 ⟨t, hfound⟩
    simp only [List.mem_cons, List.not_mem_nil, or_false] at hkey
    rcases hkey with rfl | rfl | rfl <;> cases hlt
  · have hscript : ∀ key t, (key, t) ∈ [("run", script)] → key = "run" ∧ t = script := by
      intro key t hmem
      exact Prod.mk.inj (List.mem_singleton.1 hmem)
    obtain ⟨files, hrender, hkeys, -, -, hfileOf⟩ := hfiles <| by
      rintro ⟨key, t, fault, hfound, hfails⟩
      obtain ⟨-, rfl⟩ := hscript key t ((SortedMap.find?_eq_some_iff _).1 hfound)
      cases hfails
    have hrun : "run" ∈ files.map (fun file => file.key) := by
      rw [hkeys]
      exact List.mem_singleton_self "run"
    obtain ⟨file, hfile, hkey⟩ := List.mem_map.1 hrun
    obtain ⟨t, hfound, hof⟩ := hfileOf file hfile
    obtain ⟨-, rfl⟩ := hscript file.key t ((SortedMap.find?_eq_some_iff _).1 hfound)
    refine ⟨files, hrender, file, hfile, hkey, hof.executable, ?_⟩
    rw [hof.text "ls" (.text "ls"), hkey]
    rfl

end Generation

end Fanout
