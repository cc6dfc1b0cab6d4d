import Fanout.Proofs.Generation.Templates

/-!
# Files of a single-module build

A build without a target has one module, the root.  What is registered for the
shared scope goes through the routing rules, and they send it there.  Files whose
model depends on the language or the test framework do not go through them: they
are stored in the module of the shared scope, which is the library, as if there
were one.

## Main definitions

* `Generation.TemplateCall.IsShared` — a call for a file of the shared scope.
* `Generation.TemplateCall.isDirect` — the call goes past the routing rules.
* `Generation.TemplateCall.Stores` — what a sequence of calls stores, and which
  call stores it.

## Main statements

* `Generation.TemplateCall.module_of_answer` — where one call stores its file.
* `Generation.module_of_stored` — where a sequence of calls stores its files.
-/

namespace Fanout.Generation

variable {ε : Type} {g : Generation ε} {u : Target}

/-! ## What a call leaves alone -/

theorem partition_openTarget (g : Generation ε) (t : Target) :
    (g.openTarget t).partition = g.partition := by
  unfold openTarget
  split <;> rfl

theorem partition_addModel (g : Generation ε) (module : Module) (key path : String)
    (model? : Option Model) :
    (g.addModel module key path model?).1.partition = g.partition := by
  cases model? <;> rfl

theorem rules_addModel (g : Generation ε) (module : Module) (key path : String)
    (model? : Option Model) :
    (g.addModel module key path model?).1.index.rules = g.index.rules := by
  cases model? with
  | none => rfl
  | some model => exact TemplateIndex.rules_insert ..

namespace TemplateCall

theorem partition_perform (u : Target) (g : Generation ε) (call : TemplateCall) :
    (call.perform u g).1.partition = g.partition := by
  rw [← partition_openTarget g u]
  cases call with
  | template | resource => rfl
  | language | test | helper => exact partition_addModel ..

theorem rules_perform (u : Target) (g : Generation ε) (call : TemplateCall) :
    (call.perform u g).1.index.rules = g.index.rules := by
  rw [← index_openTarget g u]
  cases call with
  | template | resource => exact TemplateIndex.rules_register ..
  | language | test | helper => exact rules_addModel ..

/-! ## Where one call stores its file -/

/-- **Call for a file of the shared scope**: a text or a properties file that is
declared for it or for a place that stands for it, or a file whose model depends on
the build. -/
def IsShared : TemplateCall → Prop
  | template _ file => file.kind ≠ .resource ∧ file.module.isSharedOrDefault = true
  | language .. | test .. | helper .. => True
  | resource .. => False

/-- Whether the call goes past the routing rules. -/
def isDirect : TemplateCall → Bool
  | language .. | test .. | helper .. => true
  | template .. | resource .. => false

/-- The module that the calls of the shared scope store their files in, if there is
no other one. -/
def placement (call : TemplateCall) : Module := if call.isDirect then .lib else .root

/-- With one module, the standard rules send the files of the shared scope to the
root. -/
theorem route_of_shared {q : RoutingQuestion} (hkind : q.template.kind ≠ .resource)
    (hmodule : q.template.module.isSharedOrDefault = true) (hscope : q.scope = .shared)
    (hsingle : q.singleModule = true) :
    Route.ofRules RoutingRule.standard q = ⟨.root, none⟩ := by
  have hroutable : Route.isRoutable q.template = true := by
    have hroot : q.template.module ≠ .root := by
      intro hroot
      rw [hroot] at hmodule
      cases hmodule
    simp [Route.isRoutable, hkind, hroot]
  rw [Route.ofRules_standard]
  simp [hroutable, hscope, hsingle, hmodule]

theorem addModel_registered {module module' : Module} {key key' path : String}
    {model? : Option Model}
    (h : (g.addModel module key path model?).2 = .registered key' module') :
    module' = module.canonical := by
  cases model? with
  | none => cases h
  | some model => exact (TemplateIndex.insert_registered h).2

/-- **Where a call of the shared scope stores its file** in a single-module build. -/
theorem module_of_answer (hsingle : g.isSingleModule = true)
    (hrules : g.index.rules = RoutingRule.standard) {call : TemplateCall} (hcall : call.IsShared)
    {key : String} {module : Module} (h : (call.perform .shared g).2 = .registered key module) :
    module = call.placement := by
  cases call with
  | template k file =>
    obtain ⟨hkind, hmodule⟩ := hcall
    have hroute : g.index.route ⟨k, file, .shared, g.isSingleModule⟩ = ⟨.root, none⟩ := by
      unfold TemplateIndex.route
      rw [hrules]
      exact route_of_shared hkind hmodule rfl hsingle
    -- the shared scope is always open
    have hanswer : (g.addTemplate .shared k file).2 = .registered key module := h
    rw [(TemplateIndex.register_registered hanswer).2, hroute]
    rfl
  | language | test | helper => exact addModel_registered h
  | resource => cases hcall

/-! ## Calls one after the other -/

/-- The run after some calls of a target. -/
def performAll (u : Target) (calls : List TemplateCall) (g : Generation ε) : Generation ε :=
  calls.foldl (fun g call => (call.perform u g).1) g

/-- **Among some calls of a target, one stores a template**, under a key. -/
inductive Stores (u : Target) :
    List TemplateCall → Generation ε → TemplateCall → String → Template → Prop
  | now {call : TemplateCall} {rest : List TemplateCall} {g : Generation ε} {key : String}
      {module : Module} {t : Template} (hanswer : (call.perform u g).2 = .registered key module)
      (hstored : (call.perform u g).1.index.find? key = some t) :
      Stores u (call :: rest) g call key t
  | later {first call : TemplateCall} {rest : List TemplateCall} {g : Generation ε} {key : String}
      {t : Template} (h : Stores u rest (first.perform u g).1 call key t) :
      Stores u (first :: rest) g call key t

/-- What is stored after some calls was stored before them, or by one of them. -/
theorem stored_of_performAll (hg : Reachable g) (u : Target) (calls : List TemplateCall)
    {key : String} {t : Template} (h : (performAll u calls g).index.find? key = some t) :
    g.index.find? key = some t ∨ ∃ call, Stores u calls g call key t := by
  induction calls generalizing g with
  | nil => exact Or.inl h
  | cons first rest ih =>
    -- what the first call answers says whether it stored the template
    rcases ih (reachable_perform hg u first) h with hnext | ⟨call, hlater⟩
    · have hdescribes := first.perform_describes hg u
      cases hanswer : (first.perform u g).2 with
      | registered k module =>
        rw [hanswer] at hdescribes
        obtain ⟨new, -, -, hfind⟩ := hdescribes
        by_cases hkey : key = k
        · subst hkey
          exact Or.inr ⟨first, .now hanswer hnext⟩
        · rw [hfind, if_neg hkey] at hnext
          exact Or.inl hnext
      | suppressed | duplicate | noModel =>
        rw [hanswer] at hdescribes
        rw [show _ = g.index from hdescribes] at hnext
        exact Or.inl hnext
    · exact Or.inr ⟨call, .later hlater⟩

end TemplateCall

/-- **Where the files of a single-module build are.**  Whatever calls there are for
files of the shared scope, a template that one of them stores is in the root module
if the routing rules were asked, and in the library if not; and a template that is
stored at the end is one of these, or was stored before. -/
theorem module_of_stored (hg : Reachable g) (hsingle : g.isSingleModule = true)
    (hrules : g.index.rules = RoutingRule.standard) {calls : List TemplateCall}
    (hcalls : ∀ call ∈ calls, call.IsShared) :
    (∀ call key t, TemplateCall.Stores .shared calls g call key t → t.module = call.placement) ∧
    ∀ key t, (TemplateCall.performAll .shared calls g).index.find? key = some t →
      g.index.find? key = some t ∨ ∃ call, TemplateCall.Stores .shared calls g call key t := by
  refine ⟨fun call key t hstores => ?_,
    fun key t => TemplateCall.stored_of_performAll hg .shared calls⟩
  induction hstores with
  | @now call rest g key module t hanswer hstored =>
    have hdescribes := call.perform_describes hg .shared
    rw [hanswer] at hdescribes
    obtain ⟨new, hmodule, -, hfind⟩ := hdescribes
    rw [hfind, if_pos rfl] at hstored
    obtain rfl := Option.some.inj hstored
    rw [hmodule]
    exact TemplateCall.module_of_answer hsingle hrules (hcalls call List.mem_cons_self) hanswer
  | @later first call rest g key t _ ih =>
    refine ih (TemplateCall.reachable_perform hg .shared first) ?_ ?_ ?_
    · unfold isSingleModule
      rw [TemplateCall.partition_perform]
      exact hsingle
    · rw [TemplateCall.rules_perform]
      exact hrules
    · exact fun c hc => hcalls c (List.mem_cons_of_mem first hc)

/-- A file whose author does not know its module, and a source file in Java. -/
def demoCalls : List TemplateCall :=
  [.template "manual" manual,
    .language "main" "src/main/java/Main.java" { java? := some (.ok "class Main") }]

theorem isShared_demoCalls : ∀ call ∈ demoCalls, call.IsShared := by
  simp only [demoCalls, List.forall_mem_cons]
  exact ⟨⟨by decide, rfl⟩, trivial, fun _ hnil => absurd hnil List.not_mem_nil⟩

/-- The routing rules put the first of them into the root module. -/
theorem manual_stored_in_root :
    ∃ (g : Generation Unit) (call : TemplateCall) (t : Template), Reachable g ∧
      g.isSingleModule = true ∧
      TemplateCall.Stores .shared demoCalls g call "manual" t ∧ t.module = .root := by
  have hstart : start bareRun = .ok _ := rfl
  have hreach := Reachable.of_start hstart
  refine ⟨_, _, manual.withModule .root, hreach, rfl, .now rfl rfl, ?_⟩
  exact (module_of_stored hreach rfl rfl isShared_demoCalls).1 _ _ _ (.now rfl rfl)

/-- The second one is stored in the library. -/
theorem source_stored_in_library :
    ∃ (g : Generation Unit) (call : TemplateCall) (t : Template), Reachable g ∧
      g.isSingleModule = true ∧ g.index.rules = RoutingRule.standard ∧
      (∀ call ∈ demoCalls, call.IsShared) ∧
      TemplateCall.Stores .shared demoCalls g call "main" t ∧ t.module ≠ .root := by
  have hstart : start bareRun = .ok _ := rfl
  exact ⟨_, _, _, Reachable.of_start hstart, rfl, rfl, isShared_demoCalls, .later (.now rfl rfl),
    nofun⟩

end Fanout.Generation
