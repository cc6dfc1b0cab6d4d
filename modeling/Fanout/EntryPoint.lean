import Fanout.BuildOptions

/-!
# Entry points

The main function of a generated application: how it starts depends on the
source language, the environment it starts in, and whether singletons are
created at the start.
-/

namespace Fanout

/-- **Entry point of an application.** -/
structure EntryPoint where
  language : Language
  /-- The environment the application starts in. -/
  environment? : Option String
  /-- Whether singletons are created at the start. -/
  eagerSingletons : Bool
deriving DecidableEq, Repr

namespace EntryPoint

/-- The entry point in a language given by its name. -/
def forLanguage (name : String) (environment? : Option String) (eagerSingletons : Bool) :
    Except Fault EntryPoint := do
  let language ← Language.parse name
  return ⟨language, environment?, eagerSingletons⟩

/-- How the builder of the application is obtained. -/
def opening : Language → List String
  | .kotlin => ["build()", "        .args(*args)"]
  | .java | .groovy => ["Micronaut.build(args)"]

/-- How the application is started. -/
def closing : Language → String
  | .java => "        .start();"
  | .kotlin | .groovy => "        .start()"

/-- **Body of the main function.** -/
def main (e : EntryPoint) : String :=
  let environment :=
    match e.environment? with
    | some name => ["        .defaultEnvironments(\"" ++ name ++ "\")"]
    | none => []
  let singletons := if e.eagerSingletons then ["        .eagerInitSingletons(true)"] else []
  "\n".intercalate (opening e.language ++ environment ++ singletons ++ [closing e.language])

end EntryPoint

end Fanout
