import Fanout.Fault
import Fanout.Text

/-!
# Build options

What the caller decides before a run starts, the same for every module: the
source language, the build tool, the test framework, the kind of application
and the platform version.
-/

namespace Fanout

/-- Source language of the generated application. -/
inductive Language where
  | java
  | kotlin
  | groovy
deriving DecidableEq, Repr, Inhabited

namespace Language

/-- The name, also the name of the language's source folders. -/
def name : Language → String
  | java => "java"
  | kotlin => "kotlin"
  | groovy => "groovy"

/-- The extension of source files. -/
def extension : Language → String
  | java => "java"
  | kotlin => "kt"
  | groovy => "groovy"

/-- The folder of the main sources. -/
def sourceDir (l : Language) : String := "src/main/" ++ l.name

/-- The folder of the test sources. -/
def testSourceDir (l : Language) : String := "src/test/" ++ l.name

/-- Reads a language's name in any case. -/
def parse (name : String) : Except Fault Language :=
  match Text.lower name with
  | "java" => .ok java
  | "kotlin" => .ok kotlin
  | "groovy" => .ok groovy
  | _ => .error (.unsupportedLanguage name)

end Language

/-- Framework the generated tests are written for. -/
inductive TestFramework where
  | junit
  | spock
  | kotest
deriving DecidableEq, Repr, Inhabited

namespace TestFramework

def name : TestFramework → String
  | junit => "junit"
  | spock => "spock"
  | kotest => "kotest"

/-- The framework of a name. -/
def ofName? : String → Option TestFramework
  | "junit" => some junit
  | "spock" => some spock
  | "kotest" => some kotest
  | _ => none

end TestFramework

/-- Tool that builds the generated project. -/
inductive BuildTool where
  | gradle
  | gradleKotlin
  | maven
deriving DecidableEq, Repr, Inhabited

namespace BuildTool

def name : BuildTool → String
  | gradle => "gradle"
  | gradleKotlin => "gradle-kotlin"
  | maven => "maven"

/-- The tool of a name. -/
def ofName? : String → Option BuildTool
  | "gradle" => some gradle
  | "gradle-kotlin" => some gradleKotlin
  | "maven" => some maven
  | _ => none

/-- Whether the build is a Gradle build, in either script language. -/
def isGradle : BuildTool → Bool
  | gradle | gradleKotlin => true
  | maven => false

/-- The build property that holds the platform version. -/
def platformVersionKey (tool : BuildTool) : String :=
  if tool.isGradle then "platformVersion" else "platform.version"

end BuildTool

/-- Kind of application. -/
inductive ApplicationType where
  | default
  | function
  | cli
  | messaging
deriving DecidableEq, Repr, Inhabited

namespace ApplicationType

def name : ApplicationType → String
  | default => "default"
  | function => "function"
  | cli => "cli"
  | messaging => "messaging"

/-- The kind of a name. -/
def ofName? : String → Option ApplicationType
  | "default" => some default
  | "function" => some function
  | "cli" => some cli
  | "messaging" => some messaging
  | _ => none

end ApplicationType

/-- What a second claimant of a singleton role does. -/
inductive SingletonPolicy where
  /-- The first claimant in input order keeps the role. -/
  | keepFirst
  /-- A second claimant stops the run. -/
  | reject
deriving DecidableEq, Repr, Inhabited

namespace SingletonPolicy

def name : SingletonPolicy → String
  | keepFirst => "keep-first"
  | reject => "reject"

/-- The policy of a name. -/
def ofName? : String → Option SingletonPolicy
  | "keep-first" => some keepFirst
  | "reject" => some reject
  | _ => none

end SingletonPolicy

/-- **Build options.**  Shared by every module of a run. -/
structure BuildOptions where
  tool : BuildTool := .gradle
  language : Language := .java
  testFramework : TestFramework := .junit
  applicationType : ApplicationType := .default
  /-- Whether capabilities should write example sources. -/
  exampleCode : Bool := true
  platformVersion : String := "4.0.3"
  /-- Appended to the platform version in build files. -/
  bomSuffix : String := ""
  singletonPolicy : SingletonPolicy := .keepFirst
deriving DecidableEq, Repr, Inhabited

namespace BuildOptions

/-- The platform version as build files state it. -/
def platformBomVersion (o : BuildOptions) : String := o.platformVersion ++ o.bomSuffix

end BuildOptions

end Fanout
