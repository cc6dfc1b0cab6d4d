import Fanout.Text

/-!
# Command line

The planner has four commands.  Three options go with any command, before it or
behind it; what stands behind it counts.

## Main definitions

* `Arguments` — a command with its options.
* `Arguments.parse?` — reads a command line, unless it is no proper one.

## Design notes

The words are read one after the other.  An option that waits for its value takes
the next word, unless that looks like an option itself.
-/

namespace Fanout.CommandLine

/-- Form of a report. -/
inductive Format where
  | table
  | json
deriving DecidableEq, Repr

/-- The form of a name. -/
def Format.ofName? : String → Option Format
  | "table" => some table
  | "json" => some json
  | _ => none

/-- Name of a command. -/
inductive CommandName where
  | plan
  | modules
  | catalog
  | describe
deriving DecidableEq, Repr

/-- The command of a name. -/
def CommandName.ofName? : String → Option CommandName
  | "plan" => some plan
  | "modules" => some modules
  | "catalog" => some catalog
  | "describe" => some describe
  | _ => none

/-- **Command**, with the options that go with it alone. -/
inductive Command where
  | plan (format : Format) (contents : Bool)
  | modules
  | catalog (format : Format)
  | describe
deriving DecidableEq, Repr

/-- **Command line.** -/
structure Arguments where
  command : Command
  /-- The file of the manifest. -/
  config? : Option String := none
  /-- Capabilities selected in addition. -/
  features : List String := []
  /-- Written propagations in addition. -/
  propagations : List String := []
deriving DecidableEq, Repr

/-- Option of the command line. -/
inductive OptionName where
  | config
  | feature
  | propagate
  | format
  | contents
deriving DecidableEq, Repr

namespace OptionName

/-- The option of a long name. -/
def ofLong? : String → Option OptionName
  | "config" => some config
  | "feature" => some feature
  | "propagate" => some propagate
  | "format" => some format
  | "contents" => some contents
  | _ => none

/-- The option of a letter. -/
def ofLetter? : Char → Option OptionName
  | 'c' => some config
  | 'f' => some feature
  | 'o' => some format
  | _ => none

/-- Whether the option goes with a command, or with no command yet. -/
def isAllowed : OptionName → Option CommandName → Bool
  | config, _ | feature, _ | propagate, _ => true
  | format, some .plan | format, some .catalog | contents, some .plan => true
  | format, _ | contents, _ => false

/-- Whether the option has a value. -/
def hasValue : OptionName → Bool
  | contents => false
  | _ => true

end OptionName

/-- **Options given before the command, or behind it.** -/
structure Given where
  config? : Option String := none
  features : List String := []
  propagations : List String := []
  format? : Option Format := none
  contents : Bool := false

namespace Given

/-- Takes the value of an option.  Only capabilities and propagations may be given
more than once. -/
def take (g : Given) (option : OptionName) (value : String) : Option Given :=
  match option with
  | .config => if g.config?.isSome || value.isEmpty then none else some { g with config? := value }
  | .feature => some { g with features := g.features ++ [value] }
  | .propagate => some { g with propagations := g.propagations ++ [value] }
  | .format =>
    match g.format?, Format.ofName? value with
    | none, some format => some { g with format? := format }
    | _, _ => none
  | .contents => none

/-- Takes an option without a value. -/
def takeFlag (g : Given) : OptionName → Option Given
  | .contents => if g.contents then none else some { g with contents := true }
  | _ => none

end Given

/-- **Reader of a command line.** -/
structure Reader where
  before : Given := {}
  command? : Option CommandName := none
  behind : Given := {}
  /-- The option that waits for its value. -/
  pending? : Option OptionName := none
  /-- Whether only plain words may follow. -/
  plainOnly : Bool := false

namespace Reader

/-- Changes the options of the current place. -/
def change (r : Reader) (f : Given → Option Given) : Option Reader :=
  match r.command? with
  | none => (f r.before).map fun given => { r with before := given }
  | some _ => (f r.behind).map fun given => { r with behind := given }

/-- Takes an option, perhaps with a value attached. -/
def takeOption (r : Reader) (option : OptionName) (attached? : Option String) : Option Reader :=
  if !option.isAllowed r.command? then none
  else
    match option.hasValue, attached? with
    | true, some value => r.change fun given => given.take option value
    | true, none => some { r with pending? := option }
    | false, some _ => none
    | false, none => r.change fun given => given.takeFlag option

/-- Takes a word with two dashes in front. -/
def takeLong (r : Reader) (name : List Char) : Option Reader := do
  let (name, attached?) :=
    match Text.cutFirst '=' name with
    | some (name, value) => (name, some (String.ofList value))
    | none => (name, none)
  r.takeOption (← OptionName.ofLong? (String.ofList name)) attached?

/-- Takes a word with one dash in front: a letter, and perhaps its value. -/
def takeShort (r : Reader) (letter : Char) (value : List Char) : Option Reader := do
  let attached? :=
    match value with
    | [] => none
    | '=' :: value => some (String.ofList value)
    | value => some (String.ofList value)
  r.takeOption (← OptionName.ofLetter? letter) attached?

/-- Takes a plain word, which can only be the command. -/
def takePlain (r : Reader) (word : String) : Option Reader :=
  match r.command?, r.plainOnly, CommandName.ofName? word with
  | none, false, some command => some { r with command? := command }
  | _, _, _ => none

/-- Takes a word that no option waits for. -/
def takeWord (r : Reader) (word : String) : Option Reader :=
  if r.plainOnly then r.takePlain word
  else
    match word.toList with
    | ['-', '-'] => some { r with plainOnly := true }
    | '-' :: '-' :: name => r.takeLong name
    | '-' :: letter :: value => r.takeShort letter value
    | _ => r.takePlain word

/-- Whether a word looks like an option. -/
def looksLikeOption (word : String) : Bool :=
  match word.toList with
  | '-' :: _ :: _ => true
  | _ => false

/-- Takes a word. -/
def take (r : Reader) (word : String) : Option Reader :=
  match r.pending? with
  | none => r.takeWord word
  | some option =>
    if looksLikeOption word then none
    else { r with pending? := none }.change fun given => given.take option word

/-- The command line, if it is complete. -/
def finish (r : Reader) : Option Arguments :=
  match r.pending?, r.command? with
  | none, some command =>
    some {
      command :=
        match command with
        | .plan => .plan (r.behind.format?.getD .table) r.behind.contents
        | .modules => .modules
        | .catalog => .catalog (r.behind.format?.getD .table)
        | .describe => .describe
      config? := r.behind.config?.or r.before.config?
      features := if r.behind.features.isEmpty then r.before.features else r.behind.features
      propagations :=
        if r.behind.propagations.isEmpty then r.before.propagations else r.behind.propagations }
  | _, _ => none

end Reader

/-- **Reads a command line.** -/
def Arguments.parse? (words : List String) : Option Arguments := do
  (← words.foldlM Reader.take {}).finish

end Fanout.CommandLine
