import Fanout.SortedMap

/-!
# JSON values

Machine-readable reports are JSON values, written with two spaces for each level
and with the members of objects in the order of their names.
-/

namespace Fanout

/-- **JSON value.** -/
inductive Json where
  | null
  | bool (b : Bool)
  | string (s : String)
  | array (items : List Json)
  /-- Values under names, which ascend. -/
  | object (members : List (String × Json))
deriving Inhabited

namespace Json

/-- The object of some members, where a later member wins over an earlier one of
its name. -/
def ofMembers (members : List (String × Json)) : Json :=
  object (members.foldl (fun sorted member => Entries.insert member.1 member.2 sorted) [])

/-- The array of some texts. -/
def strings (texts : List String) : Json := array (texts.map string)

/-- A text, or null. -/
def stringOrNull : Option String → Json
  | some s => string s
  | none => null

/-! ## Written form -/

/-- A digit of base sixteen, in lower case. -/
def lowerDigit (n : Nat) : Char := if n < 10 then Char.ofNat (0x30 + n) else Char.ofNat (0x57 + n)

/-- A character between quotes. -/
def escapeChar (c : Char) : List Char :=
  match c with
  | '"' => ['\\', '"']
  | '\\' => ['\\', '\\']
  | '\x08' => ['\\', 'b']
  | '\t' => ['\\', 't']
  | '\n' => ['\\', 'n']
  | '\x0c' => ['\\', 'f']
  | '\r' => ['\\', 'r']
  | _ =>
    if c.toNat < 0x20 then
      ['\\', 'u', '0', '0', lowerDigit (c.toNat / 16), lowerDigit (c.toNat % 16)]
    else [c]

/-- A text between quotes. -/
def stringForm (s : String) : String :=
  "\"" ++ String.ofList (s.toList.flatMap escapeChar) ++ "\""

/-- A line end and the indentation of a level. -/
def newline (level : Nat) : String := "\n" ++ String.ofList (List.replicate (2 * level) ' ')

mutual

/-- The written form of a value inside some levels. -/
def form (level : Nat) : Json → String
  | null => "null"
  | bool b => if b then "true" else "false"
  | string s => stringForm s
  | array items => if items.isEmpty then "[]" else "[" ++ itemsForm (level + 1) items ++ newline level ++ "]"
  | object members =>
    if members.isEmpty then "\x7b\x7d"
    else "\x7b" ++ membersForm (level + 1) members ++ newline level ++ "\x7d"

/-- The items of an array, each on a line of its own. -/
def itemsForm (level : Nat) : List Json → String
  | [] => ""
  | [item] => newline level ++ form level item
  | item :: rest => newline level ++ form level item ++ "," ++ itemsForm level rest

/-- The members of an object, each on a line of its own. -/
def membersForm (level : Nat) : List (String × Json) → String
  | [] => ""
  | [(name, value)] => newline level ++ stringForm name ++ ": " ++ form level value
  | (name, value) :: rest =>
    newline level ++ stringForm name ++ ": " ++ form level value ++ "," ++ membersForm level rest

end

/-- **Written form of a value.** -/
def text (value : Json) : String := form 0 value

end Json

end Fanout
