/-!
# Build properties

The properties of a module's build file stand in the order in which they were
first put; putting one again changes its value in place.
-/

namespace Fanout

/-- **Build properties, in order.** -/
structure BuildProperties where
  toList : List (String × String)
deriving DecidableEq, Repr, Inhabited

namespace BuildProperties

/-- No properties. -/
def empty : BuildProperties := ⟨[]⟩

/-- Puts a value under a key: in place of the key's value, or else at the
end. -/
def putIn (key value : String) : List (String × String) → List (String × String)
  | [] => [(key, value)]
  | (k, v) :: rest => if k = key then (key, value) :: rest else (k, v) :: putIn key value rest

/-- Puts a value under a key. -/
def put (p : BuildProperties) (key value : String) : BuildProperties := ⟨putIn key value p.toList⟩

/-- The value under a key. -/
def find? (p : BuildProperties) (key : String) : Option String :=
  (p.toList.find? fun e => e.1 == key).map (·.2)

/-- The number of properties. -/
def size (p : BuildProperties) : Nat := p.toList.length

/-- Whether there is no property. -/
def isEmpty (p : BuildProperties) : Bool := p.toList.isEmpty

/-! ## Equations -/

@[simp] theorem putIn_nil (key value : String) : putIn key value [] = [(key, value)] := rfl

theorem putIn_cons (key value k v : String) (rest : List (String × String)) :
    putIn key value ((k, v) :: rest) =
      if k = key then (key, value) :: rest else (k, v) :: putIn key value rest := rfl

end BuildProperties

end Fanout
