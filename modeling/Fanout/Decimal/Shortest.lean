/-!
# The shortest decimal of a binary fraction

A floating-point setting is written with the fewest decimal digits that read
back to the same 64-bit value, in positional notation and never with an
exponent.

## Main definitions

* `Binary` — a positive finite value `mantissa · 2 ^ exponent`, with the shape
  of the gap below it.
* `Binary.ReadsBack` — the decimals that round to the value.
* `Binary.shortest` — the coarsest decimal grid that has such a decimal beside
  the value, and the one nearer to the value on it.
* `text` — the written form of any 64-bit value.

## Design notes

All comparisons are between natural numbers: a decimal `d · 10 ^ e` and a
binary `n · 2 ^ q` are both multiplied by the powers that make them whole, so
nothing is ever rounded.  The ends of the rounding interval belong to it
exactly when the mantissa is even.  Of two decimals equally near to the value
the greater is written.
-/

namespace Fanout.Decimal

/-- **Positive finite value** `mantissa · 2 ^ exponent`. -/
structure Binary where
  mantissa : Nat
  exponent : Int
  /-- The value is the least of its binade, so the gap below it is half the gap
  above. -/
  narrowBelow : Bool

namespace Binary

/-- Reads the exponent and fraction fields of a finite value. -/
def ofBits (bits : UInt64) : Binary :=
  let field := ((bits >>> 52) &&& 0x7FF).toNat
  let fraction := (bits &&& 0xFFFFFFFFFFFFF).toNat
  if field = 0 then ⟨fraction, -1074, false⟩
  else ⟨0x10000000000000 + fraction, (field : Int) - 1075, fraction == 0 && 1 < field⟩

/-! ### A decimal against a binary

The ends of the rounding interval lie a quarter or a half of a unit from the
value, so the binary side counts quarters: the value is `4 · mantissa`. -/

/-- The decimal `d · 10 ^ e` as a multiple of the common unit. -/
def decimalSide (x : Binary) (d : Nat) (e : Int) : Nat :=
  d * Nat.pow 10 e.toNat * Nat.pow 2 (2 - x.exponent).toNat

/-- As many quarters of the last binary place as `n` says, as a multiple of the
common unit. -/
def binarySide (x : Binary) (n : Nat) (e : Int) : Nat :=
  n * Nat.pow 2 (x.exponent - 2).toNat * Nat.pow 10 (-e).toNat

/-- **Rounding interval.**  The decimal `d · 10 ^ e` rounds to the value. -/
def ReadsBack (x : Binary) (d : Nat) (e : Int) : Prop :=
  let lower := x.binarySide (4 * x.mantissa - if x.narrowBelow then 1 else 2) e
  let upper := x.binarySide (4 * x.mantissa + 2) e
  if x.mantissa % 2 = 0 then lower ≤ x.decimalSide d e ∧ x.decimalSide d e ≤ upper
  else lower < x.decimalSide d e ∧ x.decimalSide d e < upper

instance (x : Binary) (d : Nat) (e : Int) : Decidable (x.ReadsBack d e) := by
  unfold ReadsBack; exact inferInstance

/-- The greatest multiple of `10 ^ e` that does not exceed the value. -/
def floorOn (x : Binary) (e : Int) : Nat :=
  x.binarySide (4 * x.mantissa) e / x.decimalSide 1 e

/-- The neighbour of the value on the grid of the multiples of `10 ^ e` that
reads back; of two, the nearer, and the upper one in a tie. -/
def onGrid? (x : Binary) (e : Int) : Option Nat :=
  let below := x.floorOn e
  if x.ReadsBack below e then
    if x.ReadsBack (below + 1) e
        ∧ x.decimalSide (2 * below + 1) e ≤ x.binarySide (8 * x.mantissa) e then
      some (below + 1)
    else some below
  else if x.ReadsBack (below + 1) e then some (below + 1)
  else none

/-- The power of ten of the leading decimal digit. -/
def leadingPower (x : Binary) : Int :=
  let powers := (List.range 633).map fun (i : Nat) => (308 : Int) - i
  (powers.find? fun e => 0 < x.floorOn e).getD (-324)

/-- **Shortest decimal.**  Digits and exponent on the coarsest grid that has a
decimal reading back to the value. -/
def shortest (x : Binary) : Nat × Int :=
  let leading := x.leadingPower
  let grids := (List.range 17).map fun (i : Nat) => leading - i
  match grids.findSome? fun e => (x.onGrid? e).map fun d => (d, e) with
  | some decimal => decimal
  -- seventeen digits suffice for every value; past them the value itself is written
  | none =>
    (x.mantissa * Nat.pow 2 x.exponent.toNat * Nat.pow 5 (-x.exponent).toNat, min 0 x.exponent)

end Binary

/-! ## Positional notation -/

/-- The decimal `d · 10 ^ e` written out, without a trailing zero behind the
point. -/
def positional (d : Nat) (e : Int) : List Char :=
  let all := Nat.toDigits 10 d
  let digits := (all.reverse.dropWhile (· = '0')).reverse
  let shift := e + (all.length - digits.length : Nat)
  let places := (-shift).toNat
  if 0 ≤ shift then digits ++ List.replicate shift.toNat '0'
  else if places < digits.length then
    digits.take (digits.length - places) ++ '.' :: digits.drop (digits.length - places)
  else '0' :: '.' :: List.replicate (places - digits.length) '0' ++ digits

/-- **Written form of a 64-bit value.**  The sign is kept on zero. -/
def text (x : Float) : String :=
  let bits := x.toBits
  let magnitude := bits &&& 0x7FFFFFFFFFFFFFFF
  if 0x7FF0000000000000 < magnitude then "NaN"
  else
    let sign := if magnitude = bits then "" else "-"
    if magnitude = 0x7FF0000000000000 then sign ++ "inf"
    else if magnitude = 0 then sign ++ "0"
    else
      let decimal := (Binary.ofBits magnitude).shortest
      sign ++ String.ofList (positional decimal.1 decimal.2)

example : text 0.1 = "0.1" := by decide +kernel

example : text 1e21 = "1000000000000000000000" := by decide +kernel

end Fanout.Decimal
