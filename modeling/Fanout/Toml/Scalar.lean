import Fanout.Text

/-!
# Numbers and moments

The scalars of a document that are written without quotes.  A scalar ends where
its form cannot go on, and what stands behind it is left to whoever asked.

## Main definitions

* `Scan α` — reading a value from the front of some characters.
* `integer`, `float` — numbers, with underscores between digits.
* `date`, `time`, `moment` — calendar dates, times of day, and both with the
  offset from Greenwich; their value is their usual form.
* `isTooGreat` — a decimal that rounds to infinity as a 64-bit value.

## Design notes

The forms share their first characters: `12` may go on as an integer, a float, a
date or a time.  So a scan that fails says whether the characters may still have
another form, or whether they have begun one form for good.
-/

namespace Fanout.Toml

/-! ## Scans -/

/-- Why characters cannot be read in some form. -/
inductive Misfit where
  /-- They do not have that form and may have another one. -/
  | otherForm
  /-- They begin in that form and do not go on in it. -/
  | broken
deriving DecidableEq, Repr

/-- **Reading a value** from the front of some characters, which leaves the rest. -/
abbrev Scan := StateT (List Char) (Except Misfit)

/-- What has to follow once a form has begun. -/
def settled {α : Type} (s : Scan α) : Scan α := fun cs =>
  match s cs with
  | .error _ => .error .broken
  | found => found

/-- The first of two forms that the characters have. -/
def firstOf {α : Type} (s t : Scan α) : Scan α := fun cs =>
  match s cs with
  | .error .otherForm => t cs
  | found => found

/-- Passes over a character. -/
def passOver (c : Char) : Scan Unit := fun cs =>
  if cs.head? = some c then .ok ((), cs.tail) else .error .otherForm

/-! ## Digits -/

/-- The value of a digit in any base up to sixteen. -/
def digitValue (c : Char) : Nat :=
  if c.isDigit then c.toNat - 0x30
  else if 'a' ≤ c ∧ c ≤ 'f' then c.toNat - 0x57
  else if 'A' ≤ c ∧ c ≤ 'F' then c.toNat - 0x37
  else 16

/-- The number that digits stand for. -/
def valueIn (base : Nat) (digits : List Char) : Nat :=
  digits.foldl (fun n c => n * base + digitValue c) 0

/-- The number that decimal digits behind a sign stand for. -/
def signedValue (negative : Bool) (digits : List Char) : Int :=
  if negative then -Int.ofNat (valueIn 10 digits) else Int.ofNat (valueIn 10 digits)

/-- Whether a number is negative, and what stands behind its sign. -/
def signed : List Char → Bool × List Char
  | '-' :: rest => (true, rest)
  | '+' :: rest => (false, rest)
  | cs => (false, cs)

/-- The sign of a number, if there is one: whether it is negative. -/
def sign : Scan Bool := fun cs => .ok (signed cs)

/-- The digits that go on behind a digit.  An underscore has to be followed by a
digit. -/
def moreDigits (base : Nat) : List Char → Except Misfit (List Char × List Char)
  | [] => .ok ([], [])
  | '_' :: c :: rest =>
    if digitValue c < base then do
      let (digits, rest) ← moreDigits base rest
      return (c :: digits, rest)
    else .error .broken
  | c :: rest =>
    if c = '_' then .error .broken
    else if digitValue c < base then do
      let (digits, rest) ← moreDigits base rest
      return (c :: digits, rest)
    else .ok ([], c :: rest)

/-- Digits, one at least. -/
def digits (base : Nat) : Scan (List Char) := fun cs =>
  if cs.head?.any fun c => digitValue c < base then moreDigits base cs else .error .otherForm

/-- The digits of a whole number.  Behind a zero in front there are no more. -/
def whole : Scan (List Char) := fun cs =>
  match cs with
  | '0' :: rest => .ok (['0'], rest)
  | _ => digits 10 cs

/-! ## Integers -/

/-- Admits the integers of 64 bits. -/
def inRange (i : Int) : Scan Int :=
  if -0x8000000000000000 ≤ i ∧ i < 0x8000000000000000 then return i else throw .broken

/-- An integer in some base, behind the mark of the base. -/
def integerIn (base : Nat) : Scan Int := do
  inRange (Int.ofNat (valueIn base (← settled (digits base))))

/-- A decimal integer. -/
def decimalInteger : Scan Int := do
  let negative ← sign
  inRange (signedValue negative (← whole))

/-- **Integer**: decimal with a sign, or in another base without. -/
def integer : Scan Int := fun cs =>
  match cs with
  | '0' :: 'x' :: rest => integerIn 16 rest
  | '0' :: 'o' :: rest => integerIn 8 rest
  | '0' :: 'b' :: rest => integerIn 2 rest
  | _ => decimalInteger cs

/-! ## Floating-point numbers -/

/-- **Whether the decimal of some digits, times a power of ten, rounds to
infinity** as a 64-bit value: whether it reaches the middle between the greatest
finite value and the next power of two. -/
def isTooGreat (digits : List Char) (power : Int) : Bool :=
  let significant := digits.dropWhile (· = '0')
  let size := (significant.length : Int) + power
  if significant.isEmpty || size < 309 then false
  else if 309 < size then true
  else
    let bound := Nat.pow 2 970 * (Nat.pow 2 54 - 1)
    bound * Nat.pow 10 (-power).toNat ≤ valueIn 10 significant * Nat.pow 10 power.toNat

/-- The digits behind a point, if there is one. -/
def fractionPart : Scan (Option (List Char)) := fun cs =>
  match cs with
  | '.' :: rest => some <$> settled (digits 10) |>.run rest
  | _ => .ok (none, cs)

/-- The power of ten behind its mark. -/
def power : Scan Int := do
  let negative ← sign
  return signedValue negative (← settled (digits 10))

/-- The power of ten with its mark, if there is one. -/
def powerPart : Scan (Option Int) := fun cs =>
  match cs with
  | 'e' :: rest | 'E' :: rest => some <$> power |>.run rest
  | _ => .ok (none, cs)

/-- A number with a fraction or a power of ten, whose value is not kept.  A
positive number may not be so great that it rounds to infinity. -/
def decimal : Scan Unit := do
  let negative ← sign
  let found ← whole
  let fraction? ← fractionPart
  let power? ← powerPart
  if fraction?.isNone && power?.isNone then throw .otherForm
  let fraction := fraction?.getD []
  if !negative && isTooGreat (found ++ fraction) (power?.getD 0 - fraction.length) then
    throw .broken

/-- Infinity, or no number at all. -/
def unbounded : Scan Unit := fun cs =>
  match (signed cs).2 with
  | 'i' :: 'n' :: 'f' :: rest | 'n' :: 'a' :: 'n' :: rest => .ok ((), rest)
  | _ => .error .otherForm

/-- **Floating-point number.** -/
def float : Scan Unit := firstOf decimal unbounded

/-! ## Moments -/

/-- Exactly `width` decimal digits, whose number lies between two bounds. -/
def fixed (width low high : Nat) : Scan (List Char) := fun cs =>
  let found := cs.take width
  let n := valueIn 10 found
  if found.length = width && found.all Char.isDigit && low ≤ n && n ≤ high then
    .ok (found, cs.drop width)
  else .error .otherForm

/-- The number of days of a month. -/
def daysIn (year month : Nat) : Nat :=
  if month = 2 then
    if year % 4 = 0 && (year % 100 ≠ 0 || year % 400 = 0) then 29 else 28
  else if month = 4 || month = 6 || month = 9 || month = 11 then 30
  else 31

/-- The month and the day behind the year of a date. -/
def monthAndDay (year : List Char) : Scan (List Char) := do
  let month ← fixed 2 1 12
  passOver '-'
  let day ← fixed 2 1 31
  if daysIn (valueIn 10 year) (valueIn 10 month) < valueIn 10 day then throw .broken
  return month ++ '-' :: day

/-- **Calendar date.** -/
def date : Scan (List Char) := do
  let year ← fixed 4 0 9999
  passOver '-'
  return year ++ '-' :: (← settled (monthAndDay year))

/-- The digits of a fraction of a second: nine at most, without zeros at the
end. -/
def fraction (digits : List Char) : List Char :=
  match ((digits.take 9).reverse.dropWhile (· = '0')).reverse with
  | [] => []
  | kept => '.' :: kept

/-- The fraction of a second, if there is one. -/
def secondFraction : Scan (List Char) := fun cs =>
  match cs with
  | '.' :: rest =>
    match rest.takeWhile Char.isDigit with
    | [] => .ok ([], cs)
    | found => .ok (fraction found, rest.drop found.length)
  | _ => .ok ([], cs)

/-- Minutes, seconds and their fraction. -/
def minuteAndSecond : Scan (List Char) := do
  let minute ← fixed 2 0 59
  passOver ':'
  let second ← fixed 2 0 60
  return minute ++ ':' :: second ++ (← secondFraction)

/-- **Time of day.** -/
def time : Scan (List Char) := do
  let hour ← fixed 2 0 23
  passOver ':'
  return hour ++ ':' :: (← settled minuteAndSecond)

/-- The hours and minutes of an offset behind its sign.  No offset at all counts as
one to the east. -/
def shift (sign : Char) : Scan (List Char) := do
  let hour ← fixed 2 0 23
  passOver ':'
  let minute ← fixed 2 0 59
  return (if valueIn 10 (hour ++ minute) = 0 then '+' else sign) :: hour ++ ':' :: minute

/-- Offset from Greenwich: `Z`, or hours and minutes; nothing if there is none. -/
def offset : Scan (List Char) := fun cs =>
  match cs with
  | 'Z' :: rest | 'z' :: rest => .ok (['Z'], rest)
  | '+' :: rest => settled (shift '+') rest
  | '-' :: rest => settled (shift '-') rest
  | _ => .ok ([], cs)

/-- A time of day behind a date, with a letter or a blank between them, and
perhaps with an offset. -/
def timeBehindDate : Scan (List Char) := do
  firstOf (passOver 'T') (firstOf (passOver 't') (passOver ' '))
  let time ← time
  return 'T' :: time ++ (← offset)

/-- A date, perhaps with a time of day behind it. -/
def dateAndTime : Scan (List Char) := do
  let date ← date
  return date ++ (← firstOf timeBehindDate (pure []))

/-- **Moment**: a date, a time of day, or both. -/
def moment : Scan (List Char) := firstOf dateAndTime time

end Fanout.Toml
