/-!
# Cutting and trimming texts

The small functions on texts that the rest of the library is written with:
cutting at separators, cutting into lines, trimming, padding to a column.

## Design notes

Each function is a recursion on the list of characters, and the form on
`String` converts at the boundary.  Blanks are the twenty-five characters with
the White_Space property; letters change case in ASCII only.
-/

namespace Fanout.Text

/-! ## Blanks -/

/-- The closed ranges of code points with the White_Space property. -/
def blankRanges : List (Nat × Nat) :=
  [(0x09, 0x0D), (0x20, 0x20), (0x85, 0x85), (0xA0, 0xA0), (0x1680, 0x1680), (0x2000, 0x200A),
   (0x2028, 0x2029), (0x202F, 0x202F), (0x205F, 0x205F), (0x3000, 0x3000)]

/-- Whether the character has the White_Space property. -/
def isBlank (c : Char) : Bool :=
  blankRanges.any fun r => r.1 ≤ c.toNat && c.toNat ≤ r.2

/-! ## Cutting -/

/-- **Pieces between separators.**  A text with `n` separators has `n + 1`
pieces, some of them perhaps empty. -/
def pieces (isSeparator : Char → Bool) : List Char → List (List Char)
  | [] => [[]]
  | c :: rest =>
    if isSeparator c then [] :: pieces isSeparator rest
    else
      match pieces isSeparator rest with
      | [] => [[c]]
      | piece :: others => (c :: piece) :: others

/-- The pieces of a string. -/
def split (isSeparator : Char → Bool) (s : String) : List String :=
  (pieces isSeparator s.toList).map String.ofList

/-- The pieces of a string that are not empty. -/
def words (isSeparator : Char → Bool) (s : String) : List String :=
  (split isSeparator s).filter fun w => !w.isEmpty

/-- What stands before and after the first `c`. -/
def cutFirst (c : Char) : List Char → Option (List Char × List Char)
  | [] => none
  | d :: rest =>
    if d = c then some ([], rest)
    else (cutFirst c rest).map fun cut => (d :: cut.1, cut.2)

/-- What stands before and after the last `c`. -/
def cutLast (c : Char) : List Char → Option (List Char × List Char)
  | [] => none
  | d :: rest =>
    match cutLast c rest with
    | some cut => some (d :: cut.1, cut.2)
    | none => if d = c then some ([], rest) else none

/-- **Lines.**  A line ends at a line feed, which may follow a carriage return;
after the last line feed there is no further, empty line. -/
def linesOf : List Char → List (List Char)
  | [] => []
  | '\n' :: rest => [] :: linesOf rest
  | '\r' :: '\n' :: rest => [] :: linesOf rest
  | c :: rest =>
    match linesOf rest with
    | [] => [[c]]
    | line :: others => (c :: line) :: others

/-- The lines of a string. -/
def lines (s : String) : List String := (linesOf s.toList).map String.ofList

/-! ## Replacing -/

/-- Replaces `old` by `new` after passing over `skip` characters. -/
def replaceAfter (old new : List Char) : Nat → List Char → List Char
  | _, [] => []
  | skip + 1, _ :: rest => replaceAfter old new skip rest
  | 0, c :: rest =>
    if old.isPrefixOf (c :: rest) then new ++ replaceAfter old new (old.length - 1) rest
    else c :: replaceAfter old new 0 rest

/-- The string with every occurrence of the non-empty text `old` replaced by
`new`, from left to right and without overlaps. -/
def replace (old new s : String) : String :=
  String.ofList (replaceAfter old.toList new.toList 0 s.toList)

/-! ## Trimming, case and columns -/

/-- The text without the characters at either end that satisfy `p`. -/
def trimEnds (p : Char → Bool) (l : List Char) : List Char :=
  ((l.dropWhile p).reverse.dropWhile p).reverse

/-- The string without blanks at either end. -/
def trim (s : String) : String := String.ofList (trimEnds isBlank s.toList)

/-- The string with every ASCII letter in upper case. -/
def upper (s : String) : String := String.ofList (s.toList.map Char.toUpper)

/-- The string with every ASCII letter in lower case. -/
def lower (s : String) : String := String.ofList (s.toList.map Char.toLower)

/-- The string followed by as many spaces as it falls short of `width`
characters. -/
def column (width : Nat) (s : String) : String :=
  s ++ String.ofList (List.replicate (width - s.length) ' ')

/-- The string after as many spaces as it falls short of `width` characters. -/
def rightColumn (width : Nat) (s : String) : String :=
  String.ofList (List.replicate (width - s.length) ' ') ++ s

/-! ## Equations -/

@[simp] theorem pieces_nil (p : Char → Bool) : pieces p [] = [[]] := rfl

theorem pieces_cons_of_separator {p : Char → Bool} {c : Char} (h : p c = true)
    (rest : List Char) : pieces p (c :: rest) = [] :: pieces p rest := by
  simp [pieces, h]

/-- A character that is no separator stands in front of the first piece of what follows. -/
theorem pieces_cons_of_not {p : Char → Bool} {c : Char} (h : p c = false)
    {rest first : List Char} {others : List (List Char)} (hrest : pieces p rest = first :: others) :
    pieces p (c :: rest) = (c :: first) :: others := by
  simp [pieces, h, hrest]

/-- There is always at least one piece. -/
theorem pieces_ne_nil (p : Char → Bool) (l : List Char) : pieces p l ≠ [] := by
  cases l with
  | nil => simp
  | cons c rest =>
    simp only [pieces]
    split
    · simp
    · split <;> simp

/-- No piece holds a separator. -/
theorem not_separator_of_mem_pieces {p : Char → Bool} {l piece : List Char} {c : Char}
    (h : piece ∈ pieces p l) (hc : c ∈ piece) : p c = false := by
  induction l generalizing piece with
  | nil => simp_all
  | cons d rest ih =>
    simp only [pieces] at h
    split at h
    · rcases List.mem_cons.1 h with rfl | h
      · simp at hc
      · exact ih h hc
    · rename_i hd
      have hd' : p d = false := by simpa using hd
      split at h
      · have : piece = [d] := by simpa using h
        subst this
        have : c = d := by simpa using hc
        exact this ▸ hd'
      · rename_i first others heq
        rcases List.mem_cons.1 h with rfl | h
        · rcases List.mem_cons.1 hc with rfl | hc
          · exact hd'
          · exact ih (heq ▸ List.mem_cons_self) hc
        · exact ih (heq ▸ List.mem_cons_of_mem _ h) hc

@[simp] theorem linesOf_nil : linesOf [] = [] := rfl

end Fanout.Text
