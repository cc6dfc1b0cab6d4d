import Fanout.Toml.Mark

/-!
# What an excerpt shows

The excerpt of a document at a line is a part of the document's lines, and each of its lines
is numbered from where the part would start if the document had the line at fault.  The part
itself starts no later than the document ends, so for a line far behind the end the two
places differ.  They differ only when the part is empty: wherever a line is shown, its number
is its own.

## Main definitions

* `Toml.excerptOf` — the lines that are shown of a document.

## Main statements

* `Toml.excerpt?_eq` — every excerpt is there.
* `Toml.number_excerptOf` — the numbers in an excerpt are consecutive.
* `Toml.of_mem_excerptOf` — a line that is shown has its own number, text and marker.
* `Toml.excerpt?_eq_some` — all of it, with the message that shows the excerpt.
-/

namespace Fanout

/-! ## Lines have no line feeds -/

theorem Text.notMem_linesOf {cs line : List Char} (h : line ∈ linesOf cs) : '\n' ∉ line := by
  fun_induction linesOf cs generalizing line with
  | case1 => cases h
  | case2 rest ih | case3 rest ih =>
    rcases List.mem_cons.1 h with rfl | h
    · exact List.not_mem_nil
    · exact ih h
  | case4 c rest hc _ _ _ =>
    rw [List.mem_singleton.1 h, List.mem_singleton]
    exact fun hfeed => hc hfeed.symm
  | case5 c rest hc _ first others hrest ih =>
    rw [hrest] at ih
    rcases List.mem_cons.1 h with rfl | h
    · refine List.not_mem_cons_of_ne_of_not_mem (fun hfeed => hc hfeed.symm) ?_
      exact ih List.mem_cons_self
    · exact ih (List.mem_cons_of_mem _ h)

/-- No line of a text has a line feed. -/
theorem Text.notMem_of_mem_lines {text line : String} (h : line ∈ lines text) :
    '\n' ∉ line.toList := by
  obtain ⟨cs, hcs, rfl⟩ := List.mem_map.1 h
  rw [String.toList_ofList]
  exact notMem_linesOf hcs

/-- A number is written without line feeds. -/
theorem Text.notMem_toDigits (n : Nat) : '\n' ∉ Nat.toDigits 10 n := by
  intro hfeed
  cases Nat.isDigit_of_mem_toDigits (by decide) (by decide) hfeed

namespace Toml

variable {lines : List String} {line k : Nat} {q : QuotedLine}

/-! ## The lines of an excerpt -/

/-- The lines that are shown of a document with the given lines. -/
def excerptOf (lines : List String) (line : Nat) : List QuotedLine :=
  let stop := min (line + 2) lines.length
  ((lines.take stop).drop (min (line - 2) stop)).zipIdx.map fun entry =>
    ⟨line - 2 + entry.2 + 1, entry.1, line - 2 + entry.2 + 1 == line⟩

/-- Every excerpt is there: the part of the lines that it shows is one of them. -/
theorem excerpt?_eq (text : String) (line : Nat) :
    excerpt? text line = some (excerptOf (Text.lines text) line) := by
  rw [excerpt?, slice?_of_le (Nat.min_le_right _ _) (Nat.min_le_right _ _)]
  rfl

/-- The numbers in an excerpt are consecutive. -/
theorem number_excerptOf (lines : List String) (line : Nat) :
    (excerptOf lines line).map QuotedLine.number = List.range' (line - 2 + 1)
      (min (line + 2) lines.length - min (line - 2) (min (line + 2) lines.length)) := by
  have hnumber : ∀ part : List String, (part.zipIdx.map fun entry =>
      line - 2 + entry.2 + 1) = List.range' (line - 2 + 1) part.length := by
    intro part
    calc part.zipIdx.map (fun entry => line - 2 + entry.2 + 1)
        = (part.zipIdx.map Prod.snd).map (line - 2 + 1 + ·) := by
          rw [List.map_map]
          refine List.map_congr_left fun entry _ => ?_
          show line - 2 + entry.2 + 1 = line - 2 + 1 + entry.2
          omega
      _ = List.range' (line - 2 + 1) part.length := by
          rw [List.zipIdx_map_snd, List.map_add_range']
  have hlength : ((lines.take (min (line + 2) lines.length)).drop
      (min (line - 2) (min (line + 2) lines.length))).length =
      min (line + 2) lines.length - min (line - 2) (min (line + 2) lines.length) := by
    rw [List.length_drop, List.length_take]
    omega
  rw [excerptOf, List.map_map, ← hlength]
  exact hnumber _

theorem mem_number_excerptOf : k ∈ (excerptOf lines line).map QuotedLine.number ↔
    max 1 (line - 1) ≤ k ∧ k ≤ min (line + 2) lines.length := by
  rw [number_excerptOf, List.mem_range'_1]
  omega

/-- **A line that is shown** has its own number and text, and is marked if it is the line at
fault. -/
theorem of_mem_excerptOf (h : q ∈ excerptOf lines line) :
    lines[q.number - 1]? = some q.text ∧ (q.atFault = true ↔ q.number = line) := by
  obtain ⟨⟨text, i⟩, hmem, rfl⟩ := List.mem_map.1 h
  refine ⟨?_, beq_iff_eq⟩
  have hget := List.mem_zipIdx_iff_getElem?.1 hmem
  rw [List.getElem?_drop, List.getElem?_take] at hget
  split at hget
  next hlt =>
    -- something is shown, so the part starts where the numbers do
    have hstart : min (line - 2) (min (line + 2) lines.length) = line - 2 := by omega
    rwa [hstart] at hget
  next => cases hget

/-- Nothing is shown if the document is empty or ends before the line in front of the one at
fault. -/
theorem excerptOf_eq_nil_iff :
    excerptOf lines line = [] ↔ lines = [] ∨ lines.length < line - 1 := by
  rw [← List.map_eq_nil_iff (f := QuotedLine.number), number_excerptOf, List.range'_eq_nil_iff,
    ← List.length_eq_zero_iff]
  omega

/-! ## The written lines -/

/-- A line that is shown is written behind its marker and its number. -/
theorem render_of_atFault_iff (h : q.atFault = true ↔ q.number = line) :
    q.render = (if q.number = line then ">>>" else "   ") ++ " "
      ++ Text.rightColumn 4 (toString q.number) ++ " | " ++ q.text := by
  rw [QuotedLine.render]
  simp only [h]
  rfl

/-- It takes one line of the message if its text has no line feed. -/
theorem notMem_render (h : '\n' ∉ q.text.toList) : '\n' ∉ q.render.toList := by
  have hmarker : '\n' ∉ (if q.atFault then ">>>" else "   ").toList := by
    cases q.atFault <;> decide
  have hnumber := Text.notMem_toDigits q.number
  simp [QuotedLine.render, hmarker, hnumber, h]

/-! ## The excerpt and the message -/

/-- **What an excerpt shows.**  Every excerpt is there.  It shows exactly the lines of the
document from the one before the line at fault to the second one after it, in their order,
each with its own number and text, and marks the line at fault; it shows none if the document
is empty or ends before the line in front of the one at fault.  In the message each of them is
written on a line of its own, behind its marker and its number. -/
theorem excerpt?_eq_some (text : String) (line : Nat) :
    let lines := Text.lines text
    ∃ shown, excerpt? text line = some shown ∧
      (shown.map QuotedLine.number).Pairwise (· < ·) ∧
      (∀ k, k ∈ shown.map QuotedLine.number ↔
        max 1 (line - 1) ≤ k ∧ k ≤ min (line + 2) lines.length) ∧
      (∀ q ∈ shown, lines[q.number - 1]? = some q.text ∧ (q.atFault = true ↔ q.number = line)) ∧
      (shown = [] ↔ lines = [] ∨ lines.length < line - 1) ∧
      (malformedAt text line).heading = "TOML parsing error at line " ++ toString line ++ ":\n"
        ++ "\n".intercalate (shown.map QuotedLine.render) ∧
      ∀ q ∈ shown, '\n' ∉ q.render.toList ∧
        q.render = (if q.number = line then ">>>" else "   ") ++ " "
          ++ Text.rightColumn 4 (toString q.number) ++ " | " ++ q.text := by
  intro lines
  refine ⟨excerptOf lines line, excerpt?_eq text line, ?_, fun k => mem_number_excerptOf,
    fun q hq => of_mem_excerptOf hq, excerptOf_eq_nil_iff, ?_, fun q hq => ⟨?_, ?_⟩⟩
  · rw [number_excerptOf]
    exact List.pairwise_lt_range' 1
  · have hexcerpt : excerpt text line = excerptOf lines line := by
      rw [excerpt, Option.get_of_eq_some _ (excerpt?_eq text line)]
    rw [malformedAt, hexcerpt]
    rfl
  · exact notMem_render (Text.notMem_of_mem_lines (List.mem_of_getElem? (of_mem_excerptOf hq).1))
  · exact render_of_atFault_iff (of_mem_excerptOf hq).2

/-- A line at fault behind the end of a document: the last line is shown, without a marker. -/
theorem excerpt?_behind_end : ∃ shown, excerpt? "[build]\r\ntool = " 3 = some shown ∧
    (∀ k, k ∈ shown.map QuotedLine.number ↔ k = 2) ∧
    ∀ q ∈ shown, q.render = "       2 | tool = " := by
  have hlines : Text.lines "[build]\r\ntool = " = ["[build]", "tool = "] := by decide
  obtain ⟨shown, hshown, -, hnumbers, hown, -, -, hrender⟩ :=
    excerpt?_eq_some "[build]\r\ntool = " 3
  rw [hlines] at hnumbers hown
  have hnumber : ∀ k, k ∈ shown.map QuotedLine.number ↔ k = 2 := by
    intro k
    rw [hnumbers]
    simp only [List.length_cons, List.length_nil]
    omega
  refine ⟨shown, hshown, hnumber, fun q hq => ?_⟩
  have hq2 : q.number = 2 := (hnumber _).1 (List.mem_map_of_mem hq)
  have htext := (hown q hq).1
  rw [hq2] at htext
  rw [(hrender q hq).2, hq2, ← Option.some.inj htext]
  decide

end Toml

end Fanout
