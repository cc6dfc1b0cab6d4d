import Fanout.Configuration.Flat
import Fanout.Proofs.Properties.Spelling
import Fanout.Proofs.SortedMap
import Fanout.Proofs.Text.Pieces

/-!
# A written table is read back

`Properties.read` gives back exactly the table that `Properties.render` was
given, whatever keys and values are in it.

## Main statements

* `decode?_escapeKey`, `decode?_escapeValue` — an escaped text means the text.
* `binding?_line` — the line of an entry is read as the entry.
* `wholeLine_line` — such a line is no comment, and ends where it ends.
* `read_render_flatten` — the file of a configuration tree is read as the flat
  form of the tree.
-/

namespace Fanout.Properties

/-! ## Units -/

theorem hexValue?_hexDigit : ∀ n < 16, hexValue? (hexDigit n) = some n := by decide

/-- Four digits give back their unit. -/
theorem unit?_hex4 {n : Nat} (h : n < 0x10000) :
    unit? (hexDigit (n / 0x1000 % 16)) (hexDigit (n / 0x100 % 16)) (hexDigit (n / 0x10 % 16))
      (hexDigit (n % 16)) = some n := by
  have hdigit : ∀ m : Nat, hexValue? (hexDigit (m % 16)) = some (m % 16) := fun m =>
    hexValue?_hexDigit _ (Nat.mod_lt m (by decide))
  rw [unit?, hdigit, hdigit, hdigit, hdigit]
  show some (0x1000 * (n / 0x1000 % 16) + 0x100 * (n / 0x100 % 16) + 0x10 * (n / 0x10 % 16)
    + n % 16) = some n
  congr 1
  omega

/-- A character is a code point outside the surrogates. -/
theorem toNat_range (c : Char) : c.toNat < 0xD800 ∨ 0xDFFF < c.toNat ∧ c.toNat < 0x110000 :=
  c.valid

theorem lt_of_mem_units {c : Char} {u : Nat} (h : u ∈ units c) : u < 0x10000 := by
  have hrange := toNat_range c
  unfold units at h
  split at h
  · rw [List.mem_singleton] at h
    omega
  · rcases List.mem_cons.1 h with rfl | h
    · omega
    · rw [List.mem_singleton] at h
      omega

/-- **The units of a character give back the character.** -/
theorem chars?_units_append (c : Char) (rest : List Nat) :
    chars? (units c ++ rest) = (chars? rest).map fun l => c :: l := by
  have hrange := toNat_range c
  unfold units
  split
  · have hplain : c.toNat < 0xD800 ∨ 0xDFFF < c.toNat := by omega
    rw [List.cons_append, chars?.eq_def]
    simp only [List.nil_append, if_pos hplain, Char.ofNat_toNat]
  · rename_i hlarge
    -- a pair: the first unit is a high surrogate, and the second a low one
    have hhigh : ¬ (0xD800 + (c.toNat - 0x10000) / 0x400 < 0xD800 ∨
        0xDFFF < 0xD800 + (c.toNat - 0x10000) / 0x400) := by omega
    have hpair : 0xD800 + (c.toNat - 0x10000) / 0x400 < 0xDC00 ∧
        0xDC00 ≤ 0xDC00 + (c.toNat - 0x10000) % 0x400 ∧
        0xDC00 + (c.toNat - 0x10000) % 0x400 ≤ 0xDFFF := by omega
    have hvalue : 0x10000 + (0xD800 + (c.toNat - 0x10000) / 0x400 - 0xD800) * 0x400
        + (0xDC00 + (c.toNat - 0x10000) % 0x400 - 0xDC00) = c.toNat := by omega
    rw [List.cons_append, chars?.eq_def]
    simp only [if_neg hhigh, List.cons_append, List.nil_append, if_pos hpair, hvalue,
      Char.ofNat_toNat]

/-- The units of a text give back the text. -/
theorem chars?_flatMap_units (l : List Char) : chars? (l.flatMap units) = some l := by
  induction l with
  | nil => rfl
  | cons c l ih => rw [List.flatMap_cons, chars?_units_append, ih, Option.map_some]

/-! ## Escapes -/

/-- A unit that is written in hexadecimal is read back. -/
theorem unescape_hex4 {n : Nat} (h : n < 0x10000) (rest : List Char) :
    unescape ('\\' :: 'u' :: hex4 n ++ rest) = (unescape rest).map fun l => n :: l := by
  rw [hex4, List.cons_append, unescape.eq_def]
  simp only [List.cons_append, List.nil_append, if_pos, unit?_hex4 h, Option.bind_some]

theorem unescape_flatMap_hex4 {us : List Nat} (h : ∀ u ∈ us, u < 0x10000) (rest : List Char) :
    unescape ((us.flatMap fun unit => '\\' :: 'u' :: hex4 unit) ++ rest)
      = (unescape rest).map fun l => us ++ l := by
  induction us with
  | nil => simp
  | cons u us ih =>
    have hu : u < 0x10000 := h u List.mem_cons_self
    have hus := ih fun v hv => h v (List.mem_cons_of_mem _ hv)
    rw [List.flatMap_cons, List.append_assoc, unescape_hex4 hu, hus, Option.map_map]
    rfl

/-- A backslash gives the character behind it its meaning. -/
theorem unescape_backslash {d : Char} (hd : d ≠ 'u') (rest : List Char) :
    unescape ('\\' :: d :: rest) = (unescape rest).map fun l => units (meaning d) ++ l := by
  rw [unescape.eq_def]
  simp [hd]

theorem unescape_bare {c : Char} (hc : c ≠ '\\') (rest : List Char) :
    unescape (c :: rest) = (unescape rest).map fun l => units c ++ l := by
  rw [unescape.eq_def]
  simp [hc]

/-- **The written form of a character spells out its units.** -/
theorem unescape_escape (b : Bool) (c : Char) (rest : List Char) :
    unescape (escape b c ++ rest) = (unescape rest).map fun l => units c ++ l := by
  unfold escape
  split
  · split
    · exact unescape_backslash (by decide) rest
    · exact unescape_bare (by decide) rest
  all_goals try exact unescape_backslash (by decide) rest
  rename_i hspace hback htab hfeed hreturn hform heq hcolon hsharp hbang
  split
  · exact unescape_bare hback rest
  · exact unescape_flatMap_hex4 (fun u hu => lt_of_mem_units hu) rest

theorem unescape_flatMap_escape (b : Bool) (l : List Char) :
    unescape (l.flatMap (escape b)) = some (l.flatMap units) := by
  induction l with
  | nil => rfl
  | cons c l ih => rw [List.flatMap_cons, unescape_escape, ih, Option.map_some, List.flatMap_cons]

/-- **An escaped key means the key.** -/
theorem decode?_escapeKey (key : List Char) :
    decode? (escapeKey key) = some (String.ofList key) := by
  rw [decode?, escapeKey, unescape_flatMap_escape, Option.bind_some, chars?_flatMap_units,
    Option.map_some]

/-- **An escaped value means the value.** -/
theorem decode?_escapeValue (value : List Char) :
    decode? (escapeValue value) = some (String.ofList value) := by
  have hunits : unescape (escapeValue value) = some (value.flatMap units) := by
    cases value with
    | nil => rfl
    | cons c rest =>
      rw [escapeValue, unescape_escape, unescape_flatMap_escape, Option.map_some,
        List.flatMap_cons]
  rw [decode?, hunits, Option.bind_some, chars?_flatMap_units, Option.map_some]

/-! ## Lines -/

/-- **A line that stands for itself**: neither blank nor a comment, and on one
line of the file. -/
structure WholeLine (l : List Char) : Prop where
  dropGap : dropGap l = l
  notIdle : isIdle l = false
  finished : unfinished? l = none
  oneLine : ∀ c ∈ l, decide (c = '\n') = false

theorem StandsBare.not_endsKey {c : Char} (h : StandsBare true c) : endsKey c = false := by
  obtain ⟨hprint, -, heq, hcolon, -, -, hspace⟩ := h
  have htab : c ≠ '\t' := by rintro rfl; exact absurd hprint (by decide)
  have hform : c ≠ '\x0c' := by rintro rfl; exact absurd hprint (by decide)
  simp [endsKey, isGap, heq, hcolon, hspace rfl, htab, hform]

theorem isGap_of_not_endsKey {c : Char} (h : endsKey c = false) : isGap c = false := by
  rw [endsKey, Bool.or_eq_false_iff] at h
  exact h.2

theorem dropGap_of_head {l : List Char} (h : ∀ c ∈ l.head?, isGap c = false) : dropGap l = l := by
  cases l with
  | nil => rfl
  | cons c l => rw [dropGap, List.dropWhile_cons, h c rfl]; simp

theorem escape_ne_nil (b : Bool) (c : Char) : escape b c ≠ [] := by
  unfold escape
  split
  · split <;> simp
  all_goals try simp
  split
  · simp
  · unfold units
    split <;> simp

/-- No value begins with a blank that a reader would drop. -/
theorem dropGap_escapeValue (value : List Char) :
    dropGap (escapeValue value) = escapeValue value := by
  refine dropGap_of_head ?_
  cases value with
  | nil => intro c hc; cases hc
  | cons d rest =>
    intro c hc
    obtain ⟨e, es, hform⟩ := List.exists_cons_of_ne_nil (escape_ne_nil true d)
    have hhead : c ∈ (escape true d).head? := by
      rw [escapeValue, hform] at hc
      rw [hform]
      exact hc
    rcases (spelled_escape true d).head c hhead with rfl | hbare
    · rfl
    · exact isGap_of_not_endsKey hbare.not_endsKey

/-- **The line of an entry is read as the entry.** -/
theorem binding?_line (key value : String) :
    binding? (line key value).toList = some (key, value) := by
  have hcut := cutKey_of_spelled (not_standsBare_backslash true)
    (fun c hc => StandsBare.not_endsKey hc) (spelled_escapeKey key.toList)
    (escapeValue value.toList)
  have hafter : afterSeparator ('=' :: escapeValue value.toList) = escapeValue value.toList := by
    show dropGap (escapeValue value.toList) = _
    exact dropGap_escapeValue value.toList
  rw [binding?, line, String.toList_ofList, hcut, hafter, decode?_escapeKey, decode?_escapeValue,
    String.ofList_toList, String.ofList_toList]
  rfl

/-- A written line is spelled, the equals sign in its middle included. -/
theorem spelled_line (key value : String) :
    Spelled (fun c => c ≠ '\\' ∧ c ≠ '\n') (line key value).toList := by
  have hbare : ∀ (b : Bool) (c : Char), StandsBare b c → c ≠ '\\' ∧ c ≠ '\n' := by
    intro b c h
    refine ⟨h.2.1, ?_⟩
    rintro rfl
    exact absurd h.1 (by decide)
  rw [line, String.toList_ofList]
  refine ((spelled_escapeKey _).mono (hbare true)).append ?_
  exact .bare (by decide) ((spelled_escapeValue _).mono (hbare false))

/-- A written line begins with a backslash, with an equals sign, or with a
character that stands bare in a key. -/
theorem head_line (key value : String) :
    ∃ c, (line key value).toList.head? = some c ∧ (c = '\\' ∨ c = '=' ∨ StandsBare true c) := by
  rw [line, String.toList_ofList]
  cases hkey : escapeKey key.toList with
  | nil => exact ⟨'=', rfl, Or.inr (Or.inl rfl)⟩
  | cons c rest =>
    have hhead := (spelled_escapeKey key.toList).head c (by rw [hkey]; rfl)
    exact ⟨c, rfl, hhead.imp_right Or.inr⟩

theorem wholeLine_line (key value : String) : WholeLine (line key value).toList := by
  obtain ⟨c, hc, hform⟩ := head_line key value
  constructor
  case dropGap =>
    refine dropGap_of_head fun d hd => ?_
    have hdc : d = c := by rw [hc] at hd; exact (Option.some.inj hd).symm
    subst hdc
    rcases hform with rfl | rfl | hbare
    · rfl
    · rfl
    · exact isGap_of_not_endsKey hbare.not_endsKey
  case notIdle =>
    cases hline : (line key value).toList with
    | nil => rw [hline] at hc; cases hc
    | cons d rest =>
      have hdc : d = c := by rw [hline] at hc; exact Option.some.inj hc
      subst hdc
      rcases hform with rfl | rfl | hbare
      · rfl
      · rfl
      · obtain ⟨-, -, -, -, hsharp, hbang, -⟩ := hbare
        simp [isIdle, hsharp, hbang]
  case finished => exact unfinished?_of_spelled (by simp) (spelled_line key value)
  case oneLine =>
    intro d hd
    rw [decide_eq_false_iff_not]
    rintro rfl
    exact (spelled_line key value).newline_notMem (by simp) hd

/-! ## Files -/

theorem logicalLines_of_wholeLine {ls : List (List Char)} (h : ∀ l ∈ ls, WholeLine l) :
    logicalLines none ls = ls := by
  induction ls with
  | nil => rfl
  | cons l ls ih =>
    have hl := h l List.mem_cons_self
    rw [logicalLines]
    simp [hl.dropGap, hl.notIdle, hl.finished, ih fun m hm => h m (List.mem_cons_of_mem _ hm)]

/-- The logical lines of a file whose lines stand for themselves are its lines. -/
theorem logicalLines_pieces {ls : List (List Char)} (h : ∀ l ∈ ls, WholeLine l) :
    logicalLines none (Text.pieces (· = '\n') (['\n'].intercalate ls)) = ls := by
  cases ls with
  | nil => rfl
  | cons l ls =>
    rw [Text.pieces_intercalate (by decide) (List.cons_ne_nil _ _) fun m hm => (h m hm).oneLine]
    exact logicalLines_of_wholeLine h

theorem mapM_binding?_lines (entries : List (String × String)) :
    (entries.map fun e => (line e.1 e.2).toList).mapM binding? = some entries := by
  induction entries with
  | nil => rfl
  | cons e entries ih =>
    rw [List.map_cons, List.mapM_cons, binding?_line, ih]
    rfl

/-- **The file of a configuration tree is read as the tree's flat form**: every
key with its text, and nothing else. -/
theorem read_render_flatten (fields : List (String × Tree)) :
    read (render (Tree.flatten fields)) = some (Tree.flatten fields) := by
  generalize Tree.flatten fields = table
  -- the order of the lines is the order of the entries whose lines they are
  let entries := table.toList.mergeSort fun a b => precedes (line a.1 a.2) (line b.1 b.2)
  have hsorted : (table.toList.map fun e => line e.1 e.2).mergeSort precedes
      = entries.map fun e => line e.1 e.2 := by
    refine (List.map_mergeSort ?_).symm
    intro a _ b _
    rfl
  have htext : (render table).toList
      = ['\n'].intercalate (entries.map fun e => (line e.1 e.2).toList) := by
    rw [render, hsorted, String.toList_intercalate, List.map_map]
    rfl
  have hwhole : ∀ l ∈ entries.map (fun e => (line e.1 e.2).toList), WholeLine l := by
    intro l hl
    obtain ⟨e, -, rfl⟩ := List.mem_map.1 hl
    exact wholeLine_line e.1 e.2
  have hperm : entries.Perm table.toList := List.mergeSort_perm _ _
  rw [read, htext, logicalLines_pieces hwhole, mapM_binding?_lines, Option.map_some,
    SortedMap.ofList_eq_of_perm hperm]

end Fanout.Properties
