import Fanout.Configuration.Basic
import Fanout.Proofs.Properties.RoundTrip

/-!
# Lines of a properties file

What a properties file looks like, whatever is in the table: one line of printable ASCII
for each entry, the lines in strictly ascending order, and in each line one equals sign
that no backslash escapes.  An equals sign is escaped when an odd number of backslashes
stands right before it, as backslashes also escape each other.

## Main definitions

* `Properties.backslashes` — how many backslashes a text ends with.
* `Properties.CutsAt` — a line is cut at an equals sign that is not escaped.
* `Properties.sortedLines` — the lines of a table's file.

## Main statements

* `Properties.cutsAt_line_iff` — the line of an entry is cut between its key and its
  value, and nowhere else.
* `Properties.sortedLines_ascending` — the lines ascend strictly.
* `Configuration.properties_lines` — the lines of a configuration's file.
-/

namespace Fanout

namespace Properties

/-! ## Equals signs that are not escaped -/

/-- The number of backslashes a text ends with. -/
def backslashes (l : List Char) : Nat := (l.reverse.takeWhile (· = '\\')).length

/-- **Cut of a line**: `before` and `after` stand around an equals sign, and the number of
backslashes right before it is even. -/
def CutsAt (l before after : List Char) : Prop :=
  l = before ++ '=' :: after ∧ backslashes before % 2 = 0

section

variable {p q : Char → Prop} {l key value before after : List Char} {c : Char}

theorem backslashes_backslash (l : List Char) :
    backslashes (l ++ ['\\']) = backslashes l + 1 := by
  simp [backslashes]

theorem backslashes_of_ne (hc : c ≠ '\\') (l : List Char) : backslashes (l ++ [c]) = 0 := by
  simp [backslashes, hc]

/-- An escape leaves no backslash open. -/
theorem backslashes_escaped (heven : backslashes l % 2 = 0) (d : Char) :
    backslashes (l ++ ['\\', d]) % 2 = 0 := by
  rw [List.append_cons]
  by_cases hd : d = '\\'
  · rw [hd, backslashes_backslash, backslashes_backslash]
    omega
  · rw [backslashes_of_ne hd]

/-- Behind a spelled text no backslash is open, if none was open before it. -/
theorem backslashes_append_spelled (hp : ¬ p '\\') (hl : Spelled p l)
    (heven : backslashes before % 2 = 0) : backslashes (before ++ l) % 2 = 0 := by
  induction hl generalizing before with
  | nil => rwa [List.append_nil]
  | @bare c l hc _ ih =>
    have hne : c ≠ '\\' := by rintro rfl; exact hp hc
    rw [List.append_cons]
    exact ih (by rw [backslashes_of_ne hne])
  | @escaped d l _ _ ih =>
    show backslashes (before ++ (['\\', d] ++ l)) % 2 = 0
    rw [← List.append_assoc]
    exact ih (backslashes_escaped heven d)

/-- An equals sign in a spelled text is escaped, if it may not stand bare. -/
theorem backslashes_odd_of_spelled (hp : ¬ p '\\') (heq : ¬ p '=') {lead : List Char}
    (hl : Spelled p (before ++ '=' :: after)) (heven : backslashes lead % 2 = 0) :
    backslashes (lead ++ before) % 2 = 1 := by
  generalize hform : before ++ '=' :: after = l at hl
  induction hl generalizing lead before with
  | nil => cases (List.append_ne_nil_of_right_ne_nil _ (List.cons_ne_nil _ _)) hform
  | @bare c l hc _ ih =>
    match before, hform with
    | [], hform => exact absurd ((List.cons.inj hform).1 ▸ hc) heq
    | d :: before, hform =>
      obtain ⟨rfl, hrest⟩ := List.cons.inj hform
      have hne : d ≠ '\\' := by rintro rfl; exact hp hc
      rw [List.append_cons]
      exact ih (by rw [backslashes_of_ne hne]) hrest
  | @escaped d l _ _ ih =>
    match before, hform with
    | [], hform => cases (List.cons.inj hform).1
    | [c], hform =>
      rw [(List.cons.inj hform).1, backslashes_backslash]
      omega
    | c :: d' :: before, hform =>
      obtain ⟨hc, hform'⟩ := List.cons.inj hform
      obtain ⟨hd, hrest⟩ := List.cons.inj hform'
      rw [hc, hd]
      show backslashes (lead ++ (['\\', d] ++ before)) % 2 = 1
      rw [← List.append_assoc]
      exact ih (backslashes_escaped heven d) hrest

/-- **Where a line is cut.**  Between two spelled texts in which no equals sign stands
bare, only the one between them is not escaped. -/
theorem cutsAt_iff_of_spelled (hp : ¬ p '\\') (heq : ¬ p '=') (hq : ¬ q '\\') (heq' : ¬ q '=')
    (hkey : Spelled p key) (hvalue : Spelled q value) :
    CutsAt (key ++ '=' :: value) before after ↔ before = key ∧ after = value := by
  have hclosed : backslashes ([] ++ key) % 2 = 0 := backslashes_append_spelled hp hkey rfl
  rw [List.nil_append] at hclosed
  constructor
  · rintro ⟨hform, heven⟩
    rcases List.append_eq_append_iff.1 hform with ⟨mid, rfl, hmid⟩ | ⟨mid, rfl, hmid⟩
    · match mid, hmid with
      | [], hmid => exact ⟨List.append_nil key, (List.cons.inj hmid).2.symm⟩
      | c :: mid, hmid =>
        -- the sign would stand in the value
        obtain ⟨rfl, rfl⟩ := List.cons.inj hmid
        have hopen : backslashes (key ++ ['=']) = 0 := backslashes_of_ne (by decide) key
        have hodd := backslashes_odd_of_spelled hq heq' hvalue (by rw [hopen])
        rw [List.append_assoc, List.singleton_append] at hodd
        omega
    · match mid, hmid with
      | [], hmid => exact ⟨(List.append_nil before).symm, (List.cons.inj hmid).2⟩
      | c :: mid, hmid =>
        -- the sign would stand in the key
        obtain ⟨rfl, rfl⟩ := List.cons.inj hmid
        have hodd : backslashes ([] ++ before) % 2 = 1 :=
          backslashes_odd_of_spelled hp heq hkey rfl
        rw [List.nil_append] at hodd
        omega
  · rintro ⟨rfl, rfl⟩
    exact ⟨rfl, hclosed⟩

end

/-! ## The line of an entry -/

theorem not_standsBare_equals (b : Bool) : ¬ StandsBare b '=' := fun h => h.2.2.1 rfl

/-- **The line of an entry is cut between its key and its value**, and nowhere else. -/
theorem cutsAt_line_iff {key value : String} {before after : List Char} :
    CutsAt (line key value).toList before after ↔
      before = escapeKey key.toList ∧ after = escapeValue value.toList := by
  rw [line, String.toList_ofList]
  exact cutsAt_iff_of_spelled (not_standsBare_backslash true) (not_standsBare_equals true)
    (not_standsBare_backslash false) (not_standsBare_equals false) (spelled_escapeKey _)
    (spelled_escapeValue _)

/-! ## Printable lines -/

theorem isPrintable_backslash {c : Char} (hc : isPrintable c = true) :
    ∀ d ∈ ['\\', c], isPrintable d = true := by
  intro d hd
  rcases List.mem_cons.1 hd with rfl | hd
  · rfl
  · rwa [List.mem_singleton.1 hd]

/-- The written form of a character is printable. -/
theorem isPrintable_escape (b : Bool) (c : Char) : ∀ d ∈ escape b c, isPrintable d = true := by
  intro d hd
  unfold escape at hd
  split at hd
  · split at hd
    · exact isPrintable_backslash (by decide) d hd
    · rw [List.mem_singleton.1 hd]
      rfl
  all_goals try exact isPrintable_backslash (by decide) d hd
  split at hd
  next hprint => rwa [List.mem_singleton.1 hd]
  next =>
    obtain ⟨unit, -, hd⟩ := List.mem_flatMap.1 hd
    have hparts : d ∈ ['\\', 'u'] ++ hex4 unit := hd
    rcases List.mem_append.1 hparts with hd | hd
    · exact isPrintable_backslash (by decide) d hd
    · exact (hex4_standsBare unit d hd).1

theorem isPrintable_flatMap_escape (b : Bool) (l : List Char) :
    ∀ d ∈ l.flatMap (escape b), isPrintable d = true := by
  intro d hd
  obtain ⟨c, -, hd⟩ := List.mem_flatMap.1 hd
  exact isPrintable_escape b c d hd

/-- **The line of an entry is printable ASCII.** -/
theorem isPrintable_line (key value : String) :
    ∀ d ∈ (line key value).toList, isPrintable d = true := by
  intro d hd
  rw [line, String.toList_ofList] at hd
  rcases List.mem_append.1 hd with hd | hd
  · exact isPrintable_flatMap_escape true key.toList d hd
  rcases List.mem_cons.1 hd with rfl | hd
  · rfl
  cases hvalue : value.toList with
  | nil => rw [hvalue] at hd; cases hd
  | cons c rest =>
    rw [hvalue] at hd
    rcases List.mem_append.1 hd with hd | hd
    · exact isPrintable_escape true c d hd
    · exact isPrintable_flatMap_escape false rest d hd

/-! ## The lines of a table -/

/-- A line says which entry it was written for. -/
theorem line_injective {e e' : String × String} (h : line e.1 e.2 = line e'.1 e'.2) : e = e' := by
  have hentry : some e = some e' := by
    rw [← binding?_line e.1 e.2, h, binding?_line]
  exact Option.some.inj hentry

/-- **Lines of a table's file**, in their order. -/
def sortedLines (entries : SortedMap String String) : List String :=
  (entries.toList.map fun e => line e.1 e.2).mergeSort precedes

variable {entries : SortedMap String String}

theorem mem_sortedLines {l : String} (h : l ∈ sortedLines entries) :
    ∃ key value, l = line key value := by
  obtain ⟨e, -, rfl⟩ := List.mem_map.1 (List.mem_mergeSort.1 h)
  exact ⟨e.1, e.2, rfl⟩

theorem length_sortedLines : (sortedLines entries).length = entries.size := by
  rw [sortedLines, List.length_mergeSort, List.length_map]
  rfl

/-- **The lines ascend strictly**: every entry has a line of its own. -/
theorem sortedLines_ascending :
    (sortedLines entries).Pairwise fun a b => compare a b = .lt := by
  have hkeys : entries.toList.Pairwise fun e e' => e.1 ≠ e'.1 :=
    List.pairwise_map.1 entries.nodup_keys
  refine ascending_mergeSort compare (List.pairwise_map.2 (hkeys.imp fun hne htie => hne ?_))
  exact congrArg Prod.fst (line_injective (Std.LawfulEqCmp.eq_of_compare htie))

/-- The lines of the file are the lines that were put together. -/
theorem split_render (h : entries.isEmpty = false) :
    Text.split (· = '\n') (render entries) = sortedLines entries := by
  have hne : sortedLines entries ≠ [] := by
    rw [← List.length_pos_iff, length_sortedLines]
    exact List.length_pos_iff.2 (List.isEmpty_eq_false_iff.1 h)
  refine (Text.split_eq_iff hne).2 ⟨String.toList_intercalate, fun l hl hmem => ?_⟩
  obtain ⟨key, value, rfl⟩ := mem_sortedLines hl
  exact absurd ((wholeLine_line key value).oneLine _ hmem) (by decide)

theorem render_of_isEmpty (h : entries.isEmpty = true) : render entries = "" := by
  rw [render, List.isEmpty_iff.1 h, List.map_nil, List.mergeSort_nil, String.intercalate_nil]

end Properties

/-! ## The file of a configuration -/

namespace Configuration

/-- **Lines of a configuration's file.**  If the flat form is empty, so is the file.
Otherwise the file has one line for each entry of the flat form, in strictly ascending
order; a line is printable ASCII and is cut at exactly one equals sign that is not
escaped. -/
theorem properties_lines (c : Configuration) :
    ((Tree.flatten c.values).isEmpty = true → c.properties = "") ∧
    ((Tree.flatten c.values).isEmpty = false →
      (Text.split (· = '\n') c.properties).length = (Tree.flatten c.values).size ∧
      ((Text.split (· = '\n') c.properties).Pairwise fun a b => compare a b = .lt) ∧
      ∀ l ∈ Text.split (· = '\n') c.properties,
        (∀ d ∈ l.toList, Properties.isPrintable d = true) ∧
        ∃ key value, ∀ before after,
          Properties.CutsAt l.toList before after ↔ before = key ∧ after = value) := by
  refine ⟨Properties.render_of_isEmpty, fun h => ?_⟩
  rw [properties, Properties.split_render h]
  refine ⟨Properties.length_sortedLines, Properties.sortedLines_ascending, fun l hl => ?_⟩
  obtain ⟨key, value, rfl⟩ := Properties.mem_sortedLines hl
  exact ⟨Properties.isPrintable_line key value, _, _, fun _ _ => Properties.cutsAt_line_iff⟩

/-- A name and a text with a line feed and equals signs take one line, and a name outside
ASCII takes another. -/
theorem properties_lines_marks :
    let c := application.addAll [("a=\n", .string "b\n=\\"), ("é", .string " ")]
    (Text.split (· = '\n') c.properties).length = 2 ∧ application.properties = "" := by
  intro c
  obtain ⟨hlength, -, -⟩ := (properties_lines c).2 (by decide)
  exact ⟨hlength.trans (by decide), (properties_lines application).1 rfl⟩

end Configuration

end Fanout
