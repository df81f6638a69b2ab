import Mathlib.Tactic.SplitIfs
import LabeledSeries.Json.Reader

/-!
# Documents are read back as they are written

What is written for a document reads as that document (`Document.read?_compactText`), whatever
characters its texts and its names hold.  Numbers are left aside: they are kept as they are written,
which may be any way.

§1 Every character of a text is written as one unit, and a unit is read as the character it was
written for.  No unit is half of a surrogate pair, so no two of them make one character.

§2 A document is read with the rest of the text behind it, so that the readers of its items and
fields compose.  Each reader is given the fuel that the length of the text allows.
-/

namespace LabeledSeries.Document

/-! ## §1 Texts -/

/-- The unit as which a character is read: a control without a letter of its own is written by its
    number. -/
def unitOf (c : Char) : TextUnit :=
  if c.toNat < 0x20 ∧ ¬ (c.toNat = 0x08 ∨ c.toNat = 0x0C ∨ c = '\n' ∨ c = '\r' ∨ c = '\t') then
    .code c.toNat
  else .char c

theorem hexValue?_hexDigit : ∀ n < 16, Text.hexValue? (hexDigit n) = some n := by
  decide

/-- The four digits of a control are its number. -/
theorem hexUnit?_control {n : Nat} (h : n < 0x20) :
    hexUnit? '0' '0' (hexDigit (n / 16)) (hexDigit (n % 16)) = some n := by
  have hhigh := hexValue?_hexDigit (n / 16) (by omega)
  have hlow := hexValue?_hexDigit (n % 16) (by omega)
  have hzero : Text.hexValue? '0' = some 0 := by decide
  simp only [hexUnit?, hhigh, hlow, hzero, Option.bind_eq_bind, Option.bind_some]
  show some (((0 * 16 + 0) * 16 + n / 16) * 16 + n % 16) = some n
  congr 1
  omega

private theorem readUnits_escape {letter c : Char} (hletter : letter ≠ 'u')
    (hshort : shortEscape? letter = some c) (rest : List Char) :
    readUnits ('\\' :: letter :: rest) =
      (readUnits rest).map fun (units, rest) => (.char c :: units, rest) := by
  rw [readUnits]
  · rw [hshort]
    cases readUnits rest <;> rfl
  · rintro a b c d after heq
    exact absurd heq hletter

private theorem readUnits_plain {c : Char} (hcontrol : 0x20 ≤ c.toNat) (hquote : c ≠ '"')
    (hslash : c ≠ '\\') (rest : List Char) :
    readUnits (c :: rest) =
      (readUnits rest).map fun (units, rest) => (.char c :: units, rest) := by
  have hplain : ¬ (c.toNat < 0x20 ∨ c = '\\') := by
    rintro (hlow | rfl)
    · omega
    · exact hslash rfl
  rw [readUnits]
  · rw [if_neg hplain]
    cases readUnits rest <;> rfl
  all_goals simp [hquote, hslash]

/-- A character is read as its unit, and nothing of what follows. -/
theorem readUnits_escapeChar (c : Char) (rest : List Char) :
    readUnits (escapeChar c ++ rest) =
      (readUnits rest).map fun (units, rest) => (unitOf c :: units, rest) := by
  unfold escapeChar
  split_ifs with hquote hslash hback hfeed hline hreturn htab hcontrol
  · subst hquote
    exact readUnits_escape (by decide) (by decide) rest
  · subst hslash
    exact readUnits_escape (by decide) (by decide) rest
  · obtain rfl : c = '\x08' := Char.toNat_inj.mp hback
    exact readUnits_escape (by decide) (by decide) rest
  · obtain rfl : c = '\x0c' := Char.toNat_inj.mp hfeed
    exact readUnits_escape (by decide) (by decide) rest
  · subst hline
    exact readUnits_escape (by decide) (by decide) rest
  · subst hreturn
    exact readUnits_escape (by decide) (by decide) rest
  · subst htab
    exact readUnits_escape (by decide) (by decide) rest
  · -- The other controls are written by their numbers.
    have hunit : unitOf c = .code c.toNat := by
      simp [unitOf, hcontrol, hback, hfeed, hline, hreturn, htab]
    simp only [List.cons_append, List.nil_append, readUnits, hexUnit?_control hcontrol, hunit]
    cases readUnits rest <;> rfl
  · have hunit : unitOf c = .char c := by simp [unitOf, hcontrol]
    rw [hunit]
    exact readUnits_plain (by omega) hquote hslash rest

/-- Up to the quote that closes it a text is read as the units of its characters. -/
theorem readUnits_written (chars rest : List Char) :
    readUnits (chars.flatMap escapeChar ++ '"' :: rest) = some (chars.map unitOf, rest) := by
  induction chars with
  | nil => rfl
  | cons c chars ih =>
    rw [List.flatMap_cons, List.append_assoc, readUnits_escapeChar, ih]
    rfl

/-- A unit stands for its character, whatever units come after it. -/
theorem joinUnits?_unitOf (c : Char) (units : List TextUnit) :
    joinUnits? (unitOf c :: units) = (joinUnits? units).map (c :: ·) := by
  unfold unitOf
  split_ifs with hcode
  · -- The number of a control is below those of surrogates.
    have hlow : ¬ (0xD800 ≤ c.toNat ∧ c.toNat < 0xDC00) := by omega
    have hhigh : ¬ (0xDC00 ≤ c.toNat ∧ c.toNat < 0xE000) := by omega
    have hboth : ¬ (0xD800 ≤ c.toNat ∧ c.toNat < 0xE000) := by omega
    have hchar : Char.ofNat c.toNat = c := Char.ofNat_toNat c
    cases units with
    | nil => simp only [joinUnits?, if_neg hboth, hchar]
    | cons unit units =>
      cases unit with
      | char d => simp only [joinUnits?, if_neg hboth, hchar]
      | code n => rw [joinUnits?, if_neg hlow, if_neg hhigh, hchar]
  · rfl

theorem joinUnits?_map_unitOf (chars : List Char) :
    joinUnits? (chars.map unitOf) = some chars := by
  induction chars with
  | nil => rfl
  | cons c chars ih =>
    rw [List.map_cons, joinUnits?_unitOf, ih]
    rfl

/-- **Texts**: between its quotes any text is read back, with the rest behind it. -/
theorem readText_written (s : String) (rest : List Char) :
    readText (s.toList.flatMap escapeChar ++ '"' :: rest) = some (some s, rest) := by
  simp only [readText, readUnits_written, Option.map_some, joinUnits?_map_unitOf,
    String.ofList_toList]

theorem writeText_append (s : String) (rest : List Char) :
    writeText s ++ rest = '"' :: (s.toList.flatMap escapeChar ++ '"' :: rest) := by
  simp [writeText]

/-! ## §2 Documents -/

/-- A document without numbers in which every text has a value. -/
inductive Textual : Document → Prop where
  | null : Textual .null
  | bool (b : Bool) : Textual (.bool b)
  | text (s : String) : Textual (.text s)
  | array {items : List Document} (items_textual : ∀ item ∈ items, Textual item) :
      Textual (.array items)
  | object {fields : List (String × Document)}
      (fields_textual : ∀ field ∈ fields, Textual field.2) : Textual (.object fields)

/-- A document is read back where enough fuel is left, and the rest of the text stays. -/
def IsReadBack (document : Document) : Prop :=
  ∀ fuel rest, 2 * document.compact.length ≤ fuel →
    readValue fuel (document.compact ++ rest) = some (document, rest)

/-- Whether a character begins a document that is no number. -/
def begins (c : Char) : Bool := ['"', '[', '\x7b', 'n', 't', 'f'].contains c

theorem Textual.exists_cons {document : Document} (h : document.Textual) :
    ∃ c chars, document.compact = c :: chars ∧ begins c = true := by
  cases h with
  | null => exact ⟨'n', _, rfl, rfl⟩
  | bool b => cases b with
    | false => exact ⟨'f', _, rfl, rfl⟩
    | true => exact ⟨'t', _, rfl, rfl⟩
  | text s => exact ⟨'"', _, rfl, rfl⟩
  | array _ => exact ⟨'[', _, rfl, rfl⟩
  | object _ => exact ⟨'\x7b', _, rfl, rfl⟩

private theorem skipSpace_cons {c : Char} (h : isSpace c = false) (chars : List Char) :
    skipSpace (c :: chars) = c :: chars := by
  simp [skipSpace, h]

private theorem not_isSpace_of_begins {c : Char} (h : begins c = true) : isSpace c = false := by
  simp only [begins, List.contains_iff_mem, List.mem_cons, List.not_mem_nil, or_false] at h
  rcases h with rfl | rfl | rfl | rfl | rfl | rfl <;> rfl

/-- Items are read back up to the bracket that closes them. -/
theorem readItems_written {items : List Document} (hne : items ≠ [])
    (hitems : ∀ item ∈ items, item.IsReadBack) (fuel : Nat) (rest : List Char)
    (hfuel : 2 * (compactItems items).length + 1 ≤ fuel) :
    readItems fuel (compactItems items ++ ']' :: rest) = some (items, rest) := by
  induction items generalizing fuel with
  | nil => exact absurd rfl hne
  | cons item items ih =>
    obtain ⟨hitem, hrest⟩ := List.forall_mem_cons.mp hitems
    obtain ⟨fuel, rfl⟩ : ∃ n, fuel = n + 1 := ⟨fuel - 1, by omega⟩
    -- Each item takes one unit of fuel for itself, and its own text takes the rest.
    cases items with
    | nil =>
      rw [compactItems] at hfuel ⊢
      rw [readItems, hitem fuel _ (by omega)]
      simp [skipSpace_cons (show isSpace ']' = false from rfl)]
    | cons next items =>
      rw [compactItems, List.length_append, List.length_cons] at hfuel
      have hmore := ih (List.cons_ne_nil _ _) hrest fuel (by omega)
      rw [compactItems, List.append_assoc, List.cons_append, readItems, hitem fuel _ (by omega)]
      simp [skipSpace_cons (show isSpace ',' = false from rfl), hmore]

/-- Fields are read back up to the brace that closes them, each with a name that has a value. -/
theorem readFields_written {fields : List (String × Document)} (hne : fields ≠ [])
    (hfields : ∀ field ∈ fields, field.2.IsReadBack) (fuel : Nat) (rest : List Char)
    (hfuel : 2 * (compactFields fields).length + 1 ≤ fuel) :
    readFields fuel (compactFields fields ++ '\x7d' :: rest) =
      some (fields.map fun field => (some field.1, field.2), rest) := by
  induction fields generalizing fuel with
  | nil => exact absurd rfl hne
  | cons field fields ih =>
    obtain ⟨name, value⟩ := field
    obtain ⟨hvalue, hrest⟩ := List.forall_mem_cons.mp hfields
    obtain ⟨fuel, rfl⟩ : ∃ n, fuel = n + 1 := ⟨fuel - 1, by omega⟩
    have hquote : isSpace '"' = false := rfl
    have hcolon : isSpace ':' = false := rfl
    cases fields with
    | nil =>
      rw [compactFields, List.length_append, List.length_cons] at hfuel
      rw [compactFields, List.append_assoc, writeText_append, List.cons_append]
      simp [readFields, skipSpace_cons hquote, readText_written, skipSpace_cons hcolon,
        hvalue fuel _ (show 2 * value.compact.length ≤ fuel by omega),
        skipSpace_cons (show isSpace '\x7d' = false from rfl)]
    | cons next fields =>
      rw [compactFields, List.length_append, List.length_cons, List.length_append,
        List.length_cons] at hfuel
      have hmore := ih (List.cons_ne_nil _ _) hrest fuel (by omega)
      rw [compactFields, List.append_assoc, writeText_append, List.cons_append, List.append_assoc,
        List.cons_append]
      simp [readFields, skipSpace_cons hquote, readText_written, skipSpace_cons hcolon,
        hvalue fuel _ (show 2 * value.compact.length ≤ fuel by omega),
        skipSpace_cons (show isSpace ',' = false from rfl), hmore]

/-- Names that have a value make an object. -/
theorem ofFields_named (fields : List (String × Document)) :
    ofFields (fields.map fun field => (some field.1, field.2)) = .object fields := by
  have hnames : (fields.map fun field => (some field.1, field.2)).mapM
      (fun field => field.1.map fun name => (name, field.2)) = some fields := by
    induction fields with
    | nil => rfl
    | cons field fields ih =>
      rw [List.map_cons, List.mapM_cons, ih]
      rfl
  unfold ofFields
  split
  · rename_i hread
    rw [Option.some.inj (hread.symm.trans hnames)]
  · rename_i hread
    cases hread.symm.trans hnames

theorem IsReadBack.array {items : List Document} (hitems : ∀ item ∈ items, item.IsReadBack)
    (htextual : ∀ item ∈ items, item.Textual) : (array items).IsReadBack := by
  intro fuel rest hfuel
  rw [compact, List.length_append, List.length_cons] at hfuel
  obtain ⟨fuel, rfl⟩ : ∃ n, fuel = n + 1 := ⟨fuel - 1, by omega⟩
  rw [compact, List.append_assoc, List.cons_append, List.singleton_append, readValue,
    skipSpace_cons rfl]
  cases items with
  | nil => rfl
  | cons item items =>
    -- The first item does not begin with the bracket that would close the array.
    obtain ⟨c, chars, hchars, hc⟩ := (htextual item (List.mem_cons_self ..)).exists_cons
    obtain ⟨more, hmore⟩ : ∃ more, compactItems (item :: items) = c :: more := by
      cases items with
      | nil => exact ⟨chars, hchars⟩
      | cons next items => exact ⟨_, by rw [compactItems, hchars, List.cons_append]⟩
    have hread := readItems_written (List.cons_ne_nil item items) hitems fuel rest (by omega)
    rw [hmore, List.cons_append] at hread ⊢
    simp only [skipSpace_cons (not_isSpace_of_begins hc)]
    split
    · rename_i heq
      rw [(List.cons.inj heq).1] at hc
      cases hc
    · rw [hread]
      rfl

theorem IsReadBack.object {fields : List (String × Document)}
    (hfields : ∀ field ∈ fields, field.2.IsReadBack) : (object fields).IsReadBack := by
  intro fuel rest hfuel
  rw [compact, List.length_append, List.length_cons] at hfuel
  obtain ⟨fuel, rfl⟩ : ∃ n, fuel = n + 1 := ⟨fuel - 1, by omega⟩
  rw [compact, List.append_assoc, List.cons_append, List.singleton_append, readValue,
    skipSpace_cons rfl]
  cases fields with
  | nil => rfl
  | cons field fields =>
    -- A field begins with the quote of its name.
    obtain ⟨more, hmore⟩ : ∃ more, compactFields (field :: fields) = '"' :: more := by
      cases fields with
      | nil => exact ⟨_, rfl⟩
      | cons next fields => exact ⟨_, rfl⟩
    have hread := readFields_written (List.cons_ne_nil field fields) hfields fuel rest (by omega)
    rw [hmore, List.cons_append] at hread ⊢
    show ((readFields fuel ('"' :: (more ++ '\x7d' :: rest))).map fun read =>
      (ofFields read.1, read.2)) = _
    simp only [hread, Option.map_some, ofFields_named]

/-- Every document without numbers is read back. -/
theorem Textual.isReadBack {document : Document} (h : document.Textual) :
    document.IsReadBack := by
  induction h with
  | null =>
    intro fuel rest hfuel
    cases fuel with
    | zero => exact absurd hfuel (by decide)
    | succ fuel => rfl
  | bool b =>
    intro fuel rest hfuel
    cases b <;> cases fuel with
    | zero => exact absurd hfuel (by decide)
    | succ fuel => rfl
  | text s =>
    intro fuel rest hfuel
    rw [compact] at hfuel ⊢
    cases fuel with
    | zero => simp [writeText] at hfuel
    | succ fuel =>
      rw [writeText_append, readValue, skipSpace_cons rfl]
      simp only [readText_written, Option.map_some]
  | array htextual ih => exact .array ih htextual
  | object _ ih => exact .object ih

/-- **Documents are read back**: a document without numbers reads from its compact text. -/
theorem read?_compactText {document : Document} (h : document.Textual) :
    Document.read? document.compactText = some document := by
  have hread := h.isReadBack (2 * document.compact.length + 2) [] (by omega)
  rw [List.append_nil] at hread
  rw [read?, compactText, String.toList_ofList, hread]
  rfl

end LabeledSeries.Document
