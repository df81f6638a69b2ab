import Mathlib.Data.List.TakeWhile
import LabeledSeries.Ternary
import LabeledSeries.Proofs.Text.Parts

/-!
# The notation of conditional expressions

Expressions are read by cutting one part after the other off the text, each as long as it can be.
The notation itself says nothing about how it is read: an expression is a key, a sign, an operand
and two outcomes with marks between them, and each part has its form.

- `Ternary.Parts.WellFormed` — the grammar
- `Ternary.Parts.Spell` — the expression that the parts of a text stand for
- `Ternary.ofChars?_of_spell`, `Ternary.exists_parts_of_ofChars?` — reading is sound and complete
  for it
- `Ternary.grammar_unambiguous` — so a text is read just where it has parts, and it has them in one
  way only

## §1 The grammar

## §2 Signs

## §3 Reading one part

No part can be confused with what follows it: tokens are followed by signs or marks, the long signs
are told from the short ones by their equals sign, and no operand begins with one.

## §4 Reading an expression
-/

namespace LabeledSeries

/-! ## §1 The grammar -/

namespace Ternary

/-- ASCII digits and letters and the underscore. -/
def IsTokenPart (c : Char) : Prop :=
  ('0' ≤ c ∧ c ≤ '9') ∨ ('A' ≤ c ∧ c ≤ 'Z') ∨ ('a' ≤ c ∧ c ≤ 'z') ∨ c = '_'

/-- The characters of operands: those of tokens, and the point. -/
def IsOperandPart (c : Char) : Prop := IsTokenPart c ∨ c = '.'

/-- A text of at least one character, all of them of one class. -/
def IsWord (IsPart : Char → Prop) (text : String) : Prop :=
  text ≠ "" ∧ ∀ c ∈ text.toList, IsPart c

/-- A sign is two characters, the second of which is the equals sign, or an angle bracket. -/
def IsSign (text : String) : Prop :=
  (∃ c ∈ ['=', '!', '>', '<'], text = String.ofList [c, '=']) ∨ text = ">" ∨ text = "<"

end Ternary

/-- The comparison that a text names. -/
def Comparison.ofSign? : String → Option Comparison
  | "==" => some .equal
  | "!=" => some .different
  | ">=" => some .atLeast
  | "<=" => some .atMost
  | ">" => some .above
  | "<" => some .below
  | _ => none

/-- A text spells an operand over a class of characters: with quotes around it the text between
    them, which may be empty, and without quotes the token that it is. -/
inductive Operand.SpelledBy (IsPart : Char → Prop) : Operand → String → Prop where
  | quoted (body : String) (h : ∀ c ∈ body.toList, IsPart c) :
      SpelledBy IsPart (.literal body) ("'" ++ body ++ "'")
  | bare (token : String) (h : Ternary.IsWord IsPart token) : SpelledBy IsPart (.bare token) token

namespace Ternary

/-- The texts of the five parts of an expression. -/
structure Parts where
  key : String
  sign : String
  operand : String
  whenTrue : String
  whenFalse : String
  deriving Repr, DecidableEq

namespace Parts

/-- The parts with the marks between them. -/
def text (parts : Parts) : String :=
  parts.key ++ parts.sign ++ parts.operand ++ "?" ++ parts.whenTrue ++ ":" ++ parts.whenFalse

/-- Each part has the form that the grammar gives it. -/
structure WellFormed (parts : Parts) : Prop where
  key : IsWord IsTokenPart parts.key
  sign : IsSign parts.sign
  operand : ∃ operand, Operand.SpelledBy IsOperandPart operand parts.operand
  whenTrue : ∃ outcome, Operand.SpelledBy IsTokenPart outcome parts.whenTrue
  whenFalse : ∃ outcome, Operand.SpelledBy IsTokenPart outcome parts.whenFalse

/-- The parts of an expression spell it: its key as it stands, its comparison by name, and its
    operands with or without quotes. -/
structure Spell (parts : Parts) (ternary : Ternary) : Prop where
  key : ternary.key = parts.key
  comparison : Comparison.ofSign? parts.sign = some ternary.comparison
  operand : ternary.operand.SpelledBy IsOperandPart parts.operand
  whenTrue : ternary.whenTrue.SpelledBy IsTokenPart parts.whenTrue
  whenFalse : ternary.whenFalse.SpelledBy IsTokenPart parts.whenFalse

end Parts

theorem isTokenChar_iff {c : Char} : isTokenChar c = true ↔ IsTokenPart c := by
  have halpha : c.isAlphanum = ((c.isUpper || c.isLower) || c.isDigit) := rfl
  have hupper : c.isUpper = true ↔ 'A' ≤ c ∧ c ≤ 'Z' := decide_eq_true_iff
  have hlower : c.isLower = (decide ('a' ≤ c) && decide (c ≤ 'z')) := rfl
  have hdigit : c.isDigit = (decide ('0' ≤ c) && decide (c ≤ '9')) := rfl
  -- The classes are spelled out as ranges of characters, as the grammar has them.
  simp only [isTokenChar, halpha, hupper, hlower, hdigit, IsTokenPart, Bool.or_eq_true,
    Bool.and_eq_true, decide_eq_true_eq, beq_iff_eq]
  tauto

theorem isTokenChar_eq : (fun c => isTokenChar c = true) = IsTokenPart :=
  funext fun _ => propext isTokenChar_iff

theorem isOperandChar_eq : (fun c => isOperandChar c = true) = IsOperandPart := by
  funext c
  simp [isOperandChar, IsOperandPart, isTokenChar_iff]

end Ternary

/-! ## §2 Signs -/

namespace Comparison

theorem toList_of_ofSign? {text : String} {comparison : Comparison}
    (h : ofSign? text = some comparison) : text.toList = comparison.sign := by
  unfold ofSign? at h
  split at h <;> cases h <;> rfl

/-- Every sign of the grammar names a comparison. -/
theorem exists_ofSign? {text : String} (h : Ternary.IsSign text) :
    ∃ comparison, ofSign? text = some comparison := by
  -- Four signs end in the equals sign; the other two are brackets alone.
  rcases h with ⟨c, hc, rfl⟩ | rfl | rfl
  · simp only [List.mem_cons, List.not_mem_nil, or_false] at hc
    rcases hc with rfl | rfl | rfl | rfl
    · exact ⟨.equal, rfl⟩
    · exact ⟨.different, rfl⟩
    · exact ⟨.atLeast, rfl⟩
    · exact ⟨.atMost, rfl⟩
  · exact ⟨.above, rfl⟩
  · exact ⟨.below, rfl⟩

theorem isSign_sign (comparison : Comparison) :
    Ternary.IsSign (String.ofList comparison.sign) := by
  cases comparison with
  | equal => exact .inl ⟨'=', by simp, rfl⟩
  | different => exact .inl ⟨'!', by simp, rfl⟩
  | atLeast => exact .inl ⟨'>', by simp, rfl⟩
  | atMost => exact .inl ⟨'<', by simp, rfl⟩
  | above => exact .inr (.inl rfl)
  | below => exact .inr (.inr rfl)

/-- The written form of a comparison is its name. -/
theorem ofSign?_sign (comparison : Comparison) :
    ofSign? (String.ofList comparison.sign) = some comparison := by
  cases comparison <;> rfl

end Comparison

namespace Operand.SpelledBy

variable {IsPart : Char → Prop} {operand : Operand} {word : String}

/-- What spells an operand is its written form. -/
theorem toList_eq (h : operand.SpelledBy IsPart word) : word.toList = operand.chars := by
  cases h with
  | quoted body => simp [chars]
  | bare => rfl

/-- An operand begins with a quote or with a character of its class. -/
theorem head?_append (h : operand.SpelledBy IsPart word) (rest : List Char) :
    ∀ c ∈ (word.toList ++ rest).head?, c = '\'' ∨ IsPart c := by
  intro c hc
  cases h with
  | quoted body h =>
    simp at hc
    exact .inl hc.symm
  | bare token h =>
    -- A word is not empty, so its first character is of the class.
    cases hchars : word.toList with
    | nil => exact absurd (String.toList_eq_nil_iff.mp hchars) h.1
    | cons d chars =>
      simp [hchars] at hc
      exact .inr (hc ▸ h.2 d (by simp [hchars]))

end Operand.SpelledBy

namespace Ternary

namespace Parts

variable {parts other : Parts} {ternary : Ternary}

/-- Parts that spell an expression are its written form. -/
theorem Spell.toList_text (h : parts.Spell ternary) : parts.text.toList = ternary.chars := by
  simp [text, Ternary.chars, h.key, Comparison.toList_of_ofSign? h.comparison,
    h.operand.toList_eq, h.whenTrue.toList_eq, h.whenFalse.toList_eq]

/-- An expression is spelled in one way. -/
theorem Spell.eq (h : parts.Spell ternary) (h' : other.Spell ternary) : parts = other := by
  obtain ⟨key, sign, operand, whenTrue, whenFalse⟩ := parts
  -- Each part is the written form of what it spells, and so is the other's.
  have hsign := (Comparison.toList_of_ofSign? h.comparison).trans
    (Comparison.toList_of_ofSign? h'.comparison).symm
  have hoperand := h.operand.toList_eq.trans h'.operand.toList_eq.symm
  have htrue := h.whenTrue.toList_eq.trans h'.whenTrue.toList_eq.symm
  have hfalse := h.whenFalse.toList_eq.trans h'.whenFalse.toList_eq.symm
  rw [String.toList_inj] at hsign hoperand htrue hfalse
  obtain ⟨⟩ := h.key.symm.trans h'.key
  simp_all

/-- Well-formed parts always spell an expression. -/
theorem WellFormed.exists_spell (h : parts.WellFormed) : ∃ ternary, parts.Spell ternary := by
  obtain ⟨comparison, hcomparison⟩ := Comparison.exists_ofSign? h.sign
  obtain ⟨operand, hoperand⟩ := h.operand
  obtain ⟨whenTrue, htrue⟩ := h.whenTrue
  obtain ⟨whenFalse, hfalse⟩ := h.whenFalse
  exact ⟨⟨parts.key, comparison, operand, whenTrue, whenFalse⟩, rfl, hcomparison, hoperand, htrue,
    hfalse⟩

end Parts

/-! ## §3 Reading one part -/

section Part

variable {isPart : Char → Bool} {text part rest : List Char}

theorem run_append (hpart : ∀ c ∈ part, isPart c = true)
    (hrest : ∀ c ∈ rest.head?, isPart c = false) : run isPart (part ++ rest) = (part, rest) := by
  obtain ⟨htake, hdrop⟩ := Text.span_append hpart hrest
  rw [run, htake, hdrop]

theorem of_run (h : run isPart text = (part, rest)) :
    (∀ c ∈ part, isPart c = true) ∧ text = part ++ rest := by
  obtain ⟨rfl, rfl⟩ := Prod.mk.inj h
  -- What was taken is of the class, and what was dropped follows it.
  exact ⟨fun c hc => List.mem_takeWhile_imp hc, List.takeWhile_append_dropWhile.symm⟩

/-- A sign is read where no equals sign follows it. -/
theorem readComparison_sign {comparison : Comparison} (hrest : ∀ c ∈ rest.head?, c ≠ '=') :
    readComparison (comparison.sign ++ rest) = some (comparison, rest) := by
  cases comparison with
  | equal | different | atLeast | atMost => rfl
  | above | below =>
    -- A short sign is the start of a long one, but not in front of this rest.
    cases rest with
    | nil => rfl
    | cons c rest =>
      have hc := hrest c rfl
      simp [Comparison.sign, readComparison, hc]

theorem eq_of_readComparison {comparison : Comparison}
    (h : readComparison text = some (comparison, rest)) : text = comparison.sign ++ rest := by
  unfold readComparison at h
  split at h <;> cases h <;> rfl

variable {operand : Operand}

/-- An operand is read where no character of its class follows it. -/
theorem readOperand_word (hquote : isPart '\'' = false) {word : String}
    (hword : operand.SpelledBy (fun c => isPart c = true) word)
    (hrest : ∀ c ∈ rest.head?, isPart c = false) :
    readOperand isPart (word.toList ++ rest) = some (operand, rest) := by
  cases hword with
  | quoted body h =>
    -- The closing quote is not of the class, so the body ends there.
    have hstop : ∀ c ∈ ('\'' :: rest).head?, isPart c = false := by simpa using hquote
    have htext : ("'" ++ body ++ "'").toList ++ rest = '\'' :: (body.toList ++ '\'' :: rest) := by
      simp
    rw [htext, readOperand, run_append h hstop]
    simp
  | bare token h =>
    cases hchars : word.toList with
    | nil => exact absurd (String.toList_eq_nil_iff.mp hchars) h.1
    | cons c chars =>
      -- The first character is of the class, so it opens no quotes.
      have hne : c ≠ '\'' := by
        rintro rfl
        have hc := h.2 '\'' (by simp [hchars])
        simp [hquote] at hc
      have hrun : run isPart (c :: (chars ++ rest)) = (c :: chars, rest) := by
        rw [← List.cons_append, ← hchars]
        exact run_append h.2 hrest
      have hword : String.ofList (c :: chars) = word := by rw [← hchars, String.ofList_toList]
      simp [readOperand, hne, hrun, hword]

theorem exists_word_of_readOperand (h : readOperand isPart text = some (operand, rest)) :
    ∃ word : String, operand.SpelledBy (fun c => isPart c = true) word ∧
      text = word.toList ++ rest := by
  unfold readOperand at h
  split at h
  · -- Quoted text: the body ends at the next character that is not of the class.
    split at h
    · rename_i body after hrun
      cases h
      obtain ⟨hbody, rfl⟩ := of_run hrun
      exact ⟨_, .quoted (String.ofList body) (by simpa using hbody), by simp⟩
    · cases h
  · -- A bare token has at least one character.
    split at h
    · cases h
    · rename_i token after hempty hrun
      cases h
      obtain ⟨htoken, rfl⟩ := of_run hrun
      exact ⟨_, .bare (String.ofList token) ⟨by simpa using hempty, by simpa using htoken⟩, by simp⟩

theorem expect_eq_some_iff {c : Char} : expect c text = some rest ↔ text = c :: rest := by
  cases text with
  | nil => simp [expect]
  | cons d text =>
    by_cases h : d = c
    · simp [expect, h]
    · simp [expect, h]

end Part

/-! ## §4 Reading an expression -/

/-- What well-formed parts spell is read from their text. -/
theorem ofChars?_of_spell {parts : Parts} (hparts : parts.WellFormed) {ternary : Ternary}
    (h : parts.Spell ternary) : ofChars? parts.text.toList = some ternary := by
  have htext := h.toList_text
  obtain ⟨key, comparison, operand, whenTrue, whenFalse⟩ := ternary
  obtain ⟨rfl, -, hoperand, htrue, hfalse⟩ := h
  have hkey := hparts.key
  rw [← isTokenChar_eq] at hkey htrue hfalse
  rw [← isOperandChar_eq] at hoperand
  -- What is left of the text behind each part.
  let afterTrue := ':' :: parts.whenFalse.toList
  let afterOperand := '?' :: (parts.whenTrue.toList ++ afterTrue)
  let afterSign := parts.operand.toList ++ afterOperand
  have hkeyRead : run isTokenChar parts.text.toList =
      (parts.key.toList, comparison.sign ++ afterSign) := by
    have happend : parts.text.toList = parts.key.toList ++ (comparison.sign ++ afterSign) := by
      simp [htext, Ternary.chars, afterSign, afterOperand, afterTrue, hoperand.toList_eq,
        htrue.toList_eq, hfalse.toList_eq]
    rw [happend]
    apply run_append hkey.2
    -- No sign begins with a character of a token.
    cases comparison <;> simp [Comparison.sign] <;> decide
  have hkeyFilled : parts.key.toList.isEmpty = false := by simpa using hkey.1
  -- An operand begins with a quote or a word, never with an equals sign.
  have hcomparisonRead :
      readComparison (comparison.sign ++ afterSign) = some (comparison, afterSign) := by
    apply readComparison_sign
    intro c hc heq
    subst heq
    rcases hoperand.head?_append afterOperand '=' hc with hquote | hpart
    · simp at hquote
    · exact absurd hpart (by decide)
  -- The marks between the parts are of neither class, so each part ends in front of its mark.
  have hoperandRead : readOperand isOperandChar afterSign = some (operand, afterOperand) :=
    readOperand_word (by decide) hoperand (by simp [afterOperand]; decide)
  have htrueRead : readOperand isTokenChar (parts.whenTrue.toList ++ afterTrue) =
      some (whenTrue, afterTrue) :=
    readOperand_word (by decide) htrue (by simp [afterTrue]; decide)
  have hfalseRead : readOperand isTokenChar parts.whenFalse.toList = some (whenFalse, []) := by
    rw [← List.append_nil parts.whenFalse.toList]
    exact readOperand_word (by decide) hfalse (by simp)
  simp [ofChars?, hkeyRead, hkeyFilled, hcomparisonRead, hoperandRead, afterOperand, expect,
    htrueRead, afterTrue, hfalseRead]

/-- What is read of a text is spelled by well-formed parts that make up the text. -/
theorem exists_parts_of_ofChars? {text : List Char} {ternary : Ternary}
    (h : ofChars? text = some ternary) :
    ∃ parts : Parts, parts.WellFormed ∧ parts.Spell ternary ∧ parts.text.toList = text := by
  unfold ofChars? at h
  cases hkey : run isTokenChar text with | mk key afterKey
  rw [hkey] at h
  dsimp only at h
  split at h
  · -- Without a key the text is none.
    cases h
  · rename_i hfilled
    obtain ⟨⟨comparison, afterSign⟩, hcomparison, h⟩ := Option.bind_eq_some_iff.mp h
    obtain ⟨⟨operand, afterOperand⟩, hoperand, h⟩ := Option.bind_eq_some_iff.mp h
    obtain ⟨afterMark, hmark, h⟩ := Option.bind_eq_some_iff.mp h
    obtain ⟨⟨whenTrue, afterTrue⟩, htrue, h⟩ := Option.bind_eq_some_iff.mp h
    obtain ⟨afterColon, hcolon, h⟩ := Option.bind_eq_some_iff.mp h
    obtain ⟨⟨whenFalse, afterFalse⟩, hfalse, h⟩ := Option.bind_eq_some_iff.mp h
    dsimp only at h
    split at h
    · rename_i hend
      cases h
      -- Each step says of the text that it was given that it is a part and the next text.
      obtain ⟨hkeyPart, rfl⟩ := of_run hkey
      obtain rfl := eq_of_readComparison hcomparison
      obtain ⟨operandWord, hoperandWord, rfl⟩ := exists_word_of_readOperand hoperand
      obtain rfl := expect_eq_some_iff.mp hmark
      obtain ⟨trueWord, htrueWord, rfl⟩ := exists_word_of_readOperand htrue
      obtain rfl := expect_eq_some_iff.mp hcolon
      obtain ⟨falseWord, hfalseWord, rfl⟩ := exists_word_of_readOperand hfalse
      obtain rfl := List.isEmpty_iff.mp hend
      rw [isTokenChar_eq] at htrueWord hfalseWord
      rw [isOperandChar_eq] at hoperandWord
      have hkeyWord : IsWord IsTokenPart (String.ofList key) := by
        rw [← isTokenChar_eq]
        exact ⟨by simpa using hfilled, by simpa using hkeyPart⟩
      refine ⟨⟨String.ofList key, String.ofList comparison.sign, operandWord, trueWord, falseWord⟩,
        ?_, ?_, ?_⟩
      · exact ⟨hkeyWord, comparison.isSign_sign, ⟨_, hoperandWord⟩, ⟨_, htrueWord⟩, ⟨_, hfalseWord⟩⟩
      · exact ⟨rfl, comparison.ofSign?_sign, hoperandWord, htrueWord, hfalseWord⟩
      · simp [Parts.text]
    · cases h

theorem read_eq_ok_iff {text : String} {ternary : Ternary} :
    read text = .ok ternary ↔ ofChars? text.toList = some ternary := by
  unfold read
  split
  · rename_i h
    simp [h]
  · rename_i h
    simp [h]

theorem read_of_spell {parts : Parts} (hparts : parts.WellFormed) {ternary : Ternary}
    (h : parts.Spell ternary) : read parts.text = .ok ternary :=
  read_eq_ok_iff.mpr (ofChars?_of_spell hparts h)

theorem exists_parts_of_read {text : String} {ternary : Ternary} (h : read text = .ok ternary) :
    ∃ parts : Parts, parts.WellFormed ∧ parts.Spell ternary ∧ parts.text = text := by
  obtain ⟨parts, hparts, hspell, htext⟩ := exists_parts_of_ofChars? (read_eq_ok_iff.mp h)
  exact ⟨parts, hparts, hspell, String.toList_inj.mp htext⟩

/-- **The notation is unambiguous**: a text is read just where it is put together of well-formed
    parts, which it is in one way only.  What is read has these parts: its sign names a comparison,
    quoted parts are literals and all others tokens.  Every other text is faulted as a whole, and
    what is read is written as the text again. -/
theorem grammar_unambiguous (text : String) :
    ((∃ ternary, read text = .ok ternary) ↔
      ∃ parts : Parts, parts.WellFormed ∧ parts.text = text) ∧
    (∀ parts other : Parts, parts.WellFormed → parts.text = text →
      other.WellFormed → other.text = text → parts = other) ∧
    (∀ parts : Parts, parts.WellFormed → parts.text = text →
      ∃ ternary, read text = .ok ternary ∧ parts.Spell ternary) ∧
    ((¬∃ parts : Parts, parts.WellFormed ∧ parts.text = text) →
      read text = .error (.notTernary text)) ∧
    (∀ ternary, read text = .ok ternary → String.ofList ternary.chars = text) := by
  have hread (parts : Parts) (hparts : parts.WellFormed) (htext : parts.text = text) :
      ∃ ternary, read text = .ok ternary ∧ parts.Spell ternary := by
    obtain ⟨ternary, hspell⟩ := hparts.exists_spell
    exact ⟨ternary, htext ▸ read_of_spell hparts hspell, hspell⟩
  refine ⟨⟨?_, ?_⟩, ?_, hread, ?_, ?_⟩
  · rintro ⟨ternary, h⟩
    -- What is read was put together of parts.
    obtain ⟨parts, hparts, -, htext⟩ := exists_parts_of_read h
    exact ⟨parts, hparts, htext⟩
  · rintro ⟨parts, hparts, htext⟩
    obtain ⟨ternary, h, -⟩ := hread parts hparts htext
    exact ⟨ternary, h⟩
  · -- Both are the parts of the one expression that is read.
    intro parts other hparts htext hother hotherText
    obtain ⟨ternary, h, hspell⟩ := hread parts hparts htext
    obtain ⟨ternary', h', hspell'⟩ := hread other hother hotherText
    obtain rfl : ternary = ternary' := Except.ok.inj (h.symm.trans h')
    exact hspell.eq hspell'
  · -- If the text was read after all, it would have parts.
    intro hnone
    cases hchars : ofChars? text.toList with
    | none => simp [read, hchars]
    | some ternary =>
      obtain ⟨parts, hparts, -, htext⟩ := exists_parts_of_read (read_eq_ok_iff.mpr hchars)
      exact absurd ⟨parts, hparts, htext⟩ hnone
  · intro ternary h
    obtain ⟨parts, -, hspell, rfl⟩ := exists_parts_of_read h
    rw [← hspell.toList_text, String.ofList_toList]

/-- A sign that another one starts, a quoted operand with a point, and an outcome of quotes around
    nothing. -/
theorem grammar_unambiguous_of_quoted :
    let parts : Parts := ⟨"__v__0", ">=", "'1.5'", "''", "a_b"⟩
    parts.WellFormed ∧ parts.text = "__v__0>='1.5'?'':a_b" ∧
      ∃ ternary, read "__v__0>='1.5'?'':a_b" = .ok ternary ∧ parts.Spell ternary := by
  intro parts
  have hparts : parts.WellFormed := by
    constructor
    · simp [IsWord, IsTokenPart, parts]
    · exact .inl ⟨'>', by simp, rfl⟩
    · exact ⟨_, .quoted "1.5" (by simp [IsOperandPart, IsTokenPart])⟩
    · exact ⟨_, .quoted "" (by simp)⟩
    · exact ⟨_, .bare "a_b" (by simp [IsWord, IsTokenPart])⟩
  exact ⟨hparts, rfl, (grammar_unambiguous _).2.2.1 parts hparts rfl⟩

end Ternary

end LabeledSeries
