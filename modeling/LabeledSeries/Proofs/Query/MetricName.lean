import LabeledSeries.Proofs.Query.RangeSelector
import LabeledSeries.Proofs.Text.Parts

/-!
# Metrics by name

A text that reads as the selector of the metric of that very name is a single word, so it can be
asked for with a range behind it (`Expr.read?_range`).

§1 Words are the only tokens that name metrics, and a word is a name in which colons count as
letters.  §2 A name by itself is one word.  §3 A text that has a length as a duration is scanned as
one.  §4 Names with ranges.
-/

namespace LabeledSeries.Query

/-! ## §1 Words -/

/-- Whether a character can stand inside a word outside braces. -/
def isInWord (c : Char) : Bool := isWordPart c || c == ':'

/-- Whether a character can begin a word outside braces. -/
def beginsWord (c : Char) : Bool := isWordStart c || c == ':'

theorem isRecordName_cons (c : Char) (rest : List Char) :
    Text.isRecordName (String.ofList (c :: rest)) = (beginsWord c && rest.all isInWord) := by
  have hpart : (fun c => Text.isNamePart c || c == ':') = isInWord := by
    funext c
    simp [Text.isNamePart, Text.isNameStart, isInWord, isWordPart, Char.isAlphanum,
      Bool.or_assoc, Bool.or_comm, Bool.or_left_comm]
  rw [Text.isRecordName, String.toList_ofList, ← hpart]
  rfl

/-- The characters of names. -/
theorem isInWord_of_mem {name : String} (h : Text.isRecordName name = true) {c : Char}
    (hc : c ∈ name.toList) : isInWord c = true := by
  cases hchars : name.toList with
  | nil =>
    rw [hchars] at hc
    cases hc
  | cons first rest =>
    rw [← String.ofList_toList (s := name), hchars, isRecordName_cons, Bool.and_eq_true,
      List.all_eq_true] at h
    rw [hchars] at hc
    -- The first character may also begin a word; of the others it is said that they belong to one.
    rcases List.mem_cons.mp hc with rfl | hrest
    · have hfirst := h.1
      simp only [beginsWord, isWordStart, Bool.or_eq_true] at hfirst
      simp only [isInWord, isWordPart, Char.isAlphanum, Bool.or_eq_true]
      exact hfirst.imp_left (Or.imp_left Or.inl)
    · exact h.2 c hrest

private theorem not_word_of_scanQuantity {text rest : List Char} {word : String}
    (h : scanQuantity text = some (.word word, rest)) : False := by
  unfold scanQuantity at h
  dsimp only at h
  -- Behind the digits there is nothing, or a unit that makes the token a duration.
  split at h
  · cases h
  · obtain ⟨⟨unit, left⟩, -, h⟩ := Option.bind_eq_some_iff.mp h
    obtain ⟨⟨more, left⟩, -, h⟩ := Option.bind_eq_some_iff.mp h
    dsimp only at h
    split at h <;> cases h

/-- A word is the only token with the characters of a name. -/
theorem isRecordName_of_plainToken {text rest : List Char} {word : String} {region : Region}
    (h : plainToken text = some (.word word, region, rest)) : Text.isRecordName word = true := by
  unfold plainToken at h
  split at h
  · cases h
  · rename_i c after
    dsimp only at h
    -- Signs are tokens of their own, so the cases they leave are quotes, digits and words.
    split at h
    all_goals try cases h
    split at h
    · obtain ⟨_, -, h⟩ := Option.map_eq_some_iff.mp h
      cases h
    · split at h
      · obtain ⟨⟨token, left⟩, hquantity, h⟩ := Option.map_eq_some_iff.mp h
        cases h
        exact (not_word_of_scanQuantity hquantity).elim
      · split at h
        · rename_i hbegins
          cases h
          rw [isRecordName_cons, beginsWord, hbegins, Bool.true_and]
          exact List.all_takeWhile
        · cases h

private theorem not_word_of_bracesToken {text rest : List Char} {word : String} {region : Region}
    (h : bracesToken text = some (.word word, region, rest)) : False := by
  unfold bracesToken at h
  split at h
  · cases h
  · -- Inside braces what begins a word is read as a label.
    dsimp only at h
    split at h
    all_goals try cases h
    split at h
    · obtain ⟨_, -, h⟩ := Option.map_eq_some_iff.mp h
      cases h
    · split at h <;> cases h

private theorem not_word_of_bracketsToken {text rest : List Char} {word : String}
    {region : Region} (h : bracketsToken text = some (.word word, region, rest)) : False := by
  unfold bracketsToken at h
  split at h
  · cases h
  · cases h
  · split at h
    · obtain ⟨⟨token, left⟩, hquantity, h⟩ := Option.map_eq_some_iff.mp h
      cases h
      exact not_word_of_scanQuantity hquantity
    · cases h
  · cases h

/-- A token in a region, and where the rest stands. -/
def tokenIn : Region → List Char → Option (Token × Region × List Char)
  | .plain => plainToken
  | .braces => bracesToken
  | .brackets => bracketsToken

theorem isRecordName_of_tokenIn {region next : Region} {text rest : List Char} {word : String}
    (h : tokenIn region text = some (.word word, next, rest)) :
    Text.isRecordName word = true := by
  -- Words stand outside of braces and brackets only.
  cases region with
  | plain => exact isRecordName_of_plainToken h
  | braces => exact (not_word_of_bracesToken h).elim
  | brackets => exact (not_word_of_bracketsToken h).elim

theorem scanTokens_cons {c : Char} (hspace : isSpace c = false) {region : Region}
    (hcomment : ¬ (c = '#' ∧ region ≠ .brackets)) (fuel : Nat) (rest : List Char) :
    scanTokens (fuel + 1) region (c :: rest) =
      (tokenIn region (c :: rest)).bind fun (token, next, rest) =>
        (scanTokens fuel next rest).map (token :: ·) := by
  have hrest (next : Region) (rest : List Char) (token : Token) :
      (do return token :: (← scanTokens fuel next rest)) =
        (scanTokens fuel next rest).map (token :: ·) := by
    cases scanTokens fuel next rest <;> rfl
  simp only [scanTokens, hspace, Bool.false_eq_true, if_false, if_neg hcomment, hrest]
  cases region <;> rfl

/-- Every word among the tokens of an expression is a name in which colons count as letters. -/
theorem isRecordName_of_mem_scanTokens {fuel : Nat} {region : Region} {text : List Char}
    {tokens : List Token} (h : scanTokens fuel region text = some tokens) {word : String}
    (hword : .word word ∈ tokens) : Text.isRecordName word = true := by
  -- Blanks and comments take fuel too, so the induction is on the fuel and not on the text.
  induction fuel generalizing region text tokens with
  | zero => cases h
  | succ fuel ih =>
    cases text with
    | nil =>
      simp only [scanTokens] at h
      split at h
      · cases h
        cases hword
      · cases h
    | cons c after =>
      by_cases hspace : isSpace c = true
      · simp only [scanTokens, hspace, if_true] at h
        exact ih h hword
      · rw [Bool.not_eq_true] at hspace
        -- A comment has no tokens; it is skipped as blanks are.
        by_cases hcomment : c = '#' ∧ region ≠ .brackets
        · simp only [scanTokens, hspace, Bool.false_eq_true, if_false, if_pos hcomment] at h
          exact ih h hword
        · rw [scanTokens_cons hspace hcomment] at h
          obtain ⟨⟨token, next, rest⟩, htoken, h⟩ := Option.bind_eq_some_iff.mp h
          obtain ⟨others, hothers, rfl⟩ := Option.map_eq_some_iff.mp h
          rcases List.mem_cons.mp hword with rfl | hword
          · exact isRecordName_of_tokenIn htoken
          · exact ih hothers hword

/-! ## §2 Names by themselves -/

theorem not_sign_of_beginsWord {c : Char} (h : beginsWord c = true) :
    isSpace c = false ∧ c ≠ '#' ∧ isQuote c = false ∧ c.isDigit = false ∧ (c == '.') = false := by
  have hchars (d : Char) (hd : beginsWord d = false) : c ≠ d := by
    rintro rfl
    rw [hd] at h
    cases h
  -- Digits come before letters in the order of characters.
  have hdigit : c.isDigit = false := by
    change ((decide (c.val ≥ 'A'.val ∧ c.val ≤ 'Z'.val) ||
      (decide (c.val ≥ 'a'.val) && decide (c.val ≤ 'z'.val)) || c == '_') || c == ':') = true at h
    change (decide (c.val ≥ '0'.val) && decide (c.val ≤ '9'.val)) = false
    simp only [Bool.or_eq_true, Bool.and_eq_true, decide_eq_true_eq, beq_iff_eq, ge_iff_le,
      UInt32.le_iff_toNat_le, Char.toNat_val, Char.reduceToNat] at h
    simp only [Bool.and_eq_false_iff, decide_eq_false_iff_not, ge_iff_le,
      UInt32.le_iff_toNat_le, Char.toNat_val, Char.reduceToNat]
    rcases h with (hletter | rfl) | rfl
    · omega
    · decide
    · decide
  refine ⟨?_, hchars _ (by decide), ?_, hdigit, beq_eq_false_iff_ne.mpr (hchars _ (by decide))⟩
  · simp [isSpace, hchars ' ' (by decide), hchars '\t' (by decide), hchars '\n' (by decide),
      hchars '\r' (by decide), hchars '\x0c' (by decide)]
  · simp [isQuote, hchars '"' (by decide), hchars '\'' (by decide), hchars '\x60' (by decide)]

theorem plainToken_word {c : Char} {rest : List Char} (h : beginsWord c = true) :
    plainToken (c :: rest) =
      some (.word (String.ofList (c :: rest.takeWhile isInWord)), .plain,
        rest.dropWhile isInWord) := by
  obtain ⟨-, -, hquote, hdigit, hpoint⟩ := not_sign_of_beginsWord h
  unfold plainToken
  dsimp only
  -- No sign begins a word, so only the last branches are left.
  split
  all_goals try (exact absurd h (by decide))
  have hbegins : (isWordStart c || c == ':') = true := h
  simp only [hquote, hdigit, hbegins, hpoint, Bool.false_and, Bool.false_or, Bool.false_eq_true,
    if_false, if_true]
  rfl

/-- The tokens of a text that begins with a name. -/
theorem scanTokens_name {name : String} (hname : Text.isRecordName name = true)
    {rest : List Char} (hrest : ∀ c ∈ rest.head?, isInWord c = false) (fuel : Nat) :
    scanTokens (fuel + 1) .plain (name.toList ++ rest) =
      (scanTokens fuel .plain rest).map (.word name :: ·) := by
  cases hchars : name.toList with
  | nil =>
    rw [Text.isRecordName, hchars] at hname
    cases hname
  | cons c part =>
    have hofList : String.ofList (c :: part) = name := by rw [← hchars, String.ofList_toList]
    rw [← hofList, isRecordName_cons, Bool.and_eq_true, List.all_eq_true] at hname
    obtain ⟨hbegins, hpart⟩ := hname
    obtain ⟨hspace, hcomment, -⟩ := not_sign_of_beginsWord hbegins
    -- What follows the name cannot belong to it, so the word ends there.
    obtain ⟨htake, hdrop⟩ := Text.span_append hpart hrest
    rw [List.cons_append, scanTokens_cons hspace (fun h => hcomment h.1), tokenIn,
      plainToken_word hbegins, htake, hdrop, hofList]
    rfl

theorem exists_length_name {name : String} (hname : Text.isRecordName name = true) :
    ∃ n, name.toList.length = n + 1 := by
  refine Nat.exists_eq_add_one.mpr (List.length_pos_iff.mpr fun hnil => ?_)
  rw [Text.isRecordName, hnil] at hname
  cases hname

/-- A name by itself is one word. -/
theorem tokens?_name {name : String} (hname : Text.isRecordName name = true) :
    tokens? name = some [.word name] := by
  obtain ⟨n, hn⟩ := exists_length_name hname
  have hscan := scanTokens_name hname (show ∀ c ∈ [].head?, isInWord c = false by simp) (n + 1)
  rw [List.append_nil] at hscan
  rw [tokens?, hn, hscan]
  rfl

/-! ## §3 Durations -/

/-- The names of units. -/
def unitNames : List (List Char) := units.map Prod.fst

/-- A text that has a length as a duration begins with a count and one of the units, and goes on
    with later ones. -/
theorem exists_count_of_milliseconds? {offered : List (List Char × Nat)} {text : List Char}
    {length : Nat} (h : milliseconds? offered text = some length) (htext : text ≠ []) :
    ∃ count before unit scale later rest more,
      text = count ++ (unit ++ rest) ∧ offered = before ++ (unit, scale) :: later ∧ count ≠ [] ∧
        (∀ c ∈ count, c.isDigit = true) ∧ (∀ c ∈ rest.head?, c.isAlpha = false) ∧
        milliseconds? later rest = some more := by
  -- The units are offered from years down, and each is used once at most.
  induction offered with
  | nil =>
    cases text with
    | nil => exact absurd rfl htext
    | cons c text => cases h
  | cons entry offered ih =>
    obtain ⟨unit, scale⟩ := entry
    simp only [milliseconds?] at h
    split at h
    · cases h
    · rename_i hcount
      split at h
      · -- The unit offered first is the one that occurs.
        rename_i hunit
        subst hunit
        obtain ⟨more, hmore, -⟩ := Option.bind_eq_some_iff.mp h
        refine ⟨_, [], _, scale, offered, _, more, ?_, rfl,
          fun hnil => hcount (List.isEmpty_iff.mpr hnil), ?_, ?_, hmore⟩
        · rw [List.takeWhile_append_dropWhile, List.takeWhile_append_dropWhile]
        · exact List.all_eq_true.mp List.all_takeWhile
        · intro c hc
          have hhead := List.head?_dropWhile_not Char.isAlpha (text.dropWhile Char.isDigit)
          rw [Option.mem_def.mp hc] at hhead
          simpa using hhead
      · -- The unit offered first does not occur, so it stands before the one that does.
        obtain ⟨count, before, unit', scale', later, rest, more, hsplit, rfl, hrest⟩ := ih h
        exact ⟨count, (unit, scale) :: before, unit', scale', later, rest, more, hsplit, rfl,
          hrest⟩

/-- A unit is scanned as such where the text does not go on with a letter. -/
theorem scanUnit_unit {unit rest : List Char} (hunit : unit ∈ unitNames)
    (hrest : ∀ c ∈ rest.head?, c.isAlpha = false) {allowed : Char → Bool}
    (hallowed : ∀ c ∈ unit.head?, allowed c = true) :
    scanUnit allowed (unit ++ rest) = some (unit, rest) := by
  -- Milliseconds are the only unit of two letters.
  have hshape : ∀ unit ∈ unitNames, unit = ['m', 's'] ∨ unit.length = 1 := by decide
  rcases hshape unit hunit with rfl | hone
  · have hm := hallowed 'm' rfl
    simp [scanUnit, hm]
  · obtain ⟨c, rfl⟩ := List.length_eq_one_iff.mp hone
    have hc := hallowed c rfl
    cases rest with
    | nil => simp [scanUnit, hc]
    | cons d rest =>
      rw [List.singleton_append, scanUnit]
      · simp [hc]
      · -- The letter of seconds would belong to the unit.
        rintro rest' heq
        exact absurd (hrest d rfl) (by rw [(List.cons.inj heq).1]; decide)

/-- What may follow the letters of a unit. -/
private theorem head?_append {rest more : List Char} {p : Char → Bool}
    (hrest : ∀ c ∈ rest.head?, p c = false) (hmore : ∀ c ∈ more.head?, p c = false) :
    ∀ c ∈ (rest ++ more).head?, p c = false := by
  cases rest with
  | nil => exact hmore
  | cons c rest => simpa using hrest

/-- What is no part of a word is neither a letter nor a digit. -/
private theorem not_isAlphanum_of_not_isWordPart {c : Char} (h : isWordPart c = false) :
    c.isAlpha = false ∧ c.isDigit = false := by
  simp only [isWordPart, Char.isAlphanum, Bool.or_eq_false_iff] at h
  exact h.1

private theorem head?_unit_append {unit : List Char} (hunit : unit ∈ unitNames)
    (rest : List Char) :
    ∀ c ∈ (unit ++ rest).head?, isUnitLetter c = true ∧ c.isDigit = false := by
  have hheads : ∀ unit ∈ unitNames, ∃ c tail, unit = c :: tail ∧ isUnitLetter c = true ∧
      c.isDigit = false := by
    simp [unitNames, units]
    decide
  obtain ⟨c, tail, rfl, hc⟩ := hheads unit hunit
  simpa using hc

/-- The units that may follow another one. -/
theorem scanUnits_eq {offered : List (List Char × Nat)} {text more : List Char}
    {length fuel : Nat} (hoffered : ∀ entry ∈ offered, entry.1 ∈ unitNames ∧ entry.1 ≠ ['y'])
    (hmore : ∀ c ∈ more.head?, isWordPart c = false)
    (h : milliseconds? offered text = some length) (hfuel : text.length ≤ fuel) :
    scanUnits fuel (text ++ more) = some (text, more) := by
  induction fuel generalizing offered text length with
  | zero =>
    rw [List.length_eq_zero_iff.mp (Nat.le_zero.mp hfuel)]
    rfl
  | succ fuel ih =>
    -- Either nothing is left of the text, or a count and a unit are scanned and the rest is
    -- shorter.
    by_cases htext : text = []
    · subst htext
      have hdigit : ∀ c ∈ more.head?, c.isDigit = false :=
        fun c hc => (not_isAlphanum_of_not_isWordPart (hmore c hc)).2
      have hnone : more.takeWhile Char.isDigit = [] := by
        cases more with
        | nil => rfl
        | cons c more => simp [hdigit c rfl]
      rw [List.nil_append, scanUnits, hnone]
    · obtain ⟨count, before, unit, scale, later, rest, others, rfl, rfl, hcount, hdigits, hrest,
        hothers⟩ := exists_count_of_milliseconds? h htext
      -- Only years cannot follow another unit, and they are not offered.
      obtain ⟨hunit, hyears⟩ := hoffered (unit, scale) (by simp)
      have hpositive := List.length_pos_iff.mpr hcount
      simp only [List.length_append] at hfuel
      have hlater := ih (fun entry hentry => hoffered entry (by simp [hentry])) hothers
        (show rest.length ≤ fuel by omega)
      have hcountEnd : ∀ c ∈ (unit ++ (rest ++ more)).head?, c.isDigit = false :=
        fun c hc => (head?_unit_append hunit _ c hc).2
      obtain ⟨htake, hdrop⟩ := Text.span_append hdigits hcountEnd
      -- Every other unit begins with a letter that may follow a count.
      have hletters : ∀ unit ∈ unitNames, unit ≠ ['y'] →
          unit.head?.all (fun c => isUnitLetter c && c != 'y') = true := by decide
      have hunitEnd := head?_append hrest
        fun c hc => (not_isAlphanum_of_not_isWordPart (hmore c hc)).1
      have hscan : scanUnit (fun c => isUnitLetter c && c != 'y') (unit ++ (rest ++ more)) =
          some (unit, rest ++ more) :=
        scanUnit_unit hunit hunitEnd fun c hc => by
          have hletter := hletters unit hunit hyears
          rwa [Option.mem_def.mp hc] at hletter
      cases count with
      | nil => exact absurd rfl hcount
      | cons d count =>
        simp only [List.append_assoc, scanUnits, htake, hdrop, hscan, hlater, Option.bind_eq_bind,
          Option.bind_some]
        rfl

/-- Digits before a letter of a unit are a number. -/
theorem scanNumber_digits {count : List Char} {c : Char} (hcount : count ≠ [])
    (hdigits : ∀ d ∈ count, d.isDigit = true) (hc : isUnitLetter c = true) (rest : List Char) :
    scanNumber (count ++ c :: rest) = (count, c :: rest) := by
  have hne (d : Char) (hd : isUnitLetter d = false) : c ≠ d := by
    rintro rfl
    rw [hd] at hc
    cases hc
  have hdigit : c.isDigit = false := by
    simp only [isUnitLetter, Bool.or_eq_true, beq_iff_eq] at hc
    rcases hc with ((((rfl | rfl) | rfl) | rfl) | rfl) | rfl <;> decide
  -- The count ends where the unit begins.
  have hend : ∀ d ∈ (c :: rest).head?, d.isDigit = false := by simpa using hdigit
  obtain ⟨htake, hdrop⟩ := Text.span_append hdigits hend
  -- No mark of another base follows the first digit.
  have hlead (mark : Char) (hletter : isUnitLetter mark = false) (hmark : mark.isDigit = false)
      (rest' : List Char) (heq : count ++ c :: rest = '0' :: mark :: rest') : False := by
    match count, hcount with
    | [_], _ => exact hne mark hletter (List.cons.inj (List.cons.inj heq).2).1
    | _ :: e :: _, _ =>
      obtain rfl : e = mark := (List.cons.inj (List.cons.inj heq).2).1
      rw [hdigits e (by simp)] at hmark
      cases hmark
  unfold scanNumber
  dsimp only
  split
  · rename_i heq
    exact (hlead 'x' rfl rfl _ heq).elim
  · rename_i heq
    exact (hlead 'X' rfl rfl _ heq).elim
  · -- None of the letters is a point or an exponent.
    rw [htake, hdrop]
    simp only [isUnitLetter, Bool.or_eq_true, beq_iff_eq] at hc
    rcases hc with ((((rfl | rfl) | rfl) | rfl) | rfl) | rfl <;> simp

/-- A text that has a length is scanned as a duration, where it does not go on as a word. -/
theorem scanQuantity_duration {text more : List Char} {length : Nat}
    (h : milliseconds? units text = some length) (htext : text ≠ [])
    (hmore : ∀ c ∈ more.head?, isWordPart c = false) :
    scanQuantity (text ++ more) = some (.duration (String.ofList text), more) := by
  obtain ⟨count, before, unit, scale, later, rest, others, rfl, hunits, hcount, hdigits, hrest,
    hothers⟩ := exists_count_of_milliseconds? h htext
  have hunit : unit ∈ unitNames :=
    List.mem_map_of_mem (f := Prod.fst) (hunits ▸ by simp : (unit, scale) ∈ units)
  have hunitEnd := head?_append hrest
    fun c hc => (not_isAlphanum_of_not_isWordPart (hmore c hc)).1
  have hscan : scanUnit isUnitLetter (unit ++ (rest ++ more)) = some (unit, rest ++ more) :=
    scanUnit_unit hunit hunitEnd fun c hc =>
      (head?_unit_append hunit [] c (by rwa [List.append_nil])).1
  -- Years come first, so none of the later units are years.
  have hlater : ∀ entry ∈ later, entry.1 ∈ unitNames ∧ entry.1 ≠ ['y'] := by
    intro entry hentry
    have htail : ∀ entry ∈ units.tail, entry.1 ∈ unitNames ∧ entry.1 ≠ ['y'] := by decide
    refine htail entry ?_
    rw [hunits]
    cases before <;> simp [hentry]
  have hscanRest : scanUnits (rest ++ more).length (rest ++ more) = some (rest, more) :=
    scanUnits_eq hlater hmore hothers (by simp)
  -- What follows does not go on with the word, so the scan ends there.
  have hend : endsWord more = true := by
    cases more with
    | nil => rfl
    | cons c more => simp [endsWord, hmore c rfl]
  cases unit with
  | nil => exact absurd hunit (by decide)
  | cons c tail =>
    have hletter := (head?_unit_append hunit [] c rfl).1
    -- A letter of a unit is behind the count, so it is no plain number.
    have hpart : endsWord (c :: (tail ++ (rest ++ more))) = false := by
      simp only [isUnitLetter, Bool.or_eq_true, beq_iff_eq] at hletter
      rcases hletter with ((((rfl | rfl) | rfl) | rfl) | rfl) | rfl <;> rfl
    have hnumber := scanNumber_digits hcount hdigits hletter (tail ++ (rest ++ more))
    rw [List.cons_append] at hscan
    simp only [List.append_assoc, List.cons_append, scanQuantity, hnumber, hpart, hscan,
      hscanRest, hend, Bool.false_eq_true, if_false, if_true, Option.bind_eq_bind, Option.bind_some]
    rfl

theorem span?_eq_some {text : String} {span : Time.Span} (h : span? text = some span) :
    text.toList ≠ [] ∧ ∃ length, milliseconds? units text.toList = some length := by
  obtain ⟨length, hlength, h⟩ := Option.bind_eq_some_iff.mp h
  refine ⟨fun hnil => ?_, length, hlength⟩
  -- An empty text has no units, so its length is nothing and no span.
  rw [hnil] at hlength
  cases hlength
  cases h

/-- Outside braces a digit begins a number or a duration. -/
theorem tokenIn_digit {region : Region} (hregion : region ≠ .braces) {d : Char}
    (hd : d.isDigit = true) (rest : List Char) :
    tokenIn region (d :: rest) =
      (scanQuantity (d :: rest)).map fun (token, rest) => (token, region, rest) := by
  cases region with
  | braces => exact absurd rfl hregion
  -- The signs that are tested first are no digits.
  | brackets =>
    rw [tokenIn, bracketsToken]
    · rw [if_pos hd]
    · rintro rfl
      cases hd
    · rintro rfl
      cases hd
  | plain =>
    have hquote : isQuote d = false := by
      rw [Bool.eq_false_iff]
      intro hquote
      simp only [isQuote, Bool.or_eq_true, beq_iff_eq] at hquote
      rcases hquote with (rfl | rfl) | rfl <;> cases hd
    rw [tokenIn]
    unfold plainToken
    dsimp only
    split
    all_goals try (exact absurd hd (by decide))
    simp only [hquote, hd, Bool.true_or, Bool.false_eq_true, if_false, if_true]

/-- A length is a duration outside braces, where it does not go on as a word. -/
theorem scanTokens_span {text : String} {span : Time.Span} (h : span? text = some span)
    {region : Region} (hregion : region ≠ .braces) {more : List Char}
    (hmore : ∀ c ∈ more.head?, isWordPart c = false) (fuel : Nat) :
    scanTokens (fuel + 1) region (text.toList ++ more) =
      (scanTokens fuel region more).map (.duration text :: ·) := by
  obtain ⟨hnil, length, hlength⟩ := span?_eq_some h
  have hscan := scanQuantity_duration hlength hnil hmore
  obtain ⟨count, _, _, _, _, _, _, hsplit, -, hcount, hdigits, -⟩ :=
    exists_count_of_milliseconds? hlength hnil
  cases count with
  | nil => exact absurd rfl hcount
  -- The first digit is neither a blank nor the start of a comment.
  | cons d count =>
    have hd := hdigits d (List.mem_cons_self ..)
    have hspace : isSpace d = false := by
      rw [Bool.eq_false_iff]
      intro hspace
      simp only [isSpace, Bool.or_eq_true, beq_iff_eq] at hspace
      rcases hspace with (((rfl | rfl) | rfl) | rfl) | rfl <;> cases hd
    have hcomment : ¬ (d = '#' ∧ region ≠ .brackets) := by
      intro hcomment
      obtain ⟨rfl, -⟩ := hcomment
      cases hd
    rw [String.ofList_toList] at hscan
    rw [hsplit, List.cons_append, List.cons_append] at hscan ⊢
    rw [scanTokens_cons hspace hcomment, tokenIn_digit hregion hd, hscan]
    rfl

/-! ## §4 Names with ranges -/

/-- The tokens of a name with a range behind it. -/
theorem tokens?_range {name length : String} (hname : Text.isRecordName name = true)
    {span : Time.Span} (hspan : span? length = some span) :
    tokens? (name ++ "[" ++ length ++ "]") = some ([.word name] ++ rangeTokens length) := by
  have hchars : (name ++ "[" ++ length ++ "]").toList =
      name.toList ++ '[' :: (length.toList ++ [']']) := by
    simp
  -- The fuel is the length of the text and more, enough for five tokens.
  obtain ⟨n, hn⟩ := exists_length_name hname
  obtain ⟨m, hm⟩ : ∃ m, length.toList.length = m + 1 :=
    Nat.exists_eq_add_one.mpr (List.length_pos_iff.mpr (span?_eq_some hspan).1)
  have hfuel : (name.toList ++ '[' :: (length.toList ++ [']'])).length + 1 = n + m + 5 := by
    simp only [List.length_append, List.length_cons, List.length_nil, hn, hm]
    omega
  -- A bracket opens its region, where the duration stands.
  have hopen (rest : List Char) : scanTokens (n + m + 4) .plain ('[' :: rest) =
      (scanTokens (n + m + 3) .brackets rest).map (.sign .leftBracket :: ·) :=
    scanTokens_cons rfl (by decide) _ rest
  have hclose : scanTokens (n + m + 2) .brackets [']'] = some [.sign .rightBracket] := by
    rw [scanTokens_cons rfl (by decide)]
    rfl
  rw [tokens?, hchars, hfuel, scanTokens_name hname (by simp; decide), hopen,
    scanTokens_span hspan (by decide) (by simp; decide), hclose]
  rfl

/-- What reads as a selector of a named metric begins with that name. -/
theorem primary_eq_instant {fuel : Nat} {tokens rest : List Token} {selector : Selector}
    {name : String} (h : primary fuel tokens = some (.instant selector, rest))
    (hname : selector.name = some name) : .word name ∈ tokens := by
  cases fuel with
  | zero => cases h
  | succ fuel =>
    cases tokens with
    | nil => cases h
    | cons token left =>
      -- Only a word can begin such a selector; an opening brace begins one without a name.
      cases token with
      | word word =>
        -- The word is the name, whatever matchers follow in braces.
        rw [primary_word (namesMetric_of_primary rfl h)] at h
        have hword : selector.name = some word := by
          unfold namedSelector at h
          split at h
          · obtain ⟨⟨read, left⟩, -, h⟩ := Option.bind_eq_some_iff.mp h
            obtain ⟨e, he, h⟩ := Option.bind_eq_some_iff.mp h
            cases h
            cases check?_eq_some he
            rfl
          · cases h
            rfl
        rw [Option.some.inj (hname.symm.trans hword)]
        exact List.mem_cons_self ..
      | sign sign =>
        cases sign with
        | leftBrace =>
          obtain ⟨⟨read, left⟩, -, h⟩ := Option.bind_eq_some_iff.mp h
          obtain ⟨e, he, h⟩ := Option.bind_eq_some_iff.mp h
          cases h
          cases check?_eq_some he
          cases hname
        -- An expression in parentheses stays one, and is no selector.
        | leftParen =>
          obtain ⟨⟨inner, left⟩, -, h⟩ := Option.bind_eq_some_iff.mp h
          dsimp only at h
          split at h <;> cases h
        | _ => cases h
      | number text =>
        obtain ⟨x, -, h⟩ := Option.map_eq_some_iff.mp h
        cases h
      | label text => cases h
      | duration text => cases h
      | quoted s => cases h

/-- A selector of a named metric is written with that name. -/
private theorem word_mem_of_read {selector : Selector} {name : String}
    (hshift : selector.shift.isNone = true) (hname : selector.name = some name) (fuel : Nat) :
    (∀ {level tokens}, expression fuel level tokens = some (.instant selector, []) →
      .word name ∈ tokens) ∧
    (∀ {tokens}, operand fuel tokens = some (.instant selector, []) → .word name ∈ tokens) := by
  -- A plus sign leads from an operand back to an expression, so both are shown together.
  induction fuel with
  | zero =>
    refine ⟨fun h => ?_, fun h => ?_⟩
    · cases h
    · cases h
  | succ fuel ih =>
    obtain ⟨ihExpression, ihOperand⟩ := ih
    refine ⟨fun h => ?_, fun h => ?_⟩
    · -- No operation made the selector, so it is the left operand.
      obtain ⟨⟨left, rest⟩, hleft, h⟩ := Option.bind_eq_some_iff.mp h
      obtain ⟨rfl, rfl⟩ := eq_of_operations rfl h
      exact ihOperand hleft
    · unfold operand at h
      split at h
      · exact List.mem_cons_of_mem _ (ihExpression h)
      · -- A minus sign makes a negation.
        obtain ⟨⟨e, rest⟩, -, h⟩ := Option.bind_eq_some_iff.mp h
        obtain ⟨e', he', h⟩ := Option.bind_eq_some_iff.mp h
        cases h
        cases selector?_of_negate? he'
      · -- No range or offset was added, so the selector is the primary itself.
        obtain ⟨⟨e, rest⟩, hprimary, h⟩ := Option.bind_eq_some_iff.mp h
        obtain ⟨rfl, rfl⟩ := eq_of_suffixes_instant hshift h
        exact primary_eq_instant hprimary hname

theorem Expr.word_mem_of_ofTokens? {tokens : List Token} {selector : Selector} {name : String}
    (h : Expr.ofTokens? tokens = some (.instant selector))
    (hshift : selector.shift.isNone = true) (hname : selector.name = some name) :
    .word name ∈ tokens := by
  unfold Expr.ofTokens? at h
  split at h
  · rename_i hread
    cases h
    exact (word_mem_of_read hshift hname _).1 hread
  · cases h

/-- The selector of a metric, by its name alone. -/
def Selector.ofName (name : String) : Selector := { name := some name, matchers := [] }

/-- A text that reads as the selector of the metric of that name is a name in which colons count as
    letters. -/
theorem isRecordName_of_read? {name : String}
    (h : Expr.read? name = some (.instant (Selector.ofName name))) :
    Text.isRecordName name = true := by
  obtain ⟨tokens, htokens, h⟩ := Option.bind_eq_some_iff.mp h
  exact isRecordName_of_mem_scanTokens htokens (Expr.word_mem_of_ofTokens? h rfl rfl)

/-- **Metrics by name**: where a name reads as the selector of the metric of that name, the name
    with a range behind it reads as that selector over that range. -/
theorem Expr.read?_range {name length : String} {span : Time.Span}
    (h : Expr.read? name = some (.instant (Selector.ofName name)))
    (hspan : span? length = some span) :
    Expr.read? (name ++ "[" ++ length ++ "]") = some (.range (Selector.ofName name) span) := by
  -- Read by itself the name is one word; with a range the same word comes first.
  have hname := isRecordName_of_read? h
  rw [Expr.read?, tokens?_name hname] at h
  rw [Expr.read?, tokens?_range hname hspan]
  exact Expr.ofTokens?_range h rfl hspan

end LabeledSeries.Query
