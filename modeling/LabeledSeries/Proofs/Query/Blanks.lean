import LabeledSeries.Proofs.Query.Spellings

/-!
# Texts with a blank between them

A blank ends every token before it, so a text, a blank and a second text have the tokens of the one
and then those of the other (`tokens?_append`).  A comment at the end of the first text would go on
in the second one; the blank has to end its line, or the first text must have no hash.

§1 Scanners that stop at a blank, and how they are put together.  §2 Numbers, durations and quoted
texts.  §3 Tokens.  §4 Texts.
-/

namespace LabeledSeries.Query

/-! ## §1 Scanners -/

variable {α β : Type} {gap : Char}

/-- A scanner stops at a blank: of a text that it reads it leaves an end, and it reads the same, and
    leaves the blank, when the blank and more stand behind the text. -/
def StopsAt (gap : Char) (scan : List Char → Option (α × List Char)) : Prop :=
  ∀ ⦃text rest : List Char⦄ ⦃a : α⦄, scan text = some (a, rest) →
    rest <:+ text ∧ ∀ more, scan (text ++ gap :: more) = some (a, rest ++ gap :: more)

theorem StopsAt.bind {scan : List Char → Option (α × List Char)}
    {next : α → List Char → Option (β × List Char)} (h : StopsAt gap scan)
    (hnext : ∀ {text rest a}, scan text = some (a, rest) → StopsAt gap (next a)) :
    StopsAt gap fun text => (scan text).bind fun (a, rest) => next a rest := by
  intro text rest b hscan
  obtain ⟨⟨a, left⟩, ha, hb⟩ := Option.bind_eq_some_iff.mp hscan
  obtain ⟨hleft, hmore⟩ := h ha
  obtain ⟨hrest, hmoreNext⟩ := hnext ha hb
  -- The rest of the second is an end of the rest of the first, and so of the text.
  refine ⟨hrest.trans hleft, fun more => ?_⟩
  dsimp only
  rw [hmore, Option.bind_some]
  exact hmoreNext more

theorem stopsAt_pure (gap : Char) (a : α) : StopsAt gap fun rest => some (a, rest) := by
  intro text rest b h
  cases h
  exact ⟨List.suffix_refl _, fun more => rfl⟩

theorem stopsAt_none (gap : Char) : StopsAt gap fun _ => (none : Option (α × List Char)) := by
  intro text rest b h
  cases h

theorem StopsAt.map {scan : List Char → Option (α × List Char)} (h : StopsAt gap scan)
    (f : α → β) : StopsAt gap fun text => (scan text).map fun (a, rest) => (f a, rest) := by
  intro text rest b hscan
  obtain ⟨⟨a, left⟩, ha, hb⟩ := Option.map_eq_some_iff.mp hscan
  cases hb
  obtain ⟨hleft, hmore⟩ := h ha
  refine ⟨hleft, fun more => ?_⟩
  dsimp only
  rw [hmore, Option.map_some]

/-- A scanner of the characters of some kind stops at a blank of another kind. -/
theorem stopsAt_span {p : Char → Bool} (hp : p gap = false) :
    StopsAt gap fun text => some (text.takeWhile p, text.dropWhile p) := by
  intro text rest part h
  cases h
  refine ⟨List.dropWhile_suffix p, fun more => ?_⟩
  -- The blank is not of the kind, so it ends the part as the end of the text does.
  induction text with
  | nil => simp [hp]
  | cons c text ih =>
    cases hc : p c with
    | false => simp [hc]
    | true => simpa [hc] using ih

/-- The first character of a text with a blank behind it is that of the text, unless it is that
    blank. -/
theorem exists_cons_of_append_eq {text more rest : List Char} {c : Char} (hc : gap ≠ c)
    (h : text ++ gap :: more = c :: rest) :
    ∃ left, text = c :: left ∧ left ++ gap :: more = rest := by
  cases text with
  | nil => exact absurd (List.cons.inj h).1 hc
  | cons d text =>
    obtain ⟨rfl, hrest⟩ := List.cons.inj h
    exact ⟨text, rfl, hrest⟩

theorem isSpace_cases (h : isSpace gap = true) :
    gap = ' ' ∨ gap = '\t' ∨ gap = '\n' ∨ gap = '\r' ∨ gap = '\x0c' := by
  simpa [isSpace, or_assoc] using h

/-- No blank is a part of a token. -/
theorem ne_of_isSpace (h : isSpace gap = true) {c : Char} (hc : isSpace c = false) : gap ≠ c := by
  rintro rfl
  rw [h] at hc
  cases hc

theorem not_isWordPart_of_isSpace (h : isSpace gap = true) : isWordPart gap = false := by
  rcases isSpace_cases h with rfl | rfl | rfl | rfl | rfl <;> rfl

/-- Whether a word ends is not changed by a blank. -/
theorem StopsAt.ite {first second : List Char → Option (α × List Char)}
    (hgap : isSpace gap = true) (hfirst : StopsAt gap first) (hsecond : StopsAt gap second) :
    StopsAt gap fun rest => if endsWord rest then first rest else second rest := by
  have hends (text more : List Char) : endsWord (text ++ gap :: more) = endsWord text := by
    -- At the end of the text the blank stands for it.
    cases text with
    | nil => simp [endsWord, not_isWordPart_of_isSpace hgap]
    | cons c text => rfl
  intro text rest a h
  dsimp only at h ⊢
  simp only [hends]
  cases hword : endsWord text with
  | true =>
    rw [hword, if_pos rfl] at h
    exact hfirst h
  | false =>
    rw [hword, if_neg Bool.false_ne_true] at h
    exact hsecond h

/-! ## §2 Numbers, durations and quoted texts -/

/-- The mark of a base in front of a number, and the digits of that base. -/
def scanBase : List Char → List Char × (Char → Bool) × List Char
  | '0' :: 'x' :: rest => (['0', 'x'], Text.isHexDigit, rest)
  | '0' :: 'X' :: rest => (['0', 'X'], Text.isHexDigit, rest)
  | rest => ([], Char.isDigit, rest)

/-- A point and the digits behind it, if there is one. -/
def scanFraction (digit : Char → Bool) : List Char → List Char × List Char
  | '.' :: rest => ('.' :: rest.takeWhile digit, rest.dropWhile digit)
  | rest => ([], rest)

/-- The letter of an exponent, if there is one. -/
def scanMark : List Char → List Char × List Char
  | 'e' :: rest => (['e'], rest)
  | 'E' :: rest => (['E'], rest)
  | rest => ([], rest)

/-- The sign of an exponent, if its letter has been read and there is one. -/
def scanSign (mark rest : List Char) : List Char × List Char :=
  match mark, rest with
  | _ :: _, '+' :: rest => (['+'], rest)
  | _ :: _, '-' :: rest => (['-'], rest)
  | _, rest => ([], rest)

/-- The digits of an exponent, if its letter has been read. -/
def scanPower (mark rest : List Char) : List Char × List Char :=
  match mark with
  | _ :: _ => (rest.takeWhile Char.isDigit, rest.dropWhile Char.isDigit)
  | [] => ([], rest)

/-- A scanner of a part that begins with some characters, and that may be missing. -/
theorem stopsAt_optional {scan : List Char → List Char × List Char} {p : Char → Bool}
    (hp : p gap = false)
    (htake : ∀ c, p c = true → StopsAt gap fun rest => some (scan (c :: rest)))
    (hskip : ∀ text, (∀ c ∈ text.head?, p c = false) → scan text = ([], text)) :
    StopsAt gap fun text => some (scan text) := by
  intro text rest part h
  dsimp only at h ⊢
  -- Without the part all of the text is left, with the blank behind it or without.
  have hmissing (hnone : ∀ c ∈ text.head?, p c = false)
      (hmore : ∀ more, ∀ c ∈ (text ++ gap :: more).head?, p c = false) :
      rest <:+ text ∧
        ∀ more, some (scan (text ++ gap :: more)) = some (part, rest ++ gap :: more) := by
    rw [hskip text hnone] at h
    cases h
    exact ⟨List.suffix_refl _, fun more => congrArg some (hskip _ (hmore more))⟩
  cases text with
  | nil => exact hmissing (by simp) (by simpa using hp)
  | cons c text =>
    cases hc : p c with
    | false => exact hmissing (by simpa using hc) (by simpa using hc)
    | true =>
      obtain ⟨hrest, hmore⟩ := htake c hc h
      exact ⟨hrest.trans (List.suffix_cons ..), hmore⟩

theorem stopsAt_scanBase (hgap : isSpace gap = true) :
    StopsAt gap fun text =>
      some (((scanBase text).1, (scanBase text).2.1), (scanBase text).2.2) := by
  intro text rest a h
  cases h
  -- Both characters of the mark are in the text, since neither is a blank.
  have hmark (mark : Char) {more rest : List Char} (hspace : isSpace mark = false)
      (heq : text ++ gap :: more = '0' :: mark :: rest) : ∃ left, text = '0' :: mark :: left := by
    obtain ⟨after, rfl, hafter⟩ := exists_cons_of_append_eq (ne_of_isSpace hgap rfl) heq
    obtain ⟨left, rfl, -⟩ := exists_cons_of_append_eq (ne_of_isSpace hgap hspace) hafter
    exact ⟨left, rfl⟩
  unfold scanBase
  split
  · exact ⟨List.suffix_append ['0', 'x'] _, fun more => rfl⟩
  · exact ⟨List.suffix_append ['0', 'X'] _, fun more => rfl⟩
  · rename_i hx hX
    refine ⟨List.suffix_refl _, fun more => ?_⟩
    dsimp only
    -- A mark that the text has only begun is not completed by the blank.
    split
    · rename_i heq
      obtain ⟨left, rfl⟩ := hmark 'x' rfl heq
      exact (hx left rfl).elim
    · rename_i heq
      obtain ⟨left, rfl⟩ := hmark 'X' rfl heq
      exact (hX left rfl).elim
    · rfl

theorem stopsAt_scanFraction (hgap : isSpace gap = true) {digit : Char → Bool}
    (hdigit : digit gap = false) : StopsAt gap fun text => some (scanFraction digit text) := by
  -- Without the point there is no fraction, and the blank is no point.
  apply stopsAt_optional (p := fun c => c == '.') (beq_eq_false_iff_ne.mpr (ne_of_isSpace hgap rfl))
  · intro c hc
    obtain rfl := eq_of_beq hc
    exact (stopsAt_span hdigit).map ('.' :: ·)
  · intro text hnone
    unfold scanFraction
    split
    · cases hnone '.' rfl
    · rfl

theorem stopsAt_scanMark (hgap : isSpace gap = true) :
    StopsAt gap fun text => some (scanMark text) := by
  apply stopsAt_optional (p := fun c => c == 'e' || c == 'E')
  · simp [ne_of_isSpace hgap (c := 'e') rfl, ne_of_isSpace hgap (c := 'E') rfl]
  · intro c hc
    simp only [Bool.or_eq_true, beq_iff_eq] at hc
    rcases hc with rfl | rfl
    · exact stopsAt_pure gap ['e']
    · exact stopsAt_pure gap ['E']
  · intro text hnone
    unfold scanMark
    split
    · cases hnone 'e' rfl
    · cases hnone 'E' rfl
    · rfl

theorem stopsAt_scanSign (hgap : isSpace gap = true) (mark : List Char) :
    StopsAt gap fun text => some (scanSign mark text) := by
  cases mark with
  -- Without the letter no sign is looked for.
  | nil => exact stopsAt_pure gap []
  | cons letter mark =>
    apply stopsAt_optional (p := fun c => c == '+' || c == '-')
    · simp [ne_of_isSpace hgap (c := '+') rfl, ne_of_isSpace hgap (c := '-') rfl]
    · intro c hc
      simp only [Bool.or_eq_true, beq_iff_eq] at hc
      rcases hc with rfl | rfl
      · exact stopsAt_pure gap ['+']
      · exact stopsAt_pure gap ['-']
    · intro text hnone
      unfold scanSign
      split
      · cases hnone '+' rfl
      · cases hnone '-' rfl
      · rfl

theorem not_isDigit_of_isSpace (hgap : isSpace gap = true) : gap.isDigit = false := by
  rcases isSpace_cases hgap with rfl | rfl | rfl | rfl | rfl <;> rfl

theorem stopsAt_scanPower (hgap : isSpace gap = true) (mark : List Char) :
    StopsAt gap fun text => some (scanPower mark text) := by
  cases mark with
  | nil => exact stopsAt_pure gap []
  | cons c mark => exact stopsAt_span (not_isDigit_of_isSpace hgap)

/-- The digits of either base are none at a blank. -/
theorem not_digit_of_scanBase (hgap : isSpace gap = true) (text : List Char) :
    (scanBase text).2.1 gap = false := by
  have hhexadecimal : Text.isHexDigit gap = false := by
    rcases isSpace_cases hgap with rfl | rfl | rfl | rfl | rfl <;> rfl
  unfold scanBase
  split
  · exact hhexadecimal
  · exact hhexadecimal
  · exact not_isDigit_of_isSpace hgap

theorem stopsAt_scanNumber (hgap : isSpace gap = true) :
    StopsAt gap fun text => some (scanNumber text) := by
  -- The parts of a number are scanned one after the other; the last one is put in first here.
  have hsign (before mark : List Char) := (stopsAt_scanSign hgap mark).bind fun {_ _ sign} _ =>
    (stopsAt_scanPower hgap mark).map (before ++ mark ++ sign ++ ·)
  have hmark (before : List Char) :=
    (stopsAt_scanMark hgap).bind fun {_ _ mark} _ => hsign before mark
  have hfraction (before : List Char) {digit : Char → Bool} (hdigit : digit gap = false) :=
    (stopsAt_scanFraction hgap hdigit).bind fun {_ _ fraction} _ => hmark (before ++ fraction)
  have hwhole (lead : List Char) {digit : Char → Bool} (hdigit : digit gap = false) :=
    (stopsAt_span hdigit).bind fun {_ _ whole} _ => hfraction (lead ++ whole) hdigit
  -- Whichever base it is, its digits end at a blank.
  have hbase {text rest : List Char} {base : List Char × (Char → Bool)}
      (h : some (((scanBase text).1, (scanBase text).2.1), (scanBase text).2.2) =
        some (base, rest)) : base.2 gap = false := by
    cases h
    exact not_digit_of_scanBase hgap text
  exact (stopsAt_scanBase hgap).bind fun {_ _ base} h => hwhole base.1 (hbase h)

theorem stopsAt_scanUnit (hgap : isSpace gap = true) (allowed : Char → Bool) :
    StopsAt gap (scanUnit allowed) := by
  intro text rest unit h
  unfold scanUnit at h
  -- Milliseconds come first, then the units of one letter.
  split at h
  · rename_i c left
    split at h
    · rename_i hallowed
      cases h
      exact ⟨List.suffix_append [c, 's'] _, fun more => by simp [scanUnit, hallowed]⟩
    · cases h
  · rename_i c left hseconds
    split at h
    · rename_i hallowed
      cases h
      refine ⟨List.suffix_cons .., fun more => ?_⟩
      rw [List.cons_append, scanUnit]
      · rw [if_pos hallowed]
      · -- The letter of seconds behind a unit is none that the blank has brought.
        intro after heq
        obtain ⟨left, rfl, -⟩ := exists_cons_of_append_eq (ne_of_isSpace hgap rfl) heq
        exact hseconds left rfl
    · cases h
  · cases h

theorem length_lt_of_scanUnit {allowed : Char → Bool} {text rest unit : List Char}
    (h : scanUnit allowed text = some (unit, rest)) : rest.length < text.length := by
  unfold scanUnit at h
  split at h
  · split at h
    · cases h
      simp only [List.length_cons]
      omega
    · cases h
  · split at h
    · cases h
      exact Nat.lt_succ_self _
    · cases h
  · cases h

/-- Further units are scanned alike with more fuel and before a blank. -/
theorem scanUnits_append (hgap : isSpace gap = true) {fuel larger : Nat}
    {text units rest : List Char} (hfuel : text.length ≤ fuel) (hlarger : fuel ≤ larger)
    (h : scanUnits fuel text = some (units, rest)) :
    rest <:+ text ∧
      ∀ more, scanUnits larger (text ++ gap :: more) = some (units, rest ++ gap :: more) := by
  have hdigit := not_isDigit_of_isSpace hgap
  -- More fuel than there are characters changes nothing, so it may differ on both sides.
  induction fuel generalizing larger text units rest with
  | zero =>
    obtain rfl := List.length_eq_zero_iff.mp (Nat.le_zero.mp hfuel)
    cases h
    refine ⟨List.suffix_refl _, fun more => ?_⟩
    cases larger with
    | zero => rfl
    | succ larger => simp [scanUnits, hdigit]
  | succ fuel ih =>
    obtain ⟨larger, rfl⟩ : ∃ n, larger = n + 1 := ⟨larger - 1, by omega⟩
    obtain ⟨hdigits, hspan⟩ := stopsAt_span hdigit (rfl : _ = some (text.takeWhile _, _))
    simp only [Option.some.injEq, Prod.mk.injEq] at hspan
    -- What is left behind digits and a unit is shorter, so there is fuel for it on both sides.
    rw [scanUnits] at h
    split at h
    · rename_i hnone
      cases h
      refine ⟨List.suffix_refl _, fun more => ?_⟩
      rw [scanUnits, (hspan more).1, hnone]
    · rename_i digits hsome
      obtain ⟨⟨unit, left⟩, hunit, h⟩ := Option.bind_eq_some_iff.mp h
      obtain ⟨⟨others, after⟩, hothers, h⟩ := Option.bind_eq_some_iff.mp h
      cases h
      obtain ⟨hleft, hunitMore⟩ := stopsAt_scanUnit hgap _ hunit
      have hlength : left.length < text.length :=
        (length_lt_of_scanUnit hunit).trans_le hdigits.length_le
      obtain ⟨hafter, hothersMore⟩ :=
        ih (Nat.le_of_lt_succ (hlength.trans_le hfuel)) (Nat.le_of_succ_le_succ hlarger) hothers
      refine ⟨(hafter.trans hleft).trans hdigits, fun more => ?_⟩
      rw [scanUnits, (hspan more).1, (hspan more).2]
      simp only [hunitMore more, hothersMore more, Option.bind_eq_bind, Option.bind_some]
      rfl

theorem stopsAt_scanQuantity (hgap : isSpace gap = true) : StopsAt gap scanQuantity := by
  -- With the fuel of the longer text further units are scanned alike.
  have hunits : StopsAt gap fun rest => scanUnits rest.length rest := by
    intro text rest units h
    refine ⟨(scanUnits_append hgap le_rfl le_rfl h).1, fun more => ?_⟩
    exact (scanUnits_append hgap le_rfl (by simp) h).2 more
  -- A duration has to end the word, so the blank must not change that.
  have hend (number unit units : List Char) := StopsAt.ite hgap
    (stopsAt_pure gap (Token.duration (String.ofList (number ++ unit ++ units))))
    (stopsAt_none gap)
  have hunit (number : List Char) := (stopsAt_scanUnit hgap isUnitLetter).bind fun {_ _ unit} _ =>
    hunits.bind fun {_ _ units} _ => hend number unit units
  have hnumber (number : List Char) := StopsAt.ite hgap
    (stopsAt_pure gap (Token.number (String.ofList number))) (hunit number)
  exact (stopsAt_scanNumber hgap).bind fun {_ _ number} _ => hnumber number

/-- A text between quotes ends at its quote, whatever follows. -/
theorem stopsAt_scanQuoted (gap : Char) {quote : Char} (hslash : quote ≠ '\\') :
    StopsAt gap (scanQuoted quote) := by
  intro text rest inner h
  -- The cases are those of the scan: the end, an escape, the quote, a line break, another
  -- character.
  fun_induction scanQuoted quote text generalizing inner with
  | case1 => cases h
  | case2 c text hescape ih =>
    obtain ⟨⟨others, left⟩, hothers, heq⟩ := Option.map_eq_some_iff.mp h
    cases heq
    obtain ⟨hrest, hmore⟩ := ih hothers
    refine ⟨hrest.trans (List.suffix_append ['\\', c] _), fun more => ?_⟩
    simp only [List.cons_append, scanQuoted, if_pos hescape, hmore, Option.map_some]
  | case3 => cases h
  | case4 c text hsplit hquote =>
    cases h
    obtain rfl := eq_of_beq hquote
    refine ⟨List.suffix_cons .., fun more => ?_⟩
    rw [List.cons_append, scanQuoted]
    · rw [if_pos hquote]
    · intro d rest' heq
      exact absurd heq hslash
  | case5 => cases h
  | case6 c text hsplit hquote hplain ih =>
    obtain ⟨⟨others, left⟩, hothers, heq⟩ := Option.map_eq_some_iff.mp h
    cases heq
    obtain ⟨hrest, hmore⟩ := ih hothers
    refine ⟨hrest.trans (List.suffix_cons ..), fun more => ?_⟩
    -- The character is no backslash, so it begins no escape with the one behind it.
    rw [List.cons_append, scanQuoted]
    · rw [if_neg hquote, if_neg hplain, hmore, Option.map_some]
    · intro d rest' heq
      exact absurd (beq_iff_eq.mpr heq) hplain

/-! ## §3 Tokens -/

/-- A reader of tokens stops at a blank behind a text: of what it reads there it leaves an end, and
    the blank if one stands behind. -/
def TokenStops (gap : Char) (read : List Char → Option (Token × Region × List Char))
    (text : List Char) : Prop :=
  ∀ ⦃token : Token⦄ ⦃next : Region⦄ ⦃rest : List Char⦄, read text = some (token, next, rest) →
    rest <:+ text ∧ ∀ more, read (text ++ gap :: more) = some (token, next, rest ++ gap :: more)

/-- A token that is scanned behind its first characters, if there are such. -/
theorem tokenStops_of_map {scan : List Char → Option (α × List Char)}
    (hscan : StopsAt gap scan) {read : List Char → Option (Token × Region × List Char)}
    {f : α → Token} {region : Region} (before : List Char) {text : List Char}
    (hread : ∀ more, read (before ++ (text ++ more)) =
      (scan (text ++ more)).map fun (a, rest) => (f a, region, rest)) :
    TokenStops gap read (before ++ text) := by
  intro token next rest h
  have hall := hread []
  rw [List.append_nil] at hall
  rw [hall] at h
  obtain ⟨⟨a, left⟩, hleft, h⟩ := Option.map_eq_some_iff.mp h
  cases h
  obtain ⟨hrest, hmore⟩ := hscan hleft
  refine ⟨hrest.trans (List.suffix_append ..), fun more => ?_⟩
  rw [List.append_assoc, hread, hmore, Option.map_some]

/-- Outside braces and brackets a quote begins a quoted text. -/
theorem plainToken_quote {quote : Char} (h : isQuote quote = true) (rest : List Char) :
    plainToken (quote :: rest) = (scanQuoted quote rest).map fun (text, rest) =>
      (.quoted (String.ofList text), .plain, rest) := by
  simp only [isQuote, Bool.or_eq_true, beq_iff_eq] at h
  rcases h with (rfl | rfl) | rfl <;> rfl

theorem ne_backslash_of_isQuote {quote : Char} (h : isQuote quote = true) : quote ≠ '\\' := by
  rintro rfl
  cases h

/-- A point begins a number where a digit follows it. -/
theorem plainToken_point {rest : List Char} (h : rest.head?.any Char.isDigit = true) :
    plainToken ('.' :: rest) =
      (scanQuantity ('.' :: rest)).map fun (token, rest) => (token, .plain, rest) := by
  simp [plainToken, h, isQuote]

/-- A comparison is strict where no sign of equality follows. -/
theorem plainToken_strict {rest : List Char} (h : ∀ after, rest = '=' :: after → False) :
    plainToken ('<' :: rest) = some (.sign .less, .plain, rest) ∧
      plainToken ('>' :: rest) = some (.sign .greater, .plain, rest) := by
  cases rest with
  | nil => exact ⟨rfl, rfl⟩
  | cons c rest => simp [plainToken]

/-- A matcher asks for equality where no tilde follows its sign. -/
theorem bracesToken_assign {rest : List Char} (h : ∀ after, rest = '~' :: after → False) :
    bracesToken ('=' :: rest) = some (.sign .assign, .braces, rest) := by
  cases rest with
  | nil => rfl
  | cons c rest => simp [bracesToken]

theorem tokenStops_plainToken (hgap : isSpace gap = true) (text : List Char) :
    TokenStops gap plainToken text := by
  cases text with
  | nil => exact fun _ _ _ h => nomatch h
  | cons c after =>
    -- The first character tells what is scanned, but for a point, which needs a digit behind it.
    by_cases hbegins : beginsWord c = true
    · have hinWord : isInWord gap = false := by
        rcases isSpace_cases hgap with rfl | rfl | rfl | rfl | rfl <;> rfl
      exact tokenStops_of_map (f := fun part => .word (String.ofList (c :: part)))
        (stopsAt_span hinWord) [c] fun more => plainToken_word hbegins
    by_cases hdigit : c.isDigit = true
    · have hplain : Region.plain ≠ .braces := by decide
      exact tokenStops_of_map (f := id) (stopsAt_scanQuantity hgap) [] fun more =>
        tokenIn_digit hplain hdigit (after ++ more)
    by_cases hquote : isQuote c = true
    · exact tokenStops_of_map (f := fun part => .quoted (String.ofList part))
        (stopsAt_scanQuoted gap (ne_backslash_of_isQuote hquote)) [c] fun more =>
          plainToken_quote hquote (after ++ more)
    by_cases hpoint : c = '.' ∧ after.head?.any Char.isDigit = true
    · obtain ⟨rfl, hdigits⟩ := hpoint
      have hhead (more : List Char) : (after ++ more).head?.any Char.isDigit = true := by
        cases after with
        | nil => cases hdigits
        | cons d after => exact hdigits
      exact tokenStops_of_map (f := id) (stopsAt_scanQuantity hgap) [] fun more =>
        plainToken_point (hhead more)
    intro token next rest h
    unfold plainToken at h
    dsimp only at h
    split at h
    -- A sign of one or two characters stands by itself.
    all_goals try
      (cases h
       first
       | exact ⟨List.suffix_cons .., fun more => rfl⟩
       | exact ⟨List.suffix_append [_, _] _, fun more => rfl⟩)
    · rename_i hequal
      cases h
      refine ⟨List.suffix_cons .., fun more => (plainToken_strict fun rest heq => ?_).1⟩
      obtain ⟨left, rfl, -⟩ := exists_cons_of_append_eq (ne_of_isSpace hgap rfl) heq
      exact hequal left rfl
    · rename_i hequal
      cases h
      refine ⟨List.suffix_cons .., fun more => (plainToken_strict fun rest heq => ?_).2⟩
      obtain ⟨left, rfl, -⟩ := exists_cons_of_append_eq (ne_of_isSpace hgap rfl) heq
      exact hequal left rfl
    · rw [beginsWord] at hbegins
      simp [hquote, hdigit, hbegins, hpoint] at h

theorem bracesToken_label {c : Char} (h : isWordStart c = true) (rest : List Char) :
    bracesToken (c :: rest) =
      some (.label (String.ofList (c :: rest.takeWhile isWordPart)), .braces,
        rest.dropWhile isWordPart) := by
  have hbegins : beginsWord c = true := by rw [beginsWord, h, Bool.true_or]
  have hquote : isQuote c = false := (not_sign_of_beginsWord hbegins).2.2.1
  unfold bracesToken
  dsimp only
  split
  all_goals try (exact absurd h (by decide))
  simp only [hquote, h, Bool.false_eq_true, if_false, if_true]

theorem tokenStops_bracesToken (hgap : isSpace gap = true) (text : List Char) :
    TokenStops gap bracesToken text := by
  cases text with
  | nil => exact fun _ _ _ h => nomatch h
  | cons c after =>
    by_cases hstart : isWordStart c = true
    · exact tokenStops_of_map (f := fun part => .label (String.ofList (c :: part)))
        (stopsAt_span (not_isWordPart_of_isSpace hgap)) [c] fun more =>
          bracesToken_label hstart (after ++ more)
    by_cases hquote : isQuote c = true
    · exact tokenStops_of_map (f := fun part => .quoted (String.ofList part))
        (stopsAt_scanQuoted gap (ne_backslash_of_isQuote hquote)) [c] fun more =>
          bracesToken_quote hquote (after ++ more)
    intro token next rest h
    unfold bracesToken at h
    dsimp only at h
    split at h
    all_goals try
      (cases h
       first
       | exact ⟨List.suffix_cons .., fun more => rfl⟩
       | exact ⟨List.suffix_append [_, _] _, fun more => rfl⟩)
    · rename_i htilde
      cases h
      refine ⟨List.suffix_cons .., fun more => bracesToken_assign fun rest heq => ?_⟩
      obtain ⟨left, rfl, -⟩ := exists_cons_of_append_eq (ne_of_isSpace hgap rfl) heq
      exact htilde left rfl
    · simp [hquote, hstart] at h

theorem tokenStops_bracketsToken (hgap : isSpace gap = true) (text : List Char) :
    TokenStops gap bracketsToken text := by
  cases text with
  | nil => exact fun _ _ _ h => nomatch h
  | cons c after =>
    by_cases hdigit : c.isDigit = true
    · have hbrackets : Region.brackets ≠ .braces := by decide
      exact tokenStops_of_map (f := id) (stopsAt_scanQuantity hgap) [] fun more =>
        tokenIn_digit hbrackets hdigit (after ++ more)
    intro token next rest h
    unfold bracketsToken at h
    split at h
    · rename_i heq
      cases heq
      cases h
      exact ⟨List.suffix_cons .., fun more => rfl⟩
    · rename_i heq
      cases heq
      cases h
      exact ⟨List.suffix_cons .., fun more => rfl⟩
    · rename_i heq
      cases heq
      rw [if_neg hdigit] at h
      cases h
    · cases h

/-- Every token ends before a blank. -/
theorem tokenStops_tokenIn (hgap : isSpace gap = true) (region : Region) (text : List Char) :
    TokenStops gap (tokenIn region) text := by
  cases region with
  | plain => exact tokenStops_plainToken hgap text
  | braces => exact tokenStops_bracesToken hgap text
  | brackets => exact tokenStops_bracketsToken hgap text

/-! ## §4 Texts -/

/-- Whether a blank ends the line. -/
def endsLine (c : Char) : Bool := c == '\n' || c == '\r'

/-- A comment is skipped up to a blank that ends its line. -/
theorem skipLine_append (hline : endsLine gap = true) (text more : List Char) :
    skipLine (text ++ gap :: more) = skipLine text ++ gap :: more := by
  have hstop : (gap != '\n' && gap != '\r') = false := by
    simp only [endsLine, Bool.or_eq_true, beq_iff_eq] at hline
    rcases hline with rfl | rfl <;> rfl
  have hspan := (stopsAt_span (p := fun c => c != '\n' && c != '\r') hstop
    (rfl : _ = some (text.takeWhile _, _))).2 more
  exact (Prod.mk.inj (Option.some.inj hspan)).2

/-- Whether a blank behind a text is no part of a comment. -/
def EndsComment (gap : Char) (text : List Char) : Prop := endsLine gap = true ∨ '#' ∉ text

theorem scanTokens_append (hgap : isSpace gap = true) {fuel larger : Nat} {region : Region}
    {text more : List Char} {tokens others : List Token} (hcomment : EndsComment gap text)
    (h : scanTokens fuel region text = some tokens)
    (hmore : scanTokens larger .plain more = some others) :
    scanTokens (fuel + larger) region (text ++ gap :: more) = some (tokens ++ others) := by
  induction fuel generalizing region text tokens with
  | zero => cases h
  | succ fuel ih =>
    rw [Nat.succ_add]
    cases text with
    | nil =>
      simp only [scanTokens] at h
      split at h
      · -- The first text is at its end, so the second one begins behind the blank.
        rename_i hregion
        cases h
        subst hregion
        rw [List.nil_append, scanTokens, if_pos hgap]
        exact scanTokens_mono hmore (Nat.le_add_left ..)
      · cases h
    | cons c after =>
      -- What is left of a text has a hash only where the text has one.
      have hafter {rest : List Char} (hrest : rest <:+ c :: after) : EndsComment gap rest :=
        hcomment.imp_right fun hnot hmem => hnot (hrest.mem hmem)
      by_cases hspace : isSpace c = true
      · simp only [List.cons_append, scanTokens, hspace, if_true] at h ⊢
        exact ih (hafter (List.suffix_cons ..)) h
      · rw [Bool.not_eq_true] at hspace
        by_cases hhash : c = '#' ∧ region ≠ .brackets
        · have hline : endsLine gap = true :=
            hcomment.resolve_right (not_not_intro (hhash.1 ▸ List.mem_cons_self ..))
          simp only [List.cons_append, scanTokens, hspace, Bool.false_eq_true, if_false,
            if_pos hhash, skipLine_append hline] at h ⊢
          exact ih (.inl hline) h
        · rw [scanTokens_cons hspace hhash] at h
          obtain ⟨⟨token, next, rest⟩, htoken, h⟩ := Option.bind_eq_some_iff.mp h
          obtain ⟨left, hleft, rfl⟩ := Option.map_eq_some_iff.mp h
          obtain ⟨hrest, htokenMore⟩ := tokenStops_tokenIn hgap region (c :: after) htoken
          have hall := ih (hafter hrest) hleft
          rw [List.cons_append, scanTokens_cons hspace hhash, ← List.cons_append, htokenMore,
            Option.bind_some]
          exact congrArg (Option.map (token :: ·)) hall

/-- **A blank between texts**: a text, a blank and a second text have the tokens of both one after
    the other, if the blank is no part of a comment. -/
theorem tokens?_append (hgap : isSpace gap = true) {text rest : String}
    (hcomment : EndsComment gap text.toList) {tokens more : List Token}
    (h : tokens? text = some tokens) (hrest : tokens? rest = some more) :
    tokens? (text ++ String.singleton gap ++ rest) = some (tokens ++ more) := by
  have hchars : (text ++ String.singleton gap ++ rest).toList =
      text.toList ++ gap :: rest.toList := by
    simp
  have hlength : (text.toList ++ gap :: rest.toList).length + 1 =
      text.toList.length + 1 + (rest.toList.length + 1) := by
    rw [List.length_append, List.length_cons]
    omega
  rw [tokens?, hchars, hlength]
  exact scanTokens_append hgap hcomment h hrest

end LabeledSeries.Query
