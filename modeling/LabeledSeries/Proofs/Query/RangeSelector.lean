import LabeledSeries.Query.Parser

/-!
# Selectors with suffixes behind them

A range is written behind the selector whose samples it asks for, and an offset or a pin behind the
selector that it shifts.  Where tokens write a selector, the same tokens with a suffix behind them
write what the suffix makes of that selector (`Expr.ofTokens?_suffix`); a range makes a selector
over that range of one that is not shifted (`Expr.ofTokens?_range`).

Tokens may write a selector in few ways: a selector by itself, with plus signs in front and suffixes
behind it.  Whatever an operator makes is no selector any more (`eq_of_operations`), so a reader
that ends with a selector has left nothing to the operators, and a further suffix is read where the
tokens ended (`suffixes_append`).
-/

namespace LabeledSeries.Query

/-- The tokens of a range. -/
def rangeTokens (span : String) : List Token :=
  [.sign .leftBracket, .duration span, .sign .rightBracket]

/-! ## §1 Readers that change what they are given -/

theorem check?_eq_some {e e' : Expr} (h : e.check? = some e') : e' = e := by
  unfold Expr.check? at h
  split at h
  · exact (Option.some.inj h).symm
  · cases h

/-- The selector of an expression that selects series, at a time or in a range. -/
def Expr.selector? : Expr → Option Selector
  | instant selector => some selector
  | range selector _ => some selector
  | _ => none

/-- A sign of negation makes no selector. -/
theorem selector?_of_negate? {e e' : Expr} (h : e.negate? = some e') : e'.selector? = none := by
  unfold Expr.negate? at h
  split at h
  · cases h
    rfl
  · rw [check?_eq_some h]
    rfl

/-- Operators make no selector. -/
theorem eq_of_operations {fuel level : Nat} {left e : Expr} {tokens : List Token}
    {selector : Selector} (hselector : e.selector? = some selector)
    (h : operations fuel level left tokens = some (e, [])) : left = e ∧ tokens = [] := by
  induction fuel generalizing left tokens with
  | zero => simp [operations] at h
  | succ fuel ih =>
    unfold operations at h
    split at h
    · cases h
      exact ⟨rfl, rfl⟩
    · split at h
      · cases h
      · split at h
        · cases h
        · -- An operator makes an expression of both its operands.
          obtain ⟨⟨pairing, rest⟩, -, h⟩ := Option.bind_eq_some_iff.mp h
          obtain ⟨⟨right, rest⟩, -, h⟩ := Option.bind_eq_some_iff.mp h
          obtain ⟨joined, hjoined, h⟩ := Option.bind_eq_some_iff.mp h
          rw [← (ih h).1, check?_eq_some hjoined] at hselector
          cases hselector

/-- What one suffix makes of an expression: a range, values at regular times, or a shift. -/
inductive Suffixed (e : Expr) : Expr → Prop where
  | range {span : Time.Span} {e' : Expr} (h : e.range? span = some e') : Suffixed e e'
  | subquery (span : Time.Span) (step : Option Time.Span) : Suffixed e (.subquery e span step {})
  | moved {forward : Bool} {span : Time.Span} {e' : Expr} (h : e.moved? forward span = some e') :
      Suffixed e e'
  | pinned {pin : Pin} {e' : Expr} (h : e.pinned? pin = some e') : Suffixed e e'

private theorem selector?_of_reshift? {change : Shift → Option Shift} {e e' : Expr}
    (h : e.reshift? change = some e') (he : e.selector? = none) : e'.selector? = none := by
  cases e with
  | instant selector => cases he
  | range selector span => cases he
  | subquery inner span step shift =>
    obtain ⟨shift, -, h⟩ := Option.bind_eq_some_iff.mp h
    cases h
    rfl
  | _ => cases h

/-- A suffix makes a selector of nothing but a selector. -/
theorem Suffixed.selector?_eq_none {e e' : Expr} (h : Suffixed e e') (he : e.selector? = none) :
    e'.selector? = none := by
  cases h with
  | range h =>
    unfold Expr.range? at h
    split at h
    · cases he
    · cases h
  | subquery span step => rfl
  | moved h => exact selector?_of_reshift? h he
  | pinned h => exact selector?_of_reshift? h he

/-- Whether an expression is a selector that is not shifted. -/
def Expr.isUnshifted : Expr → Bool
  | instant selector => selector.shift.isNone
  | _ => false

private theorem not_isUnshifted_of_reshift? {change : Shift → Option Shift} {e e' : Expr}
    (hchange : ∀ shift shift', change shift = some shift' → shift'.isNone = false)
    (h : e.reshift? change = some e') : e'.isUnshifted = false := by
  cases e with
  | instant selector =>
    obtain ⟨shift, hshift, h⟩ := Option.bind_eq_some_iff.mp h
    cases h
    exact hchange _ _ hshift
  | range selector span =>
    obtain ⟨shift, hshift, h⟩ := Option.bind_eq_some_iff.mp h
    cases h; rfl
  | subquery inner span step shift =>
    obtain ⟨shift, hshift, h⟩ := Option.bind_eq_some_iff.mp h
    cases h; rfl
  | _ => cases h

/-- A suffix makes no selector that is not shifted. -/
theorem Suffixed.not_isUnshifted {e e' : Expr} (h : Suffixed e e') : e'.isUnshifted = false := by
  cases h with
  | range h =>
    unfold Expr.range? at h
    split at h
    · split at h
      · cases h; rfl
      · cases h
    · cases h
  | subquery span step => rfl
  | moved h =>
    apply not_isUnshifted_of_reshift? (fun shift shift' hshift => ?_) h
    split at hshift
    · cases hshift
    · cases hshift; rfl
  | pinned h =>
    apply not_isUnshifted_of_reshift? (fun shift shift' hshift => ?_) h
    split at hshift
    · cases hshift
    · cases hshift; simp [Shift.isNone]

/-! ## §2 Suffixes -/

/-- Whether tokens begin with a suffix: with a bracket, a pin or an offset. -/
def beginsSuffix : List Token → Bool
  | .sign .leftBracket :: _ => true
  | .sign .at :: _ => true
  | .word word :: _ => keyword word == "offset"
  | _ => false

private theorem unsigned_append {tokens rest : List Token} {x : Float} (more : List Token)
    (h : unsigned tokens = some (x, rest)) :
    unsigned (tokens ++ more) = some (x, rest ++ more) := by
  unfold unsigned at h
  split at h
  · obtain ⟨x, hx, h⟩ := Option.map_eq_some_iff.mp h
    cases h
    simp only [List.cons_append, unsigned, hx, Option.map_some]
  · obtain ⟨x, hx, h⟩ := Option.map_eq_some_iff.mp h
    cases h
    simp only [List.cons_append, unsigned, hx, Option.map_some]
  · cases h

/-- A pin is read as it stands before a further suffix, which begins with no parenthesis. -/
theorem pin_append {tokens rest more : List Token} {read : Pin} (hmore : beginsSuffix more = true)
    (h : pin tokens = some (read, rest)) : pin (tokens ++ more) = some (read, rest ++ more) := by
  unfold pin at h
  split at h
  · -- the start or the end of a query
    simp only [List.cons_append, pin]
    split at h
    · cases h
      rfl
    · cases h
      rfl
    · cases h
  · obtain ⟨⟨x, left⟩, hx, h⟩ := Option.bind_eq_some_iff.mp h
    obtain ⟨seconds, hseconds, h⟩ := Option.bind_eq_some_iff.mp h
    cases h
    simp only [List.cons_append, pin, unsigned_append more hx, hseconds, Option.bind_eq_bind,
      Option.bind_some, Option.pure_def]
  · obtain ⟨⟨x, left⟩, hx, h⟩ := Option.bind_eq_some_iff.mp h
    obtain ⟨seconds, hseconds, h⟩ := Option.bind_eq_some_iff.mp h
    cases h
    simp only [List.cons_append, pin, unsigned_append more hx, hseconds, Option.bind_eq_bind,
      Option.bind_some, Option.pure_def]
  · rename_i hcall hsub hadd
    obtain ⟨⟨x, left⟩, hx, h⟩ := Option.bind_eq_some_iff.mp h
    obtain ⟨seconds, hseconds, h⟩ := Option.bind_eq_some_iff.mp h
    cases h
    have hmoreRead := unsigned_append more hx
    unfold pin
    split
    · -- The parentheses of a call are not those that a suffix begins with.
      rename_i word after heq
      match tokens, heq with
      | [], heq => rw [List.nil_append] at heq; subst heq; cases hx
      | [_], heq =>
        obtain rfl := (List.cons.inj heq).2
        cases hmore
      | [_, _], heq =>
        obtain rfl := (List.cons.inj (List.cons.inj heq).2).2
        cases hmore
      | _ :: _ :: _ :: left, heq =>
        simp only [List.cons_append, List.cons.injEq] at heq
        obtain ⟨rfl, rfl, rfl, -⟩ := heq
        exact (hcall word left rfl).elim
    · rename_i heq
      rw [heq] at hmoreRead
      cases hmoreRead
    · rename_i heq
      rw [heq] at hmoreRead
      cases hmoreRead
    · rw [hmoreRead]
      simp only [hseconds, Option.bind_eq_bind, Option.bind_some, Option.pure_def]

/-- What a reader of suffixes does first: it ends where it began, or it takes one suffix, which it
    takes as well when a further one follows where the tokens end. -/
theorem suffixes_cases {fuel : Nat} {e e' : Expr} {tokens rest : List Token}
    (h : suffixes (fuel + 1) e tokens = some (e', rest)) :
    (e = e' ∧ tokens = rest) ∨
      ∃ made left, Suffixed e made ∧ suffixes fuel made left = some (e', rest) ∧
        ∀ {more} (larger : Nat), beginsSuffix more = true →
          suffixes (larger + 1) e (tokens ++ more) = suffixes larger made (left ++ more) := by
  unfold suffixes at h
  split at h
  · -- a range
    obtain ⟨span, hspan, h⟩ := Option.bind_eq_some_iff.mp h
    obtain ⟨made, hmade, h⟩ := Option.bind_eq_some_iff.mp h
    refine .inr ⟨made, _, .range hmade, h, fun larger _ => ?_⟩
    simp [suffixes, hspan, hmade]
  · -- a range of values at regular times
    obtain ⟨span, hspan, h⟩ := Option.bind_eq_some_iff.mp h
    obtain ⟨made, hmade, h⟩ := Option.bind_eq_some_iff.mp h
    obtain rfl := check?_eq_some hmade
    refine .inr ⟨_, _, .subquery span none, h, fun larger _ => ?_⟩
    simp [suffixes, hspan, hmade]
  · -- the same with a step
    obtain ⟨span, hspan, h⟩ := Option.bind_eq_some_iff.mp h
    obtain ⟨step, hstep, h⟩ := Option.bind_eq_some_iff.mp h
    obtain ⟨made, hmade, h⟩ := Option.bind_eq_some_iff.mp h
    obtain rfl := check?_eq_some hmade
    refine .inr ⟨_, _, .subquery span (some step), h, fun larger _ => ?_⟩
    simp [suffixes, hspan, hstep, hmade]
  · cases h
  · -- a pin
    obtain ⟨⟨pin, left⟩, hpin, h⟩ := Option.bind_eq_some_iff.mp h
    obtain ⟨made, hmade, h⟩ := Option.bind_eq_some_iff.mp h
    refine .inr ⟨made, left, .pinned hmade, h, fun larger hmore => ?_⟩
    simp [suffixes, pin_append hmore hpin, hmade]
  · split at h
    · -- an offset, backward by default
      rename_i hkeyword
      split at h
      · obtain ⟨span, hspan, h⟩ := Option.bind_eq_some_iff.mp h
        obtain ⟨made, hmade, h⟩ := Option.bind_eq_some_iff.mp h
        refine .inr ⟨made, _, .moved hmade, h, fun larger _ => ?_⟩
        simp [suffixes, hkeyword, hspan, hmade]
      · obtain ⟨span, hspan, h⟩ := Option.bind_eq_some_iff.mp h
        obtain ⟨made, hmade, h⟩ := Option.bind_eq_some_iff.mp h
        refine .inr ⟨made, _, .moved hmade, h, fun larger _ => ?_⟩
        simp [suffixes, hkeyword, hspan, hmade]
      · obtain ⟨span, hspan, h⟩ := Option.bind_eq_some_iff.mp h
        obtain ⟨made, hmade, h⟩ := Option.bind_eq_some_iff.mp h
        refine .inr ⟨made, _, .moved hmade, h, fun larger _ => ?_⟩
        simp [suffixes, hkeyword, hspan, hmade]
      · cases h
    · cases h
      exact .inl ⟨rfl, rfl⟩
  · cases h
    exact .inl ⟨rfl, rfl⟩

/-- What every suffix keeps is kept by all of them. -/
theorem suffixes_keep {P : Expr → Prop} (hstep : ∀ {e made}, Suffixed e made → P e → P made)
    {fuel : Nat} {e e' : Expr} {tokens rest : List Token}
    (h : suffixes fuel e tokens = some (e', rest)) (he : P e) : P e' := by
  induction fuel generalizing e tokens with
  | zero =>
    cases h
    exact he
  | succ fuel ih =>
    rcases suffixes_cases h with ⟨rfl, -⟩ | ⟨made, left, hmade, hleft, -⟩
    · exact he
    · exact ih hleft (hstep hmade he)

/-- Suffixes make no selector that is not shifted. -/
theorem eq_of_suffixes_instant {fuel : Nat} {e : Expr} {tokens : List Token}
    {selector : Selector} (hshift : selector.shift.isNone = true)
    (h : suffixes fuel e tokens = some (.instant selector, [])) :
    e = .instant selector ∧ tokens = [] := by
  induction fuel generalizing e tokens with
  | zero =>
    simp only [suffixes, Option.some.injEq, Prod.mk.injEq] at h
    exact h
  | succ fuel ih =>
    rcases suffixes_cases h with heq | ⟨made, left, hmade, hleft, -⟩
    · exact heq
    · -- What a suffix made is the selector in the end, but it is none.
      have hno := hmade.not_isUnshifted
      rw [(ih hleft).1, Expr.isUnshifted, hshift] at hno
      cases hno

/-- A further suffix is read where the others end. -/
theorem suffixes_append {e₁ e₂ : Expr} {more : List Token} (hmore : beginsSuffix more = true)
    (hlast : ∀ fuel, more.length ≤ fuel → suffixes fuel e₁ more = some (e₂, []))
    {fuel larger : Nat} {e : Expr} {tokens : List Token} (hfuel : fuel + more.length ≤ larger)
    (h : suffixes fuel e tokens = some (e₁, [])) :
    suffixes larger e (tokens ++ more) = some (e₂, []) := by
  induction fuel generalizing e tokens larger with
  | zero =>
    cases h
    exact hlast larger (by omega)
  | succ fuel ih =>
    rcases suffixes_cases h with ⟨rfl, rfl⟩ | ⟨made, left, -, hleft, hstep⟩
    · exact hlast larger (by omega)
    · obtain ⟨n, rfl⟩ : ∃ n, larger = n + 1 := ⟨larger - 1, by omega⟩
      rw [hstep n hmore]
      exact ih (by omega) hleft

/-! ## §3 A suffix behind a selector -/

theorem exists_label_of_matcherList {tokens : List Token}
    {read : List Matcher × List Token} (h : matcherList tokens = some read) :
    ∃ label rest, tokens = .label label :: rest := by
  unfold matcherList at h
  split at h
  · exact ⟨_, _, rfl⟩
  · cases h

/-- Matchers end with their brace, so anything may follow. -/
theorem matcherList_append {tokens rest : List Token} {read : List Matcher} (more : List Token)
    (h : matcherList tokens = some (read, rest)) :
    matcherList (tokens ++ more) = some (read, rest ++ more) := by
  fun_induction matcherList tokens generalizing read with
  | case1 label sign value after ih =>
    obtain ⟨rule, hrule, hafter⟩ := Option.bind_eq_some_iff.mp h
    clear h
    simp only [List.cons_append, matcherList, hrule, Option.bind_eq_bind, Option.bind_some]
    split at hafter
    · cases hafter
      rfl
    · cases hafter
      rfl
    · obtain ⟨⟨others, left⟩, hothers, heq⟩ := Option.bind_eq_some_iff.mp hafter
      cases heq
      -- Further matchers begin with a label, so no brace follows the comma before them.
      obtain ⟨next, after, rfl⟩ := exists_label_of_matcherList hothers
      have hmore : matcherList (.label next :: (after ++ more)) = some (others, rest ++ more) :=
        ih hothers
      simp only [List.cons_append, hmore]
      rfl
    · cases hafter
  | case2 => cases h

theorem matchers_append {tokens rest : List Token} {read : List Matcher} (more : List Token)
    (h : matchers tokens = some (read, rest)) :
    matchers (tokens ++ more) = some (read, rest ++ more) := by
  unfold matchers at h
  split at h
  · cases h
    rfl
  · have hmore := matcherList_append more h
    obtain ⟨label, after, rfl⟩ := exists_label_of_matcherList h
    exact hmore

theorem namedSelector_append {name : String} {tokens rest more : List Token} {e : Expr}
    (hmore : beginsSuffix more = true) (h : namedSelector name tokens = some (e, rest)) :
    namedSelector name (tokens ++ more) = some (e, rest ++ more) := by
  unfold namedSelector at h
  split at h
  · obtain ⟨⟨read, left⟩, hread, h⟩ := Option.bind_eq_some_iff.mp h
    obtain ⟨e', he', h⟩ := Option.bind_eq_some_iff.mp h
    cases h
    have hmatchers := matchers_append more hread
    simp only [List.cons_append, namedSelector, hmatchers, he', Option.bind_eq_bind,
      Option.bind_some]
    rfl
  · rename_i hbrace
    cases h
    unfold namedSelector
    split
    · -- No brace stands where the matchers would.
      rename_i after heq
      cases tokens with
      | nil =>
        rw [List.nil_append] at heq
        rw [heq] at hmore
        cases hmore
      | cons token left => exact (hbrace left (by rw [(List.cons.inj heq).1])).elim
    · rfl

/-- Whether a word names a metric before the tokens that follow it. -/
def namesMetric (word : String) (rest : List Token) : Bool :=
  match Aggregator.ofKeyword? (keyword word) with
  | some _ => !aggregates rest
  | none => !refusedNames.contains (keyword word) && (namedNumber? word).isNone &&
      rest.head? != some (.sign .leftParen)

/-- A word as keywords are compared, letter by letter. -/
theorem keyword_eq {word lower : String} (h : word.toList.map Char.toLower = lower.toList) :
    keyword word = lower := by
  apply String.toList_injective
  rw [keyword, String.toList_map, h]

/-- A word names a metric if in lower case it is no keyword of an aggregation, no name that is
    refused and no name of a number. -/
theorem namesMetric_of_keyword {word : String} (lower : String)
    (hlower : word.toList.map Char.toLower = lower.toList)
    (h : Aggregator.ofKeyword? lower = none ∧ refusedNames.contains lower = false ∧
      lower ≠ "inf" ∧ lower ≠ "nan") : namesMetric word [] = true := by
  have hkeyword := keyword_eq hlower
  obtain ⟨haggregator, hrefused, hinf, hnan⟩ := h
  have hnumber : namedNumber? word = none := by
    rw [namedNumber?, hkeyword, if_neg (not_or.mpr ⟨hinf, hnan⟩)]
  rw [namesMetric, hkeyword, haggregator, hrefused, hnumber]
  rfl

private theorem namesMetric_append (word : String) (rest : List Token) {more : List Token}
    (hmore : beginsSuffix more = true) :
    namesMetric word (rest ++ more) = namesMetric word rest := by
  cases rest with
  | cons token rest =>
    have haggregates : aggregates (token :: rest ++ more) = aggregates (token :: rest) := by
      cases token with
      | sign sign => cases sign <;> rfl
      | _ => rfl
    rw [namesMetric, haggregates, namesMetric]
    rfl
  | nil =>
    -- A suffix neither opens a parenthesis nor groups an aggregation.
    have hsuffix : aggregates more = false ∧ (more.head? != some (.sign .leftParen)) = true := by
      unfold beginsSuffix at hmore
      split at hmore
      · exact ⟨rfl, rfl⟩
      · exact ⟨rfl, rfl⟩
      · refine ⟨?_, rfl⟩
        rw [aggregates, beq_iff_eq.mp hmore]
        rfl
      · cases hmore
    rw [List.nil_append, namesMetric, hsuffix.1, hsuffix.2]
    rfl

theorem primary_word {fuel : Nat} {word : String} {rest : List Token}
    (h : namesMetric word rest = true) :
    primary (fuel + 1) (.word word :: rest) = namedSelector word rest := by
  unfold namesMetric at h
  unfold primary
  cases hop : Aggregator.ofKeyword? (keyword word) with
  | some op =>
    simp only [hop, Bool.not_eq_true'] at h
    simp only [hop, h, Bool.false_eq_true, if_false]
  | none =>
    simp only [hop, Bool.and_eq_true, Bool.not_eq_true', Option.isNone_iff_eq_none,
      bne_iff_ne] at h
    obtain ⟨⟨hrefused, hnumber⟩, hparen⟩ := h
    simp only [hop, hrefused, hnumber, Bool.false_eq_true, if_false]
    split
    · exact (hparen rfl).elim
    · rfl

theorem namesMetric_of_primary {fuel : Nat} {word : String} {rest left : List Token} {e : Expr}
    {selector : Selector} (hselector : e.selector? = some selector)
    (h : primary (fuel + 1) (.word word :: rest) = some (e, left)) :
    namesMetric word rest = true := by
  unfold primary at h
  simp only at h
  unfold namesMetric
  split at h
  · rename_i op hop
    split at h
    · -- An aggregation is no selector, wherever its grouping stands.
      obtain ⟨⟨before, rest⟩, -, h⟩ := Option.bind_eq_some_iff.mp h
      obtain ⟨⟨args, rest⟩, -, h⟩ := Option.bind_eq_some_iff.mp h
      have hmade : ∃ after, (Expr.aggregate op after args).check? = some e := by
        dsimp only at h
        split at h
        · obtain ⟨⟨after, rest⟩, -, h⟩ := Option.bind_eq_some_iff.mp h
          obtain ⟨e, he, h⟩ := Option.bind_eq_some_iff.mp h
          cases h
          exact ⟨after, he⟩
        · obtain ⟨⟨after, rest⟩, -, h⟩ := Option.bind_eq_some_iff.mp h
          obtain ⟨e, he, h⟩ := Option.bind_eq_some_iff.mp h
          cases h
          exact ⟨after, he⟩
      obtain ⟨after, hmade⟩ := hmade
      rw [check?_eq_some hmade] at hselector
      cases hselector
    · rename_i hnot
      simpa [hop] using hnot
  · rename_i hop
    split at h
    · cases h
    · rename_i hrefused
      split at h
      · cases h
        cases hselector
      · rename_i hnumber
        split at h
        · -- Neither is a call.
          split at h
          · cases h
          · obtain ⟨function, -, h⟩ := Option.bind_eq_some_iff.mp h
            obtain ⟨⟨args, rest⟩, -, h⟩ := Option.bind_eq_some_iff.mp h
            obtain ⟨e, he, h⟩ := Option.bind_eq_some_iff.mp h
            rw [check?_eq_some he] at h
            cases h
            cases hselector
        · rename_i hparen
          have hhead : rest.head? ≠ some (.sign .leftParen) := by
            cases rest with
            | nil => simp
            | cons token rest =>
              intro heq
              cases heq
              exact hparen rest rfl
          simpa [hop, hnumber, hhead] using hrefused

/-- A selector by itself is read as such when a suffix follows. -/
theorem primary_append {fuel larger : Nat} {tokens rest more : List Token} {e : Expr}
    {selector : Selector} (hselector : e.selector? = some selector)
    (hmore : beginsSuffix more = true) (h : primary fuel tokens = some (e, rest)) :
    primary (larger + 1) (tokens ++ more) = some (e, rest ++ more) := by
  cases fuel with
  | zero => cases h
  | succ fuel =>
    cases tokens with
    | nil => cases h
    | cons token left =>
      cases token with
      | word word =>
        have hname := namesMetric_of_primary hselector h
        rw [primary_word hname] at h
        rw [List.cons_append, primary_word ((namesMetric_append word left hmore).trans hname)]
        exact namedSelector_append hmore h
      | sign sign =>
        cases sign with
        | leftBrace =>
          obtain ⟨⟨read, left⟩, hread, h⟩ := Option.bind_eq_some_iff.mp h
          obtain ⟨e', he', h⟩ := Option.bind_eq_some_iff.mp h
          cases h
          have hmatchers := matchers_append more hread
          simp only [List.cons_append, primary, hmatchers, he', Option.bind_eq_bind,
            Option.bind_some]
          rfl
        | leftParen =>
          obtain ⟨⟨inner, left⟩, -, h⟩ := Option.bind_eq_some_iff.mp h
          dsimp only at h
          split at h
          · cases h
            cases hselector
          · cases h
        | _ => cases h
      | number text =>
        obtain ⟨x, -, h⟩ := Option.map_eq_some_iff.mp h
        cases h
        cases hselector
      | label text => cases h
      | duration text => cases h
      | quoted s =>
        cases h
        cases hselector

/-- What a primary expression starts with is no sign of an operand. -/
theorem operand_of_primary {fuel : Nat} {tokens rest : List Token} {e : Expr}
    (h : primary fuel tokens = some (e, rest)) :
    operand (fuel + 1) tokens = suffixes rest.length e rest := by
  unfold operand
  split
  · cases fuel <;> cases h
  · cases fuel <;> cases h
  · rw [h]
    rfl

/-- A word that names a metric writes its selector. -/
theorem Expr.ofTokens?_word {word : String} (h : namesMetric word [] = true) :
    Expr.ofTokens? [.word word] = some (.instant { name := some word, matchers := [] }) := by
  have hoperand : ∀ fuel, operand (fuel + 2) [.word word] =
      some (.instant { name := some word, matchers := [] }, []) := by
    intro fuel
    have hprimary : primary (fuel + 1) [.word word] =
        some (.instant { name := some word, matchers := [] }, []) := by
      rw [primary_word h]
      rfl
    rw [operand_of_primary hprimary]
    rfl
  have hread : expression 8 BinaryOp.union.level [.word word] =
      some (.instant { name := some word, matchers := [] }, []) := by
    rw [expression, hoperand 5]
    rfl
  rw [Expr.ofTokens?, List.length_singleton, hread]

/-- A reader with more fuel reads a selector with its further suffix where one with less reads the
    selector. -/
private theorem read_append {e e' : Expr} {selector : Selector} {more : List Token}
    (hselector : e.selector? = some selector) (hmore : beginsSuffix more = true)
    (hlast : ∀ fuel, more.length ≤ fuel → suffixes fuel e more = some (e', [])) (fuel : Nat) :
    (∀ {level larger tokens}, fuel ≤ larger →
      expression fuel level tokens = some (e, []) →
      expression larger level (tokens ++ more) = some (e', [])) ∧
    (∀ {larger tokens}, fuel ≤ larger →
      operand fuel tokens = some (e, []) → operand larger (tokens ++ more) = some (e', [])) := by
  induction fuel with
  | zero =>
    refine ⟨fun _ h => ?_, fun _ h => ?_⟩
    · cases h
    · cases h
  | succ fuel ih =>
    obtain ⟨ihExpression, ihOperand⟩ := ih
    refine ⟨fun {level larger tokens} hlarger h => ?_, fun {larger tokens} hlarger h => ?_⟩
    · -- No operator follows the selector, so none follows the suffix.
      obtain ⟨larger, rfl⟩ : ∃ n, larger = n + 1 := ⟨larger - 1, by omega⟩
      obtain ⟨⟨left, rest⟩, hleft, h⟩ := Option.bind_eq_some_iff.mp h
      obtain ⟨rfl, rfl⟩ := eq_of_operations hselector h
      have hsuffix := ihOperand (Nat.le_of_succ_le_succ hlarger) hleft
      cases fuel with
      | zero => cases hleft
      | succ fuel =>
        obtain ⟨larger, rfl⟩ : ∃ n, larger = n + 1 := ⟨larger - 1, by omega⟩
        rw [expression, hsuffix]
        rfl
    · obtain ⟨larger, rfl⟩ : ∃ n, larger = n + 1 := ⟨larger - 1, by omega⟩
      unfold operand at h
      split at h
      · -- A plus sign is read over, before the selector and before its suffix.
        exact ihExpression (Nat.le_of_succ_le_succ hlarger) h
      · obtain ⟨⟨inner, rest⟩, -, h⟩ := Option.bind_eq_some_iff.mp h
        obtain ⟨negated, hnegated, h⟩ := Option.bind_eq_some_iff.mp h
        cases h
        rw [selector?_of_negate? hnegated] at hselector
        cases hselector
      · obtain ⟨⟨start, rest⟩, hprimary, hsuffixes⟩ := Option.bind_eq_some_iff.mp h
        -- What the suffixes were behind is a selector itself.
        obtain ⟨first, hfirst⟩ : ∃ first, start.selector? = some first := by
          cases hstart : start.selector? with
          | some first => exact ⟨first, rfl⟩
          | none =>
            have hnone := suffixes_keep (P := fun e => e.selector? = none)
              Suffixed.selector?_eq_none hsuffixes hstart
            rw [hnone] at hselector
            cases hselector
        cases fuel with
        | zero => cases hprimary
        | succ fuel =>
          obtain ⟨larger, rfl⟩ : ∃ n, larger = n + 1 := ⟨larger - 1, by omega⟩
          rw [operand_of_primary (primary_append hfirst hmore hprimary)]
          exact suffixes_append hmore hlast (by simp) hsuffixes

/-- **A suffix behind a selector**: tokens that write a selector write what a suffix makes of it
    when that suffix stands behind them. -/
theorem Expr.ofTokens?_suffix {tokens more : List Token} {e e' : Expr} {selector : Selector}
    (h : Expr.ofTokens? tokens = some e) (hselector : e.selector? = some selector)
    (hmore : beginsSuffix more = true)
    (hlast : ∀ fuel, more.length ≤ fuel → suffixes fuel e more = some (e', [])) :
    Expr.ofTokens? (tokens ++ more) = some e' := by
  unfold Expr.ofTokens? at h ⊢
  split at h
  · rename_i read hread
    cases h
    have hfuel : 4 * tokens.length + 4 ≤ 4 * (tokens ++ more).length + 4 := by
      rw [List.length_append]
      omega
    rw [(read_append hselector hmore hlast _).1 hfuel hread]
  · cases h

/-- **A range behind a selector**: tokens that write a selector which is not shifted write it over a
    range when that range stands behind them. -/
theorem Expr.ofTokens?_range {tokens : List Token} {selector : Selector} {text : String}
    {span : Time.Span} (h : Expr.ofTokens? tokens = some (.instant selector))
    (hshift : selector.shift.isNone = true) (hspan : span? text = some span) :
    Expr.ofTokens? (tokens ++ rangeTokens text) = some (.range selector span) := by
  apply Expr.ofTokens?_suffix h rfl rfl
  intro fuel hfuel
  obtain ⟨fuel, rfl⟩ : ∃ n, fuel = n + 1 := ⟨fuel - 1, by simp [rangeTokens] at hfuel; omega⟩
  simp [rangeTokens, suffixes, hspan, Expr.range?, hshift]
  cases fuel <;> rfl

end LabeledSeries.Query
