import LabeledSeries.Proofs.Query.MetricName
import LabeledSeries.Rule.Pod

/-!
# Selectors of pods

The expression that selects the row of a pod holds the name of the pod between quotes, just as it
is.  So what the expression selects depends on what the name means there.

§1 A text between quotes ends at the first quote that does not belong to an escape.  The texts that
are read back as they are written are the `isQuotable` ones.

§2 The tokens of the expression up to the end of that text are the same for all pods.  §3 For
a quotable name the expression selects by the name and nothing else (`Expr.read?_selector`).
§4 For any other name the expression may go on in any way, and may be none.  But whatever is read,
as a selector it selects by the text up to the first quote, which is not the name
(`Expr.exists_matcher_of_read?_selector`).
-/

namespace LabeledSeries.Query

/-! ## §1 Texts between quotes -/

/-- Whether a text stands for itself between double quotes: all its quotes and backslashes belong to
    escapes. -/
def isQuotable : List Char → Bool
  | [] => true
  | '\\' :: c :: rest => (c == '"' || isEscapable c) && isQuotable rest
  | c :: rest => c != '"' && c != '\\' && isQuotable rest

/-- A quotable text ends at the quote behind it. -/
theorem scanQuoted_append {text : List Char} (h : isQuotable text = true) (rest : List Char) :
    scanQuoted '"' (text ++ '"' :: rest) = some (text, rest) := by
  fun_induction isQuotable text with
  | case1 => rfl
  | case2 c text ih =>
    obtain ⟨hescape, htext⟩ := Bool.and_eq_true_iff.mp h
    simp [scanQuoted, hescape, ih htext]
  | case3 c text hsplit ih =>
    obtain ⟨hc, htext⟩ := Bool.and_eq_true_iff.mp h
    simp only [Bool.and_eq_true, bne_iff_ne] at hc
    rw [List.cons_append, scanQuoted]
    · simp [hc.1, hc.2, ih htext]
    · rintro d rest' rfl
      exact absurd rfl hc.2

/-- What is read between quotes is quotable, and what follows it is the rest. -/
theorem eq_of_scanQuoted {chars text rest : List Char}
    (h : scanQuoted '"' chars = some (text, rest)) :
    chars = text ++ '"' :: rest ∧ isQuotable text = true := by
  fun_induction scanQuoted '"' chars generalizing text with
  | case1 => cases h
  | case2 c chars hescape ih =>
    -- An escape belongs to the text as it is written, also that of a quote.
    obtain ⟨⟨inner, left⟩, hinner, heq⟩ := Option.map_eq_some_iff.mp h
    cases heq
    obtain ⟨rfl, hquotable⟩ := ih hinner
    exact ⟨rfl, by simp [isQuotable, hescape, hquotable]⟩
  | case3 => cases h
  | case4 c chars hsplit hquote =>
    cases h
    obtain rfl := eq_of_beq hquote
    exact ⟨rfl, rfl⟩
  | case5 => cases h
  | case6 c chars hsplit hquote hslash ih =>
    obtain ⟨⟨inner, left⟩, hinner, heq⟩ := Option.map_eq_some_iff.mp h
    cases heq
    obtain ⟨rfl, hquotable⟩ := ih hinner
    rw [beq_iff_eq] at hquote hslash
    refine ⟨rfl, ?_⟩
    -- The character is no backslash, so it begins no escape with the one behind it.
    rw [isQuotable]
    · simp [hquote, hslash, hquotable]
    · rintro d rest' rfl
      exact absurd rfl hslash

/-! ## §2 Tokens -/

/-- The tokens of a selector of pods up to the name of the pod. -/
def podTokens (metric text : String) : List Token :=
  [.word metric, .sign .leftBrace, .label "pod", .sign .assign, .quoted text]

theorem podTokens_append (metric text : String) (more : List Token) :
    podTokens metric text ++ more =
      .word metric :: .sign .leftBrace :: .label "pod" :: .sign .assign :: .quoted text :: more :=
  rfl

/-- Between braces a quote begins a quoted text. -/
theorem bracesToken_quote {quote : Char} (h : isQuote quote = true) (chars : List Char) :
    bracesToken (quote :: chars) = (scanQuoted quote chars).map fun (text, rest) =>
      (.quoted (String.ofList text), .braces, rest) := by
  simp only [isQuote, Bool.or_eq_true, beq_iff_eq] at h
  rcases h with (rfl | rfl) | rfl <;> rfl

/-- The tokens of a selector of pods: a text from the quote in front of the name to the first one
    that ends it, and the tokens of what follows. -/
theorem tokens?_selector {metric : String} (hmetric : Text.isRecordName metric = true)
    (pod : String) :
    tokens? (Pod.selector metric pod) =
      (scanQuoted '"' (pod.toList ++ '"' :: ['\x7d'])).bind fun (text, rest) =>
        (scanTokens (metric.toList.length + pod.toList.length + 4) .braces rest).map
          (podTokens metric (String.ofList text) ++ ·) := by
  have hchars : (Pod.selector metric pod).toList =
      metric.toList ++ '\x7b' :: 'p' :: 'o' :: 'd' :: '=' :: '"' ::
        (pod.toList ++ '"' :: ['\x7d']) := by
    simp [Pod.selector]
  have hlength : (Pod.selector metric pod).toList.length + 1 =
      metric.toList.length + pod.toList.length + 4 + 5 := by
    rw [hchars]
    simp only [List.length_append, List.length_cons, List.length_nil]
    omega
  rw [tokens?, hlength, hchars]
  generalize metric.toList.length + pod.toList.length + 4 = fuel
  generalize pod.toList ++ '"' :: ['\x7d'] = chars
  -- The characters between the name of the metric and that of the pod are the same for all pods.
  have hbrace (rest : List Char) : scanTokens (fuel + 4) .plain ('\x7b' :: rest) =
      (scanTokens (fuel + 3) .braces rest).map (.sign .leftBrace :: ·) :=
    scanTokens_cons rfl (by decide) _ rest
  have hlabel (rest : List Char) :
      scanTokens (fuel + 3) .braces ('p' :: 'o' :: 'd' :: '=' :: rest) =
        (scanTokens (fuel + 2) .braces ('=' :: rest)).map (.label "pod" :: ·) :=
    scanTokens_cons rfl (by decide) _ _
  have hassign (rest : List Char) : scanTokens (fuel + 2) .braces ('=' :: '"' :: rest) =
      (scanTokens (fuel + 1) .braces ('"' :: rest)).map (.sign .assign :: ·) :=
    scanTokens_cons rfl (by decide) _ _
  have hquoted : scanTokens (fuel + 1) .braces ('"' :: chars) =
      (scanQuoted '"' chars).bind fun (text, rest) =>
        (scanTokens fuel .braces rest).map (.quoted (String.ofList text) :: ·) := by
    rw [scanTokens_cons rfl (by decide), tokenIn, bracesToken_quote rfl]
    cases scanQuoted '"' chars <;> rfl
  rw [scanTokens_name hmetric (by simp; decide), hbrace, hlabel, hassign, hquoted]
  cases scanQuoted '"' chars with
  | none => rfl
  | some scanned =>
    obtain ⟨text, rest⟩ := scanned
    simp only [Option.bind_some, Option.map_map]
    rfl

/-- Whatever the name of the pod is, a quotable text stands in its place.  Only a quotable name is
    that text itself. -/
theorem exists_podTokens_of_tokens? {metric pod : String}
    (hmetric : Text.isRecordName metric = true) {tokens : List Token}
    (h : tokens? (Pod.selector metric pod) = some tokens) :
    ∃ text more, tokens = podTokens metric text ++ more ∧ isQuotable text.toList = true := by
  rw [tokens?_selector hmetric] at h
  obtain ⟨⟨text, rest⟩, hscan, h⟩ := Option.bind_eq_some_iff.mp h
  obtain ⟨more, -, rfl⟩ := Option.map_eq_some_iff.mp h
  exact ⟨String.ofList text, more, rfl, by simpa using (eq_of_scanQuoted hscan).2⟩

theorem tokens?_selector_of_isQuotable {metric pod : String}
    (hmetric : Text.isRecordName metric = true) (hpod : isQuotable pod.toList = true) :
    tokens? (Pod.selector metric pod) = some (podTokens metric pod ++ [.sign .rightBrace]) := by
  rw [tokens?_selector hmetric, scanQuoted_append hpod, Option.bind_some]
  have hclose : scanTokens (metric.toList.length + pod.toList.length + 4) .braces ['\x7d'] =
      some [.sign .rightBrace] := by
    rw [scanTokens_cons rfl (by decide)]
    rfl
  simp only [hclose, String.ofList_toList]
  rfl

/-! ## §3 Quotable names -/

/-- The matcher that lets one pod pass. -/
def podMatcher (pod : String) : Matcher := ⟨"pod", .equal, pod⟩

/-- The selector of a pod among the rows of a metric. -/
def Selector.ofPod (metric pod : String) : Selector :=
  { name := some metric, matchers := [podMatcher pod] }

theorem namesMetric_leftBrace {metric : String} (h : namesMetric metric [] = true)
    (rest : List Token) : namesMetric metric (.sign .leftBrace :: rest) = true := by
  unfold namesMetric at h ⊢
  split
  · rfl
  · rename_i hop
    rw [hop] at h
    simpa using h

/-- Tokens that a primary expression uses up write that expression. -/
theorem Expr.ofTokens?_of_primary {tokens : List Token} {e : Expr}
    (h : ∀ fuel, primary (fuel + 1) tokens = some (e, [])) : Expr.ofTokens? tokens = some e := by
  have hoperand : operand (4 * tokens.length + 3) tokens = some (e, []) := by
    rw [operand_of_primary (h _)]
    rfl
  rw [ofTokens?, expression, hoperand]
  rfl

/-- **Selectors of pods with quotable names** select by the name and by nothing else. -/
theorem Expr.read?_selector {metric pod : String} (hmetric : Text.isRecordName metric = true)
    (hnames : namesMetric metric [] = true) (hpod : isQuotable pod.toList = true) :
    Expr.read? (Pod.selector metric pod) = some (.instant (Selector.ofPod metric pod)) := by
  rw [read?, tokens?_selector_of_isQuotable hmetric hpod]
  refine ofTokens?_of_primary fun fuel => ?_
  have hformed : (Selector.ofPod metric pod).formed = true := by
    simp [Selector.formed, Selector.ofPod, podMatcher, Matcher.hasPattern, metricLabel]
  have hcheck : (Expr.instant (Selector.ofPod metric pod)).check? =
      some (.instant (Selector.ofPod metric pod)) := by
    rw [check?, formed, if_pos hformed]
  rw [podTokens_append, primary_word (namesMetric_leftBrace hnames _)]
  -- The brace behind the name closes the only matcher.
  show ((Expr.instant (Selector.ofPod metric pod)).check?.bind fun e => some (e, [])) = _
  rw [hcheck]
  rfl

/-! ## §4 Other names -/

/-- If an expression is a selector, in parentheses or not, it selects by a matcher. -/
def Expr.SelectsBy (matcher : Matcher) (e : Expr) : Prop :=
  ∀ selector, e.bare = .instant selector → matcher ∈ selector.matchers

namespace Expr.SelectsBy

variable {matcher : Matcher} {e e' : Expr}

/-- A selector that is shifted keeps its matchers. -/
private theorem reshift? {change : Shift → Option Shift} (he : e.SelectsBy matcher)
    (h : e.reshift? change = some e') : e'.SelectsBy matcher := by
  intro selector hselector
  cases e with
  | instant original =>
    obtain ⟨shift, -, h⟩ := Option.bind_eq_some_iff.mp h
    cases h
    cases hselector
    exact he original rfl
  | range original span =>
    obtain ⟨shift, -, h⟩ := Option.bind_eq_some_iff.mp h
    cases h
    cases hselector
  | subquery inner span step shift =>
    obtain ⟨shift, -, h⟩ := Option.bind_eq_some_iff.mp h
    cases h
    cases hselector
  | _ => cases h

/-- What follows an operand does not change the matchers of a selector. -/
theorem suffixed (hmade : Suffixed e e') (he : e.SelectsBy matcher) : e'.SelectsBy matcher := by
  cases hmade with
  | range h =>
    intro selector hselector
    unfold Expr.range? at h
    split at h
    · split at h
      · cases h
        cases hselector
      · cases h
    · cases h
  | subquery span step =>
    intro selector hselector
    cases hselector
  | moved h => exact he.reshift? h
  | pinned h => exact he.reshift? h

/-- Operators make no selector of their operands. -/
theorem operations {fuel level : Nat} {tokens rest : List Token} (he : e.SelectsBy matcher)
    (h : Query.operations fuel level e tokens = some (e', rest)) : e'.SelectsBy matcher := by
  induction fuel generalizing e tokens with
  | zero => simp [Query.operations] at h
  | succ fuel ih =>
    unfold Query.operations at h
    split at h
    · cases h
      exact he
    · split at h
      · cases h
        exact he
      · split at h
        · cases h
          exact he
        · obtain ⟨⟨pairing, rest⟩, -, h⟩ := Option.bind_eq_some_iff.mp h
          obtain ⟨⟨right, rest⟩, -, h⟩ := Option.bind_eq_some_iff.mp h
          obtain ⟨joined, hjoined, h⟩ := Option.bind_eq_some_iff.mp h
          -- What is joined is no selector, so nothing is asked of it.
          refine ih (fun selector hselector => ?_) h
          cases check?_eq_some hjoined
          cases hselector

end Expr.SelectsBy

/-- The first matcher of a list is read first. -/
theorem mem_of_matcherList {label value : String} {rest left : List Token} {read : List Matcher}
    (h : matcherList (.label label :: .sign .assign :: .quoted value :: rest) = some (read, left)) :
    (⟨label, .equal, value⟩ : Matcher) ∈ read := by
  rw [matcherList] at h
  simp only [MatchRule.ofSign?, Option.bind_eq_bind, Option.bind_some] at h
  split at h
  · cases h
    exact List.mem_singleton_self _
  · cases h
    exact List.mem_singleton_self _
  · obtain ⟨⟨others, left⟩, -, heq⟩ := Option.bind_eq_some_iff.mp h
    cases heq
    exact List.mem_cons_self ..
  · cases h

/-- Tokens that begin as those of a selector of a pod write no other selector. -/
theorem Expr.selectsBy_of_ofTokens? {metric text : String} (hnames : namesMetric metric [] = true)
    {more : List Token} {e : Expr} (h : Expr.ofTokens? (podTokens metric text ++ more) = some e) :
    e.SelectsBy (podMatcher text) := by
  have hlength : 4 * (podTokens metric text ++ more).length + 4 = 4 * more.length + 23 + 1 := by
    simp only [podTokens, List.length_append, List.length_cons, List.length_nil]
    omega
  rw [ofTokens?, hlength] at h
  split at h
  · rename_i hread
    cases h
    obtain ⟨⟨left, rest⟩, hleft, hoperations⟩ := Option.bind_eq_some_iff.mp hread
    refine SelectsBy.operations ?_ hoperations
    obtain ⟨⟨first, after⟩, hprimary, hsuffixes⟩ := Option.bind_eq_some_iff.mp hleft
    refine suffixes_keep SelectsBy.suffixed hsuffixes ?_
    -- The first operand is the selector of the metric with the matchers that follow its brace.
    rw [podTokens_append, primary_word (namesMetric_leftBrace hnames _)] at hprimary
    obtain ⟨⟨read, left⟩, hread, hchecked⟩ := Option.bind_eq_some_iff.mp hprimary
    obtain ⟨selected, hselected, heq⟩ := Option.bind_eq_some_iff.mp hchecked
    cases heq
    cases check?_eq_some hselected
    intro selector hselector
    cases hselector
    exact mem_of_matcherList hread
  · cases h

/-- **Selectors of pods**: as a selector, the expression for a pod selects by a quotable text, which
    is not the name of the pod unless that is quotable. -/
theorem Expr.exists_matcher_of_read?_selector {metric pod : String}
    (hmetric : Text.isRecordName metric = true) (hnames : namesMetric metric [] = true) {e : Expr}
    (h : Expr.read? (Pod.selector metric pod) = some e) :
    ∃ text : String, isQuotable text.toList = true ∧ e.SelectsBy (podMatcher text) := by
  obtain ⟨tokens, htokens, hread⟩ := Option.bind_eq_some_iff.mp h
  obtain ⟨text, more, rfl, htext⟩ := exists_podTokens_of_tokens? hmetric htokens
  exact ⟨text, htext, selectsBy_of_ofTokens? hnames hread⟩

end LabeledSeries.Query
