import LabeledSeries.Proofs.Query.PodSelector

/-!
# Two spellings of a selector

The metric of a selector is named by a word in front of the braces, or by a matcher of the label
that holds the name.  Both spellings are read for any matchers (`Expr.read?_namedText`,
`Expr.read?_namelessText`), and the matchers are read alike in both.

§1 What is scanned does not depend on how much fuel there is, if there is enough.  §2 A text that
writes matchers does so up to the closing brace, whatever stands in front of it.  §3 The tokens of
the two spellings.  §4 The selectors.
-/

namespace LabeledSeries.Query

/-! ## §1 Fuel -/

/-- With more fuel the same tokens are scanned. -/
theorem scanTokens_mono {fuel more : Nat} {region : Region} {chars : List Char}
    {tokens : List Token} (h : scanTokens fuel region chars = some tokens) (hle : fuel ≤ more) :
    scanTokens more region chars = some tokens := by
  induction fuel generalizing more region chars tokens with
  | zero => cases h
  | succ fuel ih =>
    obtain ⟨more, rfl⟩ := Nat.exists_eq_add_one.mpr (Nat.zero_lt_of_lt hle)
    have hle : fuel ≤ more := Nat.le_of_succ_le_succ hle
    cases chars with
    | nil => simpa only [scanTokens] using h
    | cons c after =>
      -- Blanks and comments are skipped, and take fuel as a token does.
      by_cases hspace : isSpace c = true
      · simp only [scanTokens, hspace, if_true] at h ⊢
        exact ih h hle
      · rw [Bool.not_eq_true] at hspace
        by_cases hcomment : c = '#' ∧ region ≠ .brackets
        · simp only [scanTokens, hspace, Bool.false_eq_true, if_false, if_pos hcomment] at h ⊢
          exact ih h hle
        · rw [scanTokens_cons hspace hcomment] at h ⊢
          obtain ⟨⟨token, next, rest⟩, htoken, h⟩ := Option.bind_eq_some_iff.mp h
          obtain ⟨others, hothers, rfl⟩ := Option.map_eq_some_iff.mp h
          rw [htoken, Option.bind_some]
          exact congrArg (Option.map (token :: ·)) (ih hothers hle)

/-! ## §2 Matchers between braces -/

/-- A text writes matchers: with a brace behind it, it is read as these and nothing more, and all
    their patterns can be read. -/
def WritesMatchers (text : String) (read : List Matcher) : Prop :=
  ∃ tokens, scanTokens (text.toList.length + 2) .braces (text.toList ++ ['\x7d']) = some tokens ∧
    matchers tokens = some (read, []) ∧ read.all Matcher.hasPattern = true

/-- Behind a first matcher and a comma further matchers may stand, or none. -/
theorem matchers_cons {label value : String} {sign : Sign} {rule : MatchRule}
    (hsign : MatchRule.ofSign? sign = some rule) {tokens rest : List Token}
    {read : List Matcher} (h : matchers tokens = some (read, rest)) :
    matchers (.label label :: .sign sign :: .quoted value :: .sign .comma :: tokens) =
      some (⟨label, rule, value⟩ :: read, rest) := by
  have hlist : matchers (.label label :: .sign sign :: .quoted value :: .sign .comma :: tokens) =
      matcherList (.label label :: .sign sign :: .quoted value :: .sign .comma :: tokens) := rfl
  rw [hlist, matcherList, hsign]
  unfold matchers at h
  split at h
  · -- Nothing follows the comma but the closing brace.
    cases h
    rfl
  · obtain ⟨next, after, rfl⟩ := exists_label_of_matcherList h
    simp only [Option.bind_eq_bind, Option.bind_some, h]
    rfl

/-! ## §3 Tokens -/

/-- The spelling of a selector with the name of its metric in front. -/
def namedText (metric matchers : String) : String := metric ++ "\x7b" ++ matchers ++ "\x7d"

/-- The spelling of a selector with the name of its metric in the first matcher. -/
def namelessText (metric matchers : String) : String :=
  "\x7b__name__=\"" ++ metric ++ "\"," ++ matchers ++ "\x7d"

variable {metric text : String} {tokens : List Token}

theorem tokens?_namedText (hmetric : Text.isRecordName metric = true)
    (h : scanTokens (text.toList.length + 2) .braces (text.toList ++ ['\x7d']) = some tokens) :
    tokens? (namedText metric text) = some (.word metric :: .sign .leftBrace :: tokens) := by
  have hchars : (namedText metric text).toList =
      metric.toList ++ '\x7b' :: (text.toList ++ ['\x7d']) := by
    simp [namedText]
  have hlength : (metric.toList ++ '\x7b' :: (text.toList ++ ['\x7d'])).length + 1 =
      metric.toList.length + text.toList.length + 1 + 1 + 1 := by
    simp only [List.length_append, List.length_cons, List.length_nil]
    omega
  obtain ⟨n, hn⟩ := exists_length_name hmetric
  have hscan := scanTokens_mono h (show _ ≤ metric.toList.length + text.toList.length + 1 by omega)
  have hbrace (fuel : Nat) (rest : List Char) :
      scanTokens (fuel + 1) .plain ('\x7b' :: rest) =
        (scanTokens fuel .braces rest).map (.sign .leftBrace :: ·) :=
    scanTokens_cons rfl (by decide) _ rest
  rw [tokens?, hchars, hlength, scanTokens_name hmetric (by simp; decide), hbrace, hscan]
  rfl

/-- A text without quotes and backslashes can be quoted as it is. -/
theorem isQuotable_of_forall {chars : List Char} (h : ∀ c ∈ chars, c ≠ '"' ∧ c ≠ '\\') :
    isQuotable chars = true := by
  induction chars with
  | nil => rfl
  | cons c chars ih =>
    obtain ⟨hc, hchars⟩ := List.forall_mem_cons.mp h
    rw [isQuotable]
    · simp [hc.1, hc.2, ih hchars]
    · rintro d rest rfl
      exact absurd rfl hc.2

/-- Names hold no quotes. -/
theorem isQuotable_name (hmetric : Text.isRecordName metric = true) :
    isQuotable metric.toList = true := by
  refine isQuotable_of_forall fun c hc => ?_
  have hword := isInWord_of_mem hmetric hc
  constructor
  · rintro rfl
    cases hword
  · rintro rfl
    cases hword

theorem tokens?_namelessText (hmetric : Text.isRecordName metric = true)
    (h : scanTokens (text.toList.length + 2) .braces (text.toList ++ ['\x7d']) = some tokens) :
    tokens? (namelessText metric text) =
      some (.sign .leftBrace :: .label "__name__" :: .sign .assign :: .quoted metric ::
        .sign .comma :: tokens) := by
  have hchars : (namelessText metric text).toList =
      '\x7b' :: '_' :: '_' :: 'n' :: 'a' :: 'm' :: 'e' :: '_' :: '_' :: '=' :: '"' ::
        (metric.toList ++ '"' :: ',' :: (text.toList ++ ['\x7d'])) := by
    simp [namelessText]
  have hlength : (namelessText metric text).toList.length + 1 =
      metric.toList.length + text.toList.length + 10 + 5 := by
    rw [hchars]
    simp only [List.length_append, List.length_cons, List.length_nil]
    omega
  have hscan := scanTokens_mono h
    (show _ ≤ metric.toList.length + text.toList.length + 10 by omega)
  rw [tokens?, hlength, hchars]
  -- Five tokens stand before the matchers, each with one unit of fuel.
  generalize metric.toList.length + text.toList.length + 10 = fuel at hscan
  have hbrace (rest : List Char) : scanTokens (fuel + 5) .plain ('\x7b' :: rest) =
      (scanTokens (fuel + 4) .braces rest).map (.sign .leftBrace :: ·) :=
    scanTokens_cons rfl (by decide) _ rest
  have hlabel (rest : List Char) :
      scanTokens (fuel + 4) .braces
          ('_' :: '_' :: 'n' :: 'a' :: 'm' :: 'e' :: '_' :: '_' :: '=' :: rest) =
        (scanTokens (fuel + 3) .braces ('=' :: rest)).map (.label "__name__" :: ·) :=
    scanTokens_cons rfl (by decide) _ _
  have hassign (rest : List Char) : scanTokens (fuel + 3) .braces ('=' :: '"' :: rest) =
      (scanTokens (fuel + 2) .braces ('"' :: rest)).map (.sign .assign :: ·) :=
    scanTokens_cons rfl (by decide) _ _
  have hquoted (rest : List Char) :
      scanTokens (fuel + 2) .braces ('"' :: (metric.toList ++ '"' :: rest)) =
        (scanTokens (fuel + 1) .braces rest).map (.quoted metric :: ·) := by
    rw [scanTokens_cons rfl (by decide), tokenIn, bracesToken_quote rfl,
      scanQuoted_append (isQuotable_name hmetric), Option.map_some, Option.bind_some]
    simp only [String.ofList_toList]
  have hcomma (rest : List Char) : scanTokens (fuel + 1) .braces (',' :: rest) =
      (scanTokens fuel .braces rest).map (.sign .comma :: ·) :=
    scanTokens_cons rfl (by decide) _ _
  rw [hbrace, hlabel, hassign, hquoted, hcomma, hscan]
  rfl

/-! ## §4 Selectors -/

variable {read : List Matcher}

/-- **The name in front**: a name that names metrics, with matchers of other labels. -/
theorem Expr.read?_namedText (hmetric : Text.isRecordName metric = true)
    (hnames : namesMetric metric [] = true) (hwrites : WritesMatchers text read)
    (hlabels : ∀ matcher ∈ read, matcher.label ≠ metricLabel) :
    Expr.read? (namedText metric text) =
      some (.instant { name := some metric, matchers := read }) := by
  obtain ⟨tokens, hscan, hread, hpatterns⟩ := hwrites
  rw [read?, tokens?_namedText hmetric hscan]
  refine ofTokens?_of_primary fun fuel => ?_
  have hformed : ({ name := some metric, matchers := read } : Selector).formed = true := by
    simpa [Selector.formed, hpatterns] using hlabels
  rw [primary_word (namesMetric_leftBrace hnames _), namedSelector, hread]
  simp only [Option.bind_eq_bind, Option.bind_some, check?, formed, hformed, if_true]
  rfl

/-- **The name in a matcher**: any name, with any matchers. -/
theorem Expr.read?_namelessText (hmetric : Text.isRecordName metric = true)
    (hwrites : WritesMatchers text read) :
    Expr.read? (namelessText metric text) =
      some (.instant { name := none, matchers := ⟨metricLabel, .equal, metric⟩ :: read }) := by
  obtain ⟨tokens, hscan, hread, hpatterns⟩ := hwrites
  rw [read?, tokens?_namelessText hmetric hscan]
  refine ofTokens?_of_primary fun fuel => ?_
  have hne : metric ≠ "" := by
    rintro rfl
    cases hmetric
  have hformed : ({ name := none, matchers := ⟨metricLabel, .equal, metric⟩ :: read } :
      Selector).formed = true := by
    simp [Selector.formed, hpatterns, Matcher.hasPattern, Matcher.passesEmpty, hne]
  have hmatchers : matchers (.label "__name__" :: .sign .assign :: .quoted metric ::
      .sign .comma :: tokens) = some (⟨metricLabel, .equal, metric⟩ :: read, []) :=
    matchers_cons rfl hread
  rw [primary, hmatchers]
  simp only [Option.bind_eq_bind, Option.bind_some, check?, formed, hformed, if_true]
  rfl

end LabeledSeries.Query
