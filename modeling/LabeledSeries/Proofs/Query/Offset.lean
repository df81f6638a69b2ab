import LabeledSeries.Proofs.Query.Blanks

/-!
# Selectors with an offset behind them

An offset behind a selector that has none is accepted, and recorded in the selector, at a time or
over a range and pinned or not (`Expr.read?_offset`).

A text writes an offset behind another one (`WritesOffset`) where its tokens are those of the other
one with a keyword and a length behind them; for one, where these stand behind a blank
(`writesOffset_blank`).
-/

namespace LabeledSeries.Query

/-! ## §1 Tokens -/

/-- The tokens of an offset back in time, given its keyword and its length. -/
def offsetTokens (word length : String) : List Token := [.word word, .duration length]

/-- A text is another one with an offset behind it: the keyword, in any case, and a length, with any
    blanks and comments around them. -/
def WritesOffset (short length long : String) : Prop :=
  ∃ tokens word, tokens? short = some tokens ∧ keyword word = "offset" ∧
    tokens? long = some (tokens ++ offsetTokens word length)

theorem tokens?_offset {length : String} {span : Time.Span} (hspan : span? length = some span) :
    tokens? ("offset " ++ length) = some (offsetTokens "offset" length) := by
  have hchars : ("offset " ++ length).toList = "offset".toList ++ ' ' :: length.toList := by
    simp
  obtain ⟨n, hn⟩ : ∃ n, length.toList.length = n + 1 :=
    Nat.exists_eq_add_one.mpr (List.length_pos_iff.mpr (span?_eq_some hspan).1)
  have hfuel : ("offset".toList ++ ' ' :: length.toList).length + 1 = n + 9 := by
    simp [hn]
  have hblank : scanTokens (n + 8) .plain (' ' :: length.toList) =
      scanTokens (n + 7) .plain length.toList := rfl
  have hplain : Region.plain ≠ .braces := by decide
  have hlength := scanTokens_span hspan hplain (show ∀ c ∈ [].head?, isWordPart c = false by simp)
    (n + 6)
  rw [List.append_nil] at hlength
  rw [tokens?, hchars, hfuel, scanTokens_name (by decide) (by simp; decide), hblank, hlength]
  rfl

/-- A text, a blank that is no part of a comment, the keyword and a length. -/
theorem writesOffset_blank {short length : String} {gap : Char} (hgap : isSpace gap = true)
    (hcomment : EndsComment gap short.toList) {tokens : List Token}
    (hshort : tokens? short = some tokens) {span : Time.Span} (hspan : span? length = some span) :
    WritesOffset short length (short ++ String.singleton gap ++ ("offset " ++ length)) :=
  ⟨tokens, "offset", hshort, keyword_eq (by decide),
    tokens?_append hgap hcomment hshort (tokens?_offset hspan)⟩

/-! ## §2 Selectors -/

/-- A selector moved back by a length of time. -/
def Selector.movedBack (selector : Selector) (span : Time.Span) : Selector :=
  { selector with shift := { selector.shift with offset := some (false, span) } }

/-- An expression that selects series, moved back by a length of time. -/
def Expr.movedBack (span : Time.Span) : Expr → Expr
  | instant selector => instant (selector.movedBack span)
  | range selector length => range (selector.movedBack span) length
  | other => other

theorem Expr.selector?_movedBack {e : Expr} {selector : Selector}
    (h : e.selector? = some selector) (span : Time.Span) :
    (e.movedBack span).selector? = some (selector.movedBack span) := by
  cases e with
  | instant other =>
    cases h
    rfl
  | range other length =>
    cases h
    rfl
  | _ => cases h

theorem Expr.moved?_eq {e : Expr} {selector : Selector} (h : e.selector? = some selector)
    (hoffset : selector.shift.offset = none) (span : Time.Span) :
    e.moved? false span = some (e.movedBack span) := by
  cases e with
  | instant other =>
    cases h
    simp [Expr.moved?, Expr.reshift?, hoffset, movedBack, Selector.movedBack]
  | range other length =>
    cases h
    simp [Expr.moved?, Expr.reshift?, hoffset, movedBack, Selector.movedBack]
  | _ => cases h

/-- **An offset behind a selector**: where a text writes a selector that has no offset, the text
    with an offset behind it writes the selector with that offset. -/
theorem Expr.read?_offset {short length long : String} {e : Expr} {selector : Selector}
    {span : Time.Span} (hread : Expr.read? short = some e)
    (hselector : e.selector? = some selector) (hoffset : selector.shift.offset = none)
    (hspan : span? length = some span) (hlong : WritesOffset short length long) :
    Expr.read? long = some (e.movedBack span) := by
  obtain ⟨tokens, word, hshort, hword, htokens⟩ := hlong
  rw [Expr.read?, hshort] at hread
  rw [Expr.read?, htokens]
  apply Expr.ofTokens?_suffix hread hselector
  · rw [offsetTokens, beginsSuffix, hword]
    rfl
  · intro fuel hfuel
    obtain ⟨fuel, rfl⟩ : ∃ n, fuel = n + 1 :=
      ⟨fuel - 1, by simp [offsetTokens] at hfuel; omega⟩
    simp [offsetTokens, suffixes, hword, hspan, Expr.moved?_eq hselector hoffset]
    cases fuel <;> rfl

end LabeledSeries.Query
