import LabeledSeries.Instant.Parameters

/-!
# Parameters written from names

Label names hold neither blanks nor separators, so a text that is put together from names and
separators is read back as the names that it was put together from.
-/

namespace LabeledSeries

namespace Text

/-! ## §1 The characters of names -/

theorem isBlank_of_isNamePart {c : Char} (h : isNamePart c = true) : isBlank c = false := by
  change ((decide (c.val ≥ 'A'.val ∧ c.val ≤ 'Z'.val) ||
    (decide (c.val ≥ 'a'.val) && decide (c.val ≤ 'z'.val)) || c == '_') ||
    (decide (c.val ≥ '0'.val) && decide (c.val ≤ '9'.val))) = true at h
  simp only [Bool.or_eq_true, Bool.and_eq_true, decide_eq_true_eq, beq_iff_eq, ge_iff_le,
    UInt32.le_iff_toNat_le, Char.toNat_val, Char.reduceToNat] at h
  rcases h with (hletter | rfl) | hdigit
  · simp only [isBlank, Bool.or_eq_false_iff, Bool.and_eq_false_iff, decide_eq_false_iff_not,
      beq_eq_false_iff_ne]
    omega
  · decide
  · simp only [isBlank, Bool.or_eq_false_iff, Bool.and_eq_false_iff, decide_eq_false_iff_not,
      beq_eq_false_iff_ne]
    omega

theorem isNamePart_of_mem {name : String} (h : isLabelName name = true) {c : Char}
    (hc : c ∈ name.toList) : isNamePart c = true := by
  unfold isLabelName at h
  cases hname : name.toList with
  | nil => simp [hname] at hc
  | cons first rest =>
    simp only [hname, isLabelNameChars, Bool.and_eq_true, List.all_eq_true] at h
    simp only [hname, List.mem_cons] at hc
    rcases hc with rfl | hrest
    · simp [isNamePart, h.1]
    · exact h.2 c hrest

theorem not_mem_of_isLabelName {name : String} (h : isLabelName name = true) {separator : Char}
    (hseparator : isNamePart separator = false) : separator ∉ name.toList := by
  intro hmem
  rw [isNamePart_of_mem h hmem] at hseparator
  cases hseparator

/-! ## §2 Trimming and cutting -/

private theorem dropWhile_isBlank_eq_self {text : List Char} (h : ∀ c ∈ text, isBlank c = false) :
    text.dropWhile isBlank = text := by
  cases text with
  | nil => rfl
  | cons c rest => simp [h c (List.mem_cons_self ..)]

theorem trim_eq_self {text : String} (h : ∀ c ∈ text.toList, isBlank c = false) :
    trim text = text := by
  have hreverse : ∀ c ∈ text.toList.reverse, isBlank c = false := by simpa using h
  rw [trim, trimChars, dropWhile_isBlank_eq_self h, dropWhile_isBlank_eq_self hreverse,
    List.reverse_reverse, String.ofList_toList]

theorem trim_name {name : String} (h : isLabelName name = true) : trim name = name :=
  trim_eq_self fun _ hc => isBlank_of_isNamePart (isNamePart_of_mem h hc)

theorem piecesOfChars_eq_singleton {separator : Char} {text : List Char} (h : separator ∉ text) :
    piecesOfChars separator text = [text] := by
  induction text with
  | nil => rfl
  | cons c rest ih =>
    simp only [List.mem_cons, not_or] at h
    simp [piecesOfChars, ih h.2, Ne.symm h.1]

theorem piecesOfChars_append {separator : Char} {first : List Char} (rest : List Char)
    (h : separator ∉ first) :
    piecesOfChars separator (first ++ separator :: rest) =
      first :: piecesOfChars separator rest := by
  induction first with
  | nil => simp [piecesOfChars]
  | cons c first ih =>
    simp only [List.mem_cons, not_or] at h
    simp [piecesOfChars, ih h.2, Ne.symm h.1]

theorem pieces_name {separator : Char} {name : String} (h : separator ∉ name.toList) :
    pieces separator name = [name] := by
  simp [pieces, piecesOfChars_eq_singleton h]

theorem pieces_two {separator : Char} {text first second : String}
    (htext : text.toList = first.toList ++ separator :: second.toList)
    (hfirst : separator ∉ first.toList) (hsecond : separator ∉ second.toList) :
    pieces separator text = [first, second] := by
  simp [pieces, htext, piecesOfChars_append _ hfirst, piecesOfChars_eq_singleton hsecond]

end Text

namespace Parameters

/-! ## §3 What is read from names -/

theorem checkName_of_isLabelName {name : String} (function : String)
    (h : Text.isLabelName name = true) : checkName function name = .ok () := by
  simp [checkName, h]

theorem ne_empty_of_isLabelName {name : String} (h : Text.isLabelName name = true) : name ≠ "" := by
  rintro rfl
  exact absurd h (by decide)

/-- Two lists of even length are cut into pairs one behind the other. -/
theorem pairUp_append {first : List String} (h : first.length % 2 = 0) (second : List String) :
    pairUp (first ++ second) = pairUp first ++ pairUp second := by
  induction first using pairUp.induct with
  | case1 key text first ih =>
    have hrest : first.length % 2 = 0 := by
      rw [List.length_cons, List.length_cons] at h
      omega
    simp [pairUp, ih hrest]
  | case2 first hshort =>
    -- A shorter list of even length is empty.
    match first, hshort, h with
    | [], _, _ => rfl
    | [_], _, h => simp at h
    | key :: text :: rest, hshort, _ => exact (hshort key text rest rfl).elim

variable {separator : Char} (hseparator : Text.isNamePart separator = false)

include hseparator

/-- One name stands for both of a pair. -/
theorem namePair_name {name : String} (function : String) (h : Text.isLabelName name = true) :
    namePair function separator name = .ok (name, name) := by
  have hpieces := Text.pieces_name (Text.not_mem_of_isLabelName h hseparator)
  simp only [namePair, splitPair, hpieces, Text.trim_name h, checkName_of_isLabelName function h]
  rfl

/-- Two names with a separator between them are a pair. -/
theorem namePair_two {text first second : String} (function : String)
    (htext : text.toList = first.toList ++ separator :: second.toList)
    (hfirst : Text.isLabelName first = true) (hsecond : Text.isLabelName second = true) :
    namePair function separator text = .ok (first, second) := by
  have hpieces := Text.pieces_two htext (Text.not_mem_of_isLabelName hfirst hseparator)
    (Text.not_mem_of_isLabelName hsecond hseparator)
  simp only [namePair, splitPair, hpieces, Text.trim_name hfirst, Text.trim_name hsecond,
    ne_empty_of_isLabelName hsecond, if_false, checkName_of_isLabelName function hfirst,
    checkName_of_isLabelName function hsecond]
  rfl

/-- Two names with a separator between them are a list of two names. -/
theorem nameList_two {text first second : String} (function : String)
    (htext : text.toList = first.toList ++ separator :: second.toList)
    (hfirst : Text.isLabelName first = true) (hsecond : Text.isLabelName second = true) :
    nameList function separator text = .ok [first, second] := by
  have hpieces := Text.pieces_two htext (Text.not_mem_of_isLabelName hfirst hseparator)
    (Text.not_mem_of_isLabelName hsecond hseparator)
  simp only [nameList, hpieces, List.map_cons, List.map_nil, Text.trim_name hfirst,
    Text.trim_name hsecond, checkNames, checkName_of_isLabelName function hfirst,
    checkName_of_isLabelName function hsecond]
  rfl

end Parameters

end LabeledSeries
