import LabeledSeries.Proofs.Encoding.Base64
import LabeledSeries.Proofs.Text.Utf8
import LabeledSeries.Rule.Decode

/-!
# Texts that a label can hold

A text is put into a label as base64 with the three characters replaced that a label cannot hold,
and framed by `b64` and `0`.  What replaces them are no characters of base64, so each is read back
(`Decode.map_standardDigit`).  The frame is made of digits: what is inside may begin or end with the
same ones, but just one frame is taken off, so the text is read as it was
(`Decode.decode_framed`).

A text may also be written without the frame.  Its base64 never begins like the frame, since `b64`
would be a continuation byte behind a byte of ASCII, but it can end like it, and then a digit of its
own is taken off (`Decode.decode_unframed_iff`).
-/

namespace LabeledSeries.Decode

open Encoding (base64Alphabet base64Encode)

/-! ## Characters -/

/-- The character that stands for one of base64 in a label. -/
def safeDigit (c : Char) : Char :=
  if c = '/' then '_' else if c = '=' then '.' else if c = '+' then '-' else c

/-- A character of base64 can be written as another one: `+` also as a blank. -/
def IsSafeDigit (c written : Char) : Prop := written = safeDigit c ∨ c = '+' ∧ written = ' '

/-- What replaces the other characters is no digit itself. -/
theorem standardDigit_of_mem {c : Char} (h : c ∈ base64Alphabet) : standardDigit c = c := by
  have hne {other : Char} (hother : other ∉ base64Alphabet) : c ≠ other :=
    fun heq => hother (heq ▸ h)
  have hminus : c ≠ '-' := hne (by decide)
  have hblank : c ≠ ' ' := hne (by decide)
  have hlow : c ≠ '_' := hne (by decide)
  have hpoint : c ≠ '.' := hne (by decide)
  simp [standardDigit, hminus, hblank, hlow, hpoint]

theorem standardDigit_safeDigit {c : Char} (h : c ∈ base64Alphabet ∨ c = '=') :
    standardDigit (safeDigit c) = c := by
  unfold safeDigit
  split_ifs with hslash hpad hplus
  -- Three characters are replaced; the others are digits, which are not replaced either way.
  · rw [hslash]
    rfl
  · rw [hpad]
    rfl
  · rw [hplus]
    rfl
  · exact standardDigit_of_mem (h.resolve_right hpad)

theorem IsSafeDigit.standardDigit_eq {c written : Char} (hsafe : IsSafeDigit c written)
    (h : c ∈ base64Alphabet ∨ c = '=') : standardDigit written = c := by
  rcases hsafe with rfl | ⟨rfl, rfl⟩
  · exact standardDigit_safeDigit h
  · rfl

/-- Base64 is read back from its characters as they are written in a label. -/
theorem map_standardDigit {digits written : List Char}
    (hsafe : List.Forall₂ IsSafeDigit digits written)
    (h : ∀ c ∈ digits, c ∈ base64Alphabet ∨ c = '=') : written.map standardDigit = digits := by
  induction hsafe with
  | nil => rfl
  | cons hfirst _ ih =>
    obtain ⟨hdigit, hrest⟩ := List.forall_mem_cons.mp h
    rw [List.map_cons, hfirst.standardDigit_eq hdigit, ih hrest]

/-! ## Texts -/

/-- A text is written as another one: in base64, with some character for each one that a label
    cannot hold. -/
def IsSafeText (text written : String) : Prop :=
  List.Forall₂ IsSafeDigit (base64Encode (Text.utf8Bytes text)) written.toList

/-- The text as it is written without blanks. -/
def safeText (text : String) : String :=
  String.ofList ((base64Encode (Text.utf8Bytes text)).map safeDigit)

theorem isSafeText_safeText (text : String) : IsSafeText text (safeText text) := by
  rw [IsSafeText, safeText, String.toList_ofList, List.forall₂_map_right_iff, List.forall₂_same]
  exact fun _ _ => .inl rfl

/-- The base64 of a text is read back from any way to write it. -/
theorem IsSafeText.map_standardDigit {text written : String} (h : IsSafeText text written) :
    written.toList.map standardDigit = base64Encode (Text.utf8Bytes text) :=
  Decode.map_standardDigit h (Encoding.mem_base64Encode _)

/-- A value whose bare characters write a text is decoded to it. -/
theorem decode_of_bare {text written value : String} (h : IsSafeText text written)
    (hbare : bare value.toList = written.toList) : decode value = some text := by
  unfold decode
  rw [hbare, h.map_standardDigit, Encoding.base64Decode_base64Encode]
  exact Encoding.utf8Text?_utf8Bytes text

/-- One frame is taken off, whatever is inside. -/
theorem bare_framed (inside : List Char) :
    bare ('b' :: '6' :: '4' :: (inside ++ ['0'])) = inside := by
  simp [bare]

/-- **What is encoded for a label is decoded to itself**: every text can be written in characters
    for labels, and whichever stand for those of base64, the text is read back from the written one
    in its frame. -/
theorem decode_framed (text : String) :
    (∃ written, IsSafeText text written) ∧
      ∀ written, IsSafeText text written → decode ("b64" ++ written ++ "0") = some text := by
  refine ⟨⟨safeText text, isSafeText_safeText text⟩, fun written hwritten => ?_⟩
  refine decode_of_bare hwritten ?_
  have hframe :
      ("b64" ++ written ++ "0").toList = 'b' :: '6' :: '4' :: (written.toList ++ ['0']) := by
    simp
  rw [hframe, bare_framed]

/-- The two `+` are written differently, and the last digit is that of the frame. -/
theorem decode_framed_of_mixture :
    IsSafeText "??>??>abt" "Pz8-Pz8 YWJ0" ∧
      decode "b64Pz8-Pz8 YWJ00" = some "??>??>abt" := by
  have hwritten : IsSafeText "??>??>abt" "Pz8-Pz8 YWJ0" := by
    have hdigits : base64Encode (Text.utf8Bytes "??>??>abt") = "Pz8+Pz8+YWJ0".toList := by decide
    rw [IsSafeText, hdigits]
    simp [IsSafeDigit, safeDigit]
  exact ⟨hwritten, (decode_framed "??>??>abt").2 _ hwritten⟩

/-! ## Texts without their frame -/

open Encoding (EndsInDigit)

theorem eq_zero_of_standardDigit {c : Char} (h : standardDigit c = '0') : c = '0' := by
  unfold standardDigit at h
  split_ifs at h
  · exact absurd h (by decide)
  · exact absurd h (by decide)
  · exact absurd h (by decide)
  · exact h

/-- A text is written in groups of four characters. -/
theorem IsSafeText.length_mod_four {text written : String} (h : IsSafeText text written) :
    written.toList.length % 4 = 0 := by
  rw [← List.length_map standardDigit, h.map_standardDigit]
  exact Encoding.length_base64Encode_mod _

/-- No text begins with the two bytes that `b64` stands for: the second one continues a character,
    and the first one is a character of ASCII. -/
theorem IsSafeText.not_begins_framed {text written : String} (h : IsSafeText text written)
    (rest : List Char) : written.toList ≠ 'b' :: '6' :: '4' :: rest := by
  intro hframe
  have hdigits := h.map_standardDigit
  rw [hframe] at hdigits
  obtain ⟨first, second, more, hbytes, hfirst, hsecond⟩ :=
    Encoding.exists_of_base64Encode (x := 27) (y := 58) (z := 56) (by decide) (by decide)
      (by decide) hdigits.symm
  refine Text.not_isContinuation_after_ascii hbytes (by omega) ?_
  unfold Text.IsContinuation
  omega

theorem bare_of_not_begins_framed {chars : List Char}
    (h : ∀ rest, chars ≠ 'b' :: '6' :: '4' :: rest) :
    bare chars = if chars.getLast? = some '0' then chars.dropLast else chars := by
  rw [bare]
  exact h

theorem bare_begins_framed (chars : List Char) :
    bare ('b' :: '6' :: '4' :: chars) =
      if chars.getLast? = some '0' then chars.dropLast else chars := rfl

/-- A text is written with a digit `0` at the end if the last six bits of its bytes are that. -/
theorem IsSafeText.getLast?_eq_zero_iff {text written : String} (h : IsSafeText text written) :
    written.toList.getLast? = some '0' ↔ EndsInDigit 52 (Text.utf8Bytes text) := by
  have hzero : Encoding.base64Digit 52 = '0' := rfl
  rw [← Encoding.getLast?_base64Encode (by decide), hzero, ← h.map_standardDigit, List.getLast?_map,
    Option.map_eq_some_iff]
  constructor
  · exact fun hlast => ⟨'0', hlast, rfl⟩
  · rintro ⟨last, hlast, hdigit⟩
    rw [hlast, eq_zero_of_standardDigit hdigit]

/-- A character of base64 that is missing leaves no whole number of groups. -/
theorem decode_of_bare_dropLast {text written value : String} (h : IsSafeText text written)
    (hne : written.toList ≠ []) (hbare : bare value.toList = written.toList.dropLast) :
    decode value = none := by
  have hlength := h.length_mod_four
  have hpos := List.length_pos_of_ne_nil hne
  have hnone : Encoding.base64Decode (written.toList.dropLast.map standardDigit) = none := by
    apply Encoding.base64Decode_eq_none
    rw [List.length_map, List.length_dropLast]
    omega
  unfold decode
  rw [hbare, hnone]
  rfl

/-- **The frame can be left out in part**: a text without `b64` in front is decoded as with it, and
    without `0` behind it is decoded unless the last six bits of its bytes are those of the digit
    `0`.  Then this digit is taken for the frame, and what is left is not decoded at all. -/
theorem decode_unframed_iff (text : String) :
    (∃ written, IsSafeText text written) ∧
      ∀ written, IsSafeText text written →
        decode ("b64" ++ written) = decode written ∧ decode (written ++ "0") = some text ∧
        (decode written = some text ↔ ¬EndsInDigit 52 (Text.utf8Bytes text)) ∧
        (EndsInDigit 52 (Text.utf8Bytes text) → decode written = none) := by
  refine ⟨⟨safeText text, isSafeText_safeText text⟩, fun written hwritten => ?_⟩
  have hbare := bare_of_not_begins_framed hwritten.not_begins_framed
  have hnone (hends : EndsInDigit 52 (Text.utf8Bytes text)) : decode written = none := by
    have hlast := hwritten.getLast?_eq_zero_iff.mpr hends
    rw [if_pos hlast] at hbare
    refine decode_of_bare_dropLast hwritten ?_ hbare
    rintro hnil
    rw [hnil] at hlast
    cases hlast
  refine ⟨?_, ?_, ⟨fun hdecode hends => ?_, fun hends => ?_⟩, hnone⟩
  · -- One digit is taken off at the end with `b64` in front as without.
    have hframe : ("b64" ++ written).toList = 'b' :: '6' :: '4' :: written.toList := by simp
    unfold decode
    rw [hframe, bare_begins_framed, ← hbare]
  · refine decode_of_bare hwritten ?_
    have hframe : (written ++ "0").toList = written.toList ++ ['0'] := by simp
    have hbegins (rest : List Char) : written.toList ++ ['0'] ≠ 'b' :: '6' :: '4' :: rest := by
      -- The text before the `0` is empty or long enough to hold all of `b64`.
      have hlength := hwritten.length_mod_four
      match hchars : written.toList, hlength with
      | [], _ => simp
      | [_], hlength => simp at hlength
      | [_, _], hlength => simp at hlength
      | first :: second :: third :: more, _ =>
        intro hframe
        simp only [List.cons_append, List.cons.injEq] at hframe
        obtain ⟨rfl, rfl, rfl, -⟩ := hframe
        exact hwritten.not_begins_framed more hchars
    rw [hframe, bare_of_not_begins_framed hbegins, List.getLast?_concat, if_pos rfl,
      List.dropLast_concat]
  · rw [hnone hends] at hdecode
    cases hdecode
  · rw [if_neg (mt hwritten.getLast?_eq_zero_iff.mp hends)] at hbare
    exact decode_of_bare hwritten hbare

/-- One digit more than a group, and one character that a blank stands for. -/
theorem decode_unframed_iff_of_blank :
    IsSafeText "??>t" "Pz8 dA.." ∧ ¬EndsInDigit 52 (Text.utf8Bytes "??>t") ∧
      decode "Pz8 dA.." = some "??>t" ∧ decode "b64Pz8 dA.." = some "??>t" := by
  have hwritten : IsSafeText "??>t" "Pz8 dA.." := by
    have hdigits : base64Encode (Text.utf8Bytes "??>t") = "Pz8+dA==".toList := by decide
    rw [IsSafeText, hdigits]
    simp [IsSafeDigit, safeDigit]
  have hends : ¬EndsInDigit 52 (Text.utf8Bytes "??>t") := fun h => absurd h.1 (by decide)
  obtain ⟨hframe, -, hiff, -⟩ := (decode_unframed_iff "??>t").2 _ hwritten
  exact ⟨hwritten, hends, hiff.mpr hends, hframe.trans (hiff.mpr hends)⟩

/-- The last letter of `abt` is a digit `0` of its own, which is taken for the one of the frame. -/
theorem not_decode_unframed_of_abt :
    safeText "abt" = "YWJ0" ∧ decode "YWJ0" = none ∧
      ¬∀ text, decode (safeText text) = some text := by
  have hwritten : safeText "abt" = "YWJ0" := by decide
  have hnone : decode "YWJ0" = none := by decide
  refine ⟨hwritten, hnone, fun h => ?_⟩
  have hsome := h "abt"
  rw [hwritten, hnone] at hsome
  cases hsome

end LabeledSeries.Decode
