import LabeledSeries.Encoding.Base64
import LabeledSeries.Text.Name
import Mathlib.Data.Fintype.Basic

/-!
# Base64 is read back

Decoding the base64 text of a byte sequence gives the sequence, whatever its length
(`Encoding.base64Decode_base64Encode`), and the bytes of a text in UTF-8 are read as the text
(`Encoding.utf8Text?_utf8Bytes`).  What stands in a base64 text is a digit or padding
(`Encoding.mem_base64Encode`).

Which digits a text begins and ends with can be read off the bytes: the first digits off the first
bytes (`Encoding.eq_cons_of_base64Encode_eq`), and the last one off the last byte, where no padding
follows it (`Encoding.getLast?_base64Encode`).
-/

namespace LabeledSeries.Encoding

/-! ## Digits -/

theorem base64Value?_digit {n : Nat} (h : n < 64) : base64Value? (base64Digit n) = some n := by
  have hall : ∀ k : Fin 64, base64Value? (base64Digit k) = some k.val := by
    decide +kernel
  exact hall ⟨n, h⟩

theorem base64Digit_inj {m n : Nat} (hm : m < 64) (hn : n < 64) :
    base64Digit m = base64Digit n ↔ m = n := by
  refine ⟨fun h => ?_, congrArg base64Digit⟩
  have hvalue := base64Value?_digit hm
  rw [h, base64Value?_digit hn] at hvalue
  exact (Option.some.inj hvalue).symm

/-- Padding has no value, so no digit is taken for padding. -/
theorem base64Digit_ne_pad {n : Nat} (h : n < 64) : base64Digit n ≠ '=' := by
  intro hpad
  have hvalue := base64Value?_digit h
  rw [hpad] at hvalue
  cases hvalue

/-- What is no value of a digit is written as padding. -/
theorem base64Digit_mem (n : Nat) : base64Digit n ∈ base64Alphabet ∨ base64Digit n = '=' := by
  rw [base64Digit, List.getD_eq_getElem?_getD]
  cases hdigit : base64Alphabet[n]? with
  | none => exact .inr rfl
  | some digit => exact .inl (List.mem_of_getElem? hdigit)

theorem mem_base64Encode (bytes : List UInt8) :
    ∀ c ∈ base64Encode bytes, c ∈ base64Alphabet ∨ c = '=' := by
  induction bytes using base64Encode.induct with
  | case1 => simp [base64Encode]
  | case2 a => simp [base64Encode, base64Digit_mem]
  | case3 a b => simp [base64Encode, base64Digit_mem]
  | case4 a b c rest ih => simpa [base64Encode, base64Digit_mem] using ih

/-! ## Groups -/

/-- A last byte, of which four bits are in the second digit. -/
theorem base64DecodePadded_one (a : UInt8) :
    base64DecodePadded (base64Digit (a.toNat / 4)) (base64Digit (a.toNat % 4 * 16)) '=' =
      some [a] := by
  have ha := a.toNat_lt
  have hfirst : a.toNat / 4 < 64 := by omega
  have hsecond : a.toNat % 4 * 16 < 64 := by omega
  have hbyte : a.toNat / 4 * 4 + a.toNat % 4 * 16 / 16 = a.toNat := by omega
  have hunused : a.toNat % 4 * 16 % 16 = 0 := Nat.mul_mod_left _ _
  simp only [base64DecodePadded, base64Value?_digit hfirst, base64Value?_digit hsecond, hunused,
    Option.bind_eq_bind, Option.bind_some, if_true, hbyte, UInt8.ofNat_toNat]

/-- Two last bytes, of which two bits are in the third digit. -/
theorem base64DecodePadded_two (a b : UInt8) :
    let n := a.toNat * 256 + b.toNat
    base64DecodePadded (base64Digit (n / 1024)) (base64Digit (n / 16 % 64))
      (base64Digit (n % 16 * 4)) = some [a, b] := by
  intro n
  have ha := a.toNat_lt
  have hb := b.toNat_lt
  have hfirst : n / 1024 < 64 := by omega
  have hsecond : n / 16 % 64 < 64 := by omega
  have hthird : n % 16 * 4 < 64 := by omega
  -- The bits of the third digit that belong to no byte are zero, as canonical texts have them.
  have hunused : n % 16 * 4 % 4 = 0 := by omega
  have hbyte₁ : n / 1024 * 4 + n / 16 % 64 / 16 = a.toNat := by omega
  have hbyte₂ : n / 16 % 64 % 16 * 16 + n % 16 * 4 / 4 = b.toNat := by omega
  simp only [base64DecodePadded, base64Value?_digit hfirst, base64Value?_digit hsecond,
    base64Value?_digit hthird, base64Digit_ne_pad hthird, hunused, Option.bind_eq_bind,
    Option.bind_some, if_false, if_true, hbyte₁, hbyte₂, UInt8.ofNat_toNat]

theorem base64DecodeFull_three (a b c : UInt8) :
    let n := (a.toNat * 256 + b.toNat) * 256 + c.toNat
    base64DecodeFull (base64Digit (n / 262144)) (base64Digit (n / 4096 % 64))
      (base64Digit (n / 64 % 64)) (base64Digit (n % 64)) = some [a, b, c] := by
  intro n
  have ha := a.toNat_lt
  have hb := b.toNat_lt
  have hc := c.toNat_lt
  have hfirst : n / 262144 < 64 := by omega
  have hsecond : n / 4096 % 64 < 64 := by omega
  have hthird : n / 64 % 64 < 64 := by omega
  have hfourth : n % 64 < 64 := by omega
  have hbyte₁ : n / 262144 * 4 + n / 4096 % 64 / 16 = a.toNat := by omega
  have hbyte₂ : n / 4096 % 64 % 16 * 16 + n / 64 % 64 / 4 = b.toNat := by omega
  have hbyte₃ : n / 64 % 64 % 4 * 64 + n % 64 = c.toNat := by omega
  simp only [base64DecodeFull, base64Value?_digit hfirst, base64Value?_digit hsecond,
    base64Value?_digit hthird, base64Value?_digit hfourth, Option.bind_eq_bind, Option.bind_some,
    hbyte₁, hbyte₂, hbyte₃, UInt8.ofNat_toNat]

/-! ## Texts -/

/-- The bytes are read back group by group, as they were written. -/
theorem base64Decode_base64Encode (bytes : List UInt8) :
    base64Decode (base64Encode bytes) = some bytes := by
  induction bytes using base64Encode.induct with
  | case1 => rfl
  | case2 a => simpa [base64Encode, base64Decode] using base64DecodePadded_one a
  | case3 a b => simpa [base64Encode, base64Decode] using base64DecodePadded_two a b
  | case4 a b c rest ih =>
    -- The fourth digit tells a full group from the padded one.
    have hdigit : base64Digit (((a.toNat * 256 + b.toNat) * 256 + c.toNat) % 64) ≠ '=' :=
      base64Digit_ne_pad (Nat.mod_lt _ (by decide))
    have hgroup := base64DecodeFull_three a b c
    dsimp only at hgroup
    rw [base64Encode, base64Decode, if_neg hdigit, hgroup, ih]
    rfl

theorem base64Encode_ne_nil (byte : UInt8) (rest : List UInt8) :
    base64Encode (byte :: rest) ≠ [] := by
  match rest with
  | [] => simp [base64Encode]
  | [_] => simp [base64Encode]
  | _ :: _ :: _ => simp [base64Encode]

/-- Bytes are written in groups of four characters. -/
theorem length_base64Encode_mod (bytes : List UInt8) : (base64Encode bytes).length % 4 = 0 := by
  induction bytes using base64Encode.induct with
  | case1 => rfl
  | case2 a => simp [base64Encode]
  | case3 a b => simp [base64Encode]
  | case4 a b c rest ih =>
    simp only [base64Encode, List.length_cons]
    omega

/-- What is no whole number of groups is not read. -/
theorem base64Decode_eq_none {digits : List Char} (h : digits.length % 4 ≠ 0) :
    base64Decode digits = none := by
  induction digits using base64Decode.induct with
  | case1 => exact absurd rfl h
  | case2 a b c rest hrest =>
    rw [List.isEmpty_iff] at hrest
    subst hrest
    simp at h
  | case3 a b c rest hrest => simp [base64Decode, hrest]
  | case4 a b c d rest hpad ih =>
    have hlength : rest.length % 4 ≠ 0 := by
      simp only [List.length_cons] at h
      omega
    rw [base64Decode, if_neg hpad, ih hlength]
    cases base64DecodeFull a b c d <;> rfl
  | case5 digits hnil hgroup => rw [base64Decode]; exact hnil; exact hgroup

/-! ## The first and the last digits -/

/-- The first two bytes are made of the first three digits. -/
theorem exists_of_base64Encode {bytes : List UInt8} {x y z : Nat} {rest : List Char}
    (hx : x < 64) (hy : y < 64) (hz : z < 64)
    (h : base64Encode bytes = base64Digit x :: base64Digit y :: base64Digit z :: rest) :
    ∃ a b more, bytes = a :: b :: more ∧ a.toNat = x * 4 + y / 16 ∧
      b.toNat = y % 16 * 16 + z / 4 := by
  match bytes, h with
  | [], h => cases h
  | [a], h =>
    -- A single byte is written with padding in the third place.
    simp only [base64Encode, List.cons.injEq] at h
    exact absurd h.2.2.1.symm (base64Digit_ne_pad hz)
  | [a, b], h =>
    have ha := a.toNat_lt
    have hb := b.toNat_lt
    simp only [base64Encode, List.cons.injEq] at h
    obtain ⟨hfirst, hsecond, hthird, -⟩ := h
    rw [base64Digit_inj (by omega) hx] at hfirst
    rw [base64Digit_inj (by omega) hy] at hsecond
    rw [base64Digit_inj (by omega) hz] at hthird
    exact ⟨a, b, [], rfl, by omega, by omega⟩
  | a :: b :: c :: more, h =>
    have ha := a.toNat_lt
    have hb := b.toNat_lt
    have hc := c.toNat_lt
    simp only [base64Encode, List.cons.injEq] at h
    obtain ⟨hfirst, hsecond, hthird, -⟩ := h
    rw [base64Digit_inj (by omega) hx] at hfirst
    rw [base64Digit_inj (by omega) hy] at hsecond
    rw [base64Digit_inj (by omega) hz] at hthird
    exact ⟨a, b, c :: more, rfl, by omega, by omega⟩

/-- The last group of bytes is full, and its last six bits are those of a digit. -/
def EndsInDigit (value : Nat) (bytes : List UInt8) : Prop :=
  bytes.length % 3 = 0 ∧ ∃ byte, bytes.getLast? = some byte ∧ byte.toNat % 64 = value

/-- A last group without padding ends in the digit of the last six bits. -/
theorem getLast?_base64Encode {value : Nat} (hvalue : value < 64) (bytes : List UInt8) :
    (base64Encode bytes).getLast? = some (base64Digit value) ↔ EndsInDigit value bytes := by
  induction bytes using base64Encode.induct with
  | case1 => simp [base64Encode, EndsInDigit]
  | case2 a => simp [base64Encode, EndsInDigit, (base64Digit_ne_pad hvalue).symm]
  | case3 a b => simp [base64Encode, EndsInDigit, (base64Digit_ne_pad hvalue).symm]
  | case4 a b c rest ih =>
    rw [base64Encode]
    cases rest with
    | nil =>
      -- The digit of the last six bits of the group is that of the last six of its last byte.
      have hc := c.toNat_lt
      have hbits : ((a.toNat * 256 + b.toNat) * 256 + c.toNat) % 64 = c.toNat % 64 := by omega
      simp [base64Encode, EndsInDigit, hbits, base64Digit_inj (Nat.mod_lt _ (by decide)) hvalue]
    | cons byte rest =>
      cases hdigits : base64Encode (byte :: rest) with
      | nil => exact absurd hdigits (base64Encode_ne_nil byte rest)
      | cons digit digits =>
        rw [hdigits] at ih
        have hlength : (rest.length + 1 + 1 + 1 + 1) % 3 = (rest.length + 1) % 3 := by omega
        simpa only [List.getLast?_cons_cons, EndsInDigit, List.length_cons, hlength] using ih

theorem utf8Text?_utf8Bytes (text : String) : utf8Text? (Text.utf8Bytes text) = some text := by
  have hbytes : ByteArray.mk (Text.utf8Bytes text).toArray = text.toByteArray := by
    apply ByteArray.ext
    rw [← String.ofList_toList (s := text), String.toByteArray_ofList, List.utf8Encode,
      List.data_toByteArray, String.ofList_toList, Text.utf8Bytes]
  rw [utf8Text?, hbytes, String.fromUTF8?, dif_pos text.isValidUTF8]
  rfl

end LabeledSeries.Encoding
