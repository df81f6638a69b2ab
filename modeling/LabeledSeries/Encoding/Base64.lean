/-!
# Base64

The standard alphabet with padding.  Four digits of six bits make three bytes; a last group of two
or three digits is filled up with `=` and makes one or two bytes.  Decoding is canonical: the length
is a multiple of four, padding stands only at the end, and the bits that a padded group leaves over
are zero, so every byte sequence has exactly one text.
-/

namespace LabeledSeries.Encoding

/-- The digits in order of their values. -/
def base64Alphabet : List Char :=
  "ABCDEFGHIJKLMNOPQRSTUVWXYZabcdefghijklmnopqrstuvwxyz0123456789+/".toList

/-- The digit of a value below 64. -/
def base64Digit (value : Nat) : Char := base64Alphabet.getD value '='

/-- The value of a digit. -/
def base64Value? (c : Char) : Option Nat :=
  if 'A'.toNat ≤ c.toNat ∧ c.toNat ≤ 'Z'.toNat then some (c.toNat - 'A'.toNat)
  else if 'a'.toNat ≤ c.toNat ∧ c.toNat ≤ 'z'.toNat then some (c.toNat - 'a'.toNat + 26)
  else if '0'.toNat ≤ c.toNat ∧ c.toNat ≤ '9'.toNat then some (c.toNat - '0'.toNat + 52)
  else if c = '+' then some 62
  else if c = '/' then some 63
  else none

/-- The text of a sequence of bytes. -/
def base64Encode : List UInt8 → List Char
  | [] => []
  | [a] =>
    let n := a.toNat
    [base64Digit (n / 4), base64Digit (n % 4 * 16), '=', '=']
  | [a, b] =>
    let n := a.toNat * 256 + b.toNat
    [base64Digit (n / 1024), base64Digit (n / 16 % 64), base64Digit (n % 16 * 4), '=']
  | a :: b :: c :: rest =>
    let n := (a.toNat * 256 + b.toNat) * 256 + c.toNat
    base64Digit (n / 262144) :: base64Digit (n / 4096 % 64) :: base64Digit (n / 64 % 64) ::
      base64Digit (n % 64) :: base64Encode rest

/-- The bytes of a last group that is padded with one or two `=`. -/
def base64DecodePadded (a b c : Char) : Option (List UInt8) := do
  let x ← base64Value? a
  let y ← base64Value? b
  if c = '=' then
    if y % 16 = 0 then some [UInt8.ofNat (x * 4 + y / 16)] else none
  else
    let z ← base64Value? c
    if z % 4 = 0 then
      some [UInt8.ofNat (x * 4 + y / 16), UInt8.ofNat (y % 16 * 16 + z / 4)]
    else none

/-- The bytes of a full group of four digits. -/
def base64DecodeFull (a b c d : Char) : Option (List UInt8) := do
  let x ← base64Value? a
  let y ← base64Value? b
  let z ← base64Value? c
  let w ← base64Value? d
  some [UInt8.ofNat (x * 4 + y / 16), UInt8.ofNat (y % 16 * 16 + z / 4),
    UInt8.ofNat (z % 4 * 64 + w)]

/-- The bytes of a text, if it is the text of some bytes. -/
def base64Decode : List Char → Option (List UInt8)
  | [] => some []
  | a :: b :: c :: d :: rest =>
    if d = '=' then
      if rest.isEmpty then base64DecodePadded a b c else none
    else do
      let bytes ← base64DecodeFull a b c d
      let more ← base64Decode rest
      some (bytes ++ more)
  | _ => none

/-- The text of a byte sequence in UTF-8, if it is well formed. -/
def utf8Text? (bytes : List UInt8) : Option String :=
  String.fromUTF8? (ByteArray.mk bytes.toArray)

end LabeledSeries.Encoding
