import LabeledSeries.Text.Name

/-!
# Checksums

The 32-bit cyclic redundancy check in its reflected form, with the generator `0xEDB88320`: the
register starts with all bits set, takes the bytes in order, lowest bit first, and is complemented
at the end.  It names things briefly and spreads rules over groups.
-/

namespace LabeledSeries.Encoding

/-- Move the register one bit on, and subtract the generator where a set bit falls out. -/
def shiftBit (register : UInt32) : UInt32 :=
  if register &&& 1 = 1 then (register >>> 1) ^^^ 0xEDB88320 else register >>> 1

/-- Take one byte into the register. -/
def takeByte (register : UInt32) (byte : UInt8) : UInt32 :=
  Nat.repeat shiftBit 8 (register ^^^ byte.toUInt32)

/-- The checksum of a sequence of bytes. -/
def checksum (bytes : List UInt8) : UInt32 :=
  bytes.foldl takeByte 0xFFFFFFFF ^^^ 0xFFFFFFFF

/-- The checksum of a text in UTF-8. -/
def textChecksum (text : String) : Nat := (checksum (Text.utf8Bytes text)).toNat

/-- The check value of the standard: nine digits. -/
example : textChecksum "123456789" = 0xCBF43926 := by decide +kernel

end LabeledSeries.Encoding
