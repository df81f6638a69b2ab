/-!
# Blanks

The characters that count as white space in every script, and texts with the blanks at both ends cut
off.  Zero-width characters are not blanks.
-/

namespace LabeledSeries.Text

/-- Whether a character is white space: the ASCII blanks, next line, the no-break space, and the
    spaces and separators of the general punctuation and the other scripts. -/
def isBlank (c : Char) : Bool :=
  let code := c.toNat
  (0x09 ≤ code && code ≤ 0x0D) || code == 0x20 || code == 0x85 || code == 0xA0 || code == 0x1680 ||
    (0x2000 ≤ code && code ≤ 0x200A) || code == 0x2028 || code == 0x2029 || code == 0x202F ||
    code == 0x205F || code == 0x3000

/-- A text without the blanks at its ends, character by character. -/
def trimChars (text : List Char) : List Char :=
  ((text.dropWhile isBlank).reverse.dropWhile isBlank).reverse

/-- A text without the blanks at its ends. -/
def trim (text : String) : String := String.ofList (trimChars text.toList)

end LabeledSeries.Text
