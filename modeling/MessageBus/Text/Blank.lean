import MessageBus.Text.Ranges
/-!
# Blank text

White space is the property White_Space: the ASCII blanks, the next-line control, and the separators of the other
scripts. A text is blank when it holds nothing else.
-/

namespace MessageBus.Text

/-- Whether the character is white space (the property White_Space, 25 code points). -/
def isSpace (c : Char) : Bool :=
  c == ' ' || ('\x09' ≤ c && c ≤ '\x0d') || c == '\u0085' || c == '\u00a0' || c == '\u1680' ||
    ('\u2000' ≤ c && c ≤ '\u200a') || c == '\u2028' || c == '\u2029' || c == '\u202f' || c == '\u205f' || c == '\u3000'

/-- The text without the white space at its two ends. -/
def trimmed (s : String) : String :=
  String.ofList ((s.toList.dropWhile isSpace).reverse.dropWhile isSpace).reverse

/-- Whether the text is empty or only white space. -/
def isBlank (s : String) : Bool :=
  s.toList.all isSpace

end MessageBus.Text
