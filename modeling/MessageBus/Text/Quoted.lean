import MessageBus.Text.Category
/-!
# Quoted text

A text as it is shown inside another one: in double quotes, on one line, with nothing in it that cannot be seen.
-/

namespace MessageBus.Text

/-- Digits of a number in base sixteen, lower case, without leading zeros. -/
def hex (n : Nat) : List Char :=
  Nat.toDigits 16 n

/-- A character inside quotes: the quote, the backslash and four controls have escapes of their own; what is shapeless
or extends the character before it is written by its number; the rest stands as it is. -/
def quotedChar (c : Char) : List Char :=
  if c = '"' then ['\\', '"']
  else if c = '\\' then ['\\', '\\']
  else if ' ' ≤ c ∧ c < '\x7f' then [c]
  else if c = '\x00' then ['\\', '0']
  else if c = '\t' then ['\\', 't']
  else if c = '\n' then ['\\', 'n']
  else if c = '\r' then ['\\', 'r']
  else if extending.contains c || shapeless.contains c then ['\\', 'u', '\x7b'] ++ hex c.toNat ++ ['\x7d']
  else [c]

/-- The text in double quotes. -/
def quoted (s : String) : String :=
  String.ofList ('"' :: s.toList.flatMap quotedChar ++ ['"'])

end MessageBus.Text
