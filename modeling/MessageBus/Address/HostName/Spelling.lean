import MessageBus.Address.HostName.SpellingTable
import MessageBus.Text.Category
import MessageBus.Text.Lowercase
import MessageBus.Text.Parts
/-!
# How host names are spelled

A host name is the same in capital and in small letters, and variants of a letter or of a digit are the letter or the
digit. So every character has a spelling: itself, other characters, or none at all; only some are refused.
-/

namespace MessageBus.Address.HostName

/-- The spelling of a code point in the table. -/
def listed? (n : Nat) : Option (List Char) :=
  match shifts.find? fun s => s.first ≤ n && n ≤ s.last with
  | some s => some [Char.ofNat (s.spelling + (n - s.first))]
  | none => (spellings.findRev? (·.first ≤ n)).bind fun s => (Text.parts '|' s.spellings.toList)[n - s.first]?

/-- Whether the character joins letters, or keeps them from joining. -/
def isJoiner (c : Char) : Bool :=
  c = '\u200c' || c = '\u200d'

/-- Whether the character is a capital letter of the one script whose small letters are spelled by the capital ones. -/
def isCherokee (c : Char) : Bool :=
  '\u13a0' ≤ c && c ≤ '\u13f5'

/-- Whether no host name has the character, as the classes of characters have it. -/
def isRefused (c : Char) : Bool :=
  0x80 ≤ c.toNat && !isJoiner c && (refused.contains c || Text.shapeless.contains c)

/-- The spelling of a character, if host names can have it. -/
def spell? (c : Char) : Option (List Char) :=
  if ignored.contains c then some []
  else match listed? c.toNat with
    | some cs => some cs
    | none => if isRefused c then none else if isCherokee c then some [c] else some (Text.lowerChar c)

/-- The spelling of a text, if host names can have its characters. -/
def spellAll? (cs : List Char) : Option (List Char) :=
  (cs.mapM spell?).map List.flatten

/-- Whether a character is spelled as itself. -/
def isSpelled (c : Char) : Bool :=
  spell? c = some [c]

end MessageBus.Address.HostName
