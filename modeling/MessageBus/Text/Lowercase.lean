import MessageBus.Text.CaseTable
/-!
# Lower case

Every character goes to its lower-case form; the one form that depends on its place is a capital sigma, which becomes
the final sigma where it ends a word: after a letter, and with no letter next, the ignorable characters left out.
-/

namespace MessageBus.Text

/-- The lower-case form of a character by itself. -/
def lowerChar (c : Char) : List Char :=
  if c.toNat < 0x80 then [c.toLower]
  else if c.toNat = 0x130 then ['i', '\u0307']
  else
    match caseRuns.find? fun r => r.first ≤ c.toNat && c.toNat ≤ r.last && (c.toNat - r.first) % r.step == 0 with
    | some r => [Char.ofNat (r.lower + (c.toNat - r.first))]
    | none => [c]

/-- Whether the first character that is not ignorable is a letter that has a case. -/
def startsCased : List Char → Bool
  | [] => false
  | c :: cs => if caseIgnorable.contains c then startsCased cs else cased.contains c

/-- Lower case of the characters that follow `before` (nearest first). -/
def lowerFrom (before : List Char) : List Char → List Char
  | [] => []
  | c :: cs =>
    let low := if c = 'Σ' then (if startsCased before && !startsCased cs then ['ς'] else ['σ']) else lowerChar c
    low ++ lowerFrom (c :: before) cs

/-- The text in lower case. -/
def lowercase (s : String) : String :=
  String.ofList (lowerFrom [] s.toList)

end MessageBus.Text
