import MessageBus.Json.Quoted
/-!
# Passing over a value

A member that nobody asks for is passed over without limit on its depth: the open lists and objects are kept on a
stack, and only the form of the text counts.
-/

namespace MessageBus.Json

/-- An open bracket. -/
inductive Bracket where
  | list
  | object
  deriving DecidableEq

namespace Bracket

/-- The character that closes the bracket. -/
def closing : Bracket → Char
  | list => ']'
  | object => '\x7d'

/-- The part of the text that the bracket opens. -/
def part : Bracket → Part
  | list => .list
  | object => .object

/-- What may follow a value inside the bracket. -/
def expected : Bracket → Cause
  | list => .expectedCommaOrBracket
  | object => .expectedCommaOrBrace

end Bracket

namespace Reader

/-- Passes over an exponent, from its letter on. -/
def skipExponent : Reader Unit := do
  advance
  match ← peek with
  | some '+' | some '-' => advance
  | _ => pure ()
  match ← next with
  | some c => if c.isDigit then let _ ← skipDigits else failHere .invalidNumber
  | none => failHere .invalidNumber

/-- Passes over what may follow the integer part of a number. -/
def skipNumberTail : Reader Unit := do
  match ← peek with
  | some '.' =>
    advance
    if (← skipDigits) = 0 then failAhead .invalidNumber
    else
      match ← peek with
      | some 'e' | some 'E' => skipExponent
      | _ => return
  | some 'e' | some 'E' => skipExponent
  | _ => return

/-- Passes over a number without its sign. -/
def skipNumber : Reader Unit := do
  match ← next with
  | some '0' =>
    if ((← peek).map Char.isDigit).getD false then failAhead .invalidNumber else skipNumberTail
  | some c =>
    if c.isDigit then
      let _ ← skipDigits
      skipNumberTail
    else failHere .invalidNumber
  | none => failHere .invalidNumber

/-- Passes over a value without parts, or over an opening bracket, which it gives back. -/
def skipHead : Reader (Option Bracket) := do
  match ← peekToken with
  | none => failAhead (.unfinished .value)
  | some 'n' => advance; word ['u', 'l', 'l']; return none
  | some 't' => advance; word ['r', 'u', 'e']; return none
  | some 'f' => advance; word ['a', 'l', 's', 'e']; return none
  | some '-' => advance; skipNumber; return none
  | some '"' => advance; skipString; return none
  | some '[' => advance; return some .list
  | some '\x7b' => advance; return some .object
  | some c => if c.isDigit then skipNumber; return none else failAhead .expectedValue

/-- Passes over a key and its colon. -/
def skipKey : Reader Unit := do
  match ← peekToken with
  | some '"' => advance
  | some _ => failAhead .keyNotText
  | none => failAhead (.unfinished .object)
  skipString
  match ← peekToken with
  | some ':' => advance
  | some _ => failAhead .expectedColon
  | none => failAhead (.unfinished .object)

/-- Passes over closing brackets and at most one comma, with the brackets that are open, the innermost first,
and `afterValue` whether a value has just ended. Gives back the brackets still open before the next value. -/
def skipClosings (afterValue : Bool) : List Bracket → Reader (List Bracket)
  | [] => return []
  | b :: outer => do
    match ← peekToken with
    | none => failAhead (.unfinished b.part)
    | some c =>
      if c = ',' && afterValue then advance; return b :: outer
      else if c = b.closing then advance; skipClosings true outer
      else if afterValue then failAhead b.expected
      else return b :: outer

/-- Passes over values until no bracket is open; every round takes at least one byte. -/
def skipValues (stack : List Bracket) : Nat → Reader Unit
  | 0 => failAhead (.unfinished .value)
  | fuel + 1 => do
    let opened ← skipHead
    let stack ← match opened with
      | some b => skipClosings false (b :: stack)
      | none => skipClosings true stack
    match stack with
    | [] => return
    | b :: _ =>
      if b = .object then skipKey
      skipValues stack fuel

/-- Passes over a value. -/
def skipValue : Reader Unit := do
  skipValues [] ((← get).rest.length + 1)

end Reader

end MessageBus.Json
