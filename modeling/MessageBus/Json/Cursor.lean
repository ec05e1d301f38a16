import MessageBus.Json.Flaw
/-!
# Reading a text from left to right

A reader moves a cursor over the bytes and ends with a value or a flaw; the cursor stays where it came to in both
cases, since some flaws are placed only after the reader has moved on.
-/

namespace MessageBus.Json

/-- The bytes still to read, and the number of bytes before them. -/
structure Cursor where
  rest : Bytes
  index : Nat

/-- The cursor behind the bytes that satisfy a test, `n` being the place of the first. -/
def Cursor.passWhile (test : UInt8 → Bool) (n : Nat) : Bytes → Cursor
  | [] => ⟨[], n⟩
  | b :: rest => if test b then passWhile test (n + 1) rest else ⟨b :: rest, n⟩

/-- A step of reading. -/
abbrev Reader := ExceptT Flaw (StateM Cursor)

namespace Reader

/-- Fails at the cursor. -/
def failHere {α : Type} (c : Cause) : Reader α := do
  throw ⟨c, some (← get).index⟩

/-- Fails behind the next byte, or at the end of the text if there is none. -/
def failAhead {α : Type} (c : Cause) : Reader α := do
  let cur ← get
  throw ⟨c, some (if cur.rest.isEmpty then cur.index else cur.index + 1)⟩

/-- Fails without a place. -/
def failAnywhere {α : Type} (c : Cause) : Reader α :=
  throw ⟨c, none⟩

/-- Gives a flaw that has no place the place of the cursor. -/
def located {α : Type} (r : Reader α) : Reader α :=
  tryCatch r fun f => do
    match f.place with
    | some _ => throw f
    | none => throw { f with place := some (← get).index }

/-- The next byte, as a character below 256. -/
def peek : Reader (Option Char) := do
  return (← get).rest.head?.map Char.ofUInt8

/-- Moves behind the next byte. -/
def advance : Reader Unit :=
  modify fun cur => match cur.rest with
    | [] => cur
    | _ :: rest => ⟨rest, cur.index + 1⟩

/-- Takes the next byte. -/
def next : Reader (Option Char) := do
  let c ← peek
  advance
  return c

/-- Whether the byte is white space between tokens. -/
def isBlankByte (b : UInt8) : Bool :=
  b == 0x20 || b == 0x0a || b == 0x09 || b == 0x0d

/-- Moves behind white space, and shows the byte after it. -/
def peekToken : Reader (Option Char) := do
  modify fun cur => Cursor.passWhile isBlankByte cur.index cur.rest
  peek

/-- Takes the bytes of a word whose first letter has been taken. -/
def word : List Char → Reader Unit
  | [] => return
  | c :: cs => do
    match ← next with
    | none => failHere (.unfinished .value)
    | some d => if d = c then word cs else failHere .expectedIdent

/-- Takes the decimal digits that come next, and says how many. -/
def skipDigits : Reader Nat := do
  let cur ← get
  let behind := Cursor.passWhile (fun b => (Char.ofUInt8 b).isDigit) cur.index cur.rest
  set behind
  return behind.index - cur.index

end Reader

end MessageBus.Json
