import MessageBus.Json.Basic
import MessageBus.Json.Numeral
import MessageBus.Json.Skip
import MessageBus.SortedMap
/-!
# Shapes: which JSON values a message type admits

A shape is read by recursive descent. It says which values it admits and in which form a decoded value comes out: the
fields of a record in their order, an absent optional field as null, the entries of a dictionary sorted by key. Brackets
nest to a depth of 127.
-/

namespace MessageBus.Json

/-- What a message type admits. -/
inductive Shape where
  /-- An unsigned integer of so many bits. -/
  | word (bits : Nat)
  /-- A signed integer of so many bits. -/
  | integer (bits : Nat)
  | text
  | flag
  /-- Only null. -/
  | unit
  /-- Null or the inner shape; a field of this shape may be absent. -/
  | optional (inner : Shape)
  /-- A list of any length. -/
  | list (item : Shape)
  /-- An object with any keys. -/
  | dictionary (value : Shape)
  /-- An object whose keys would have to be lists: only the empty one exists. -/
  | keyless (value : Shape)
  /-- An object with these fields, or the list of their values in order; `label` names it in flaws. -/
  | record (label : String) (fields : List (String × Shape))
  /-- A list of exactly these. -/
  | tuple (label : String) (items : List Shape)
  /-- One of the named variants. A variant without content is its name, or its name with null; any other is an object
  with the name as its only key. -/
  | choice (label : String) (variants : List (String × Shape))
  /-- The record at the top, again. -/
  | again
  deriving Inhabited

namespace Shape

/-- The shape as a flaw names what it expected. -/
def expectation : Shape → String
  | word bits => "u" ++ toString bits
  | integer bits => "i" ++ toString bits
  | text => "a string"
  | flag => "a boolean"
  | unit => "unit"
  | optional inner => inner.expectation
  | list _ => "a sequence"
  | dictionary _ => "a map"
  | keyless _ => "a map"
  | record label _ => label
  | tuple label _ => label
  | choice label _ => label
  | again => "the record"

/-- The kind of a variant, by its content. -/
def variantKind : Shape → String
  | unit => "unit variant"
  | record _ _ => "struct variant"
  | tuple _ _ => "tuple variant"
  | _ => "newtype variant"

/-- The value of an absent field, if the field may be absent. -/
def absent? : Shape → Option Json
  | optional _ => some .null
  | _ => none

end Shape

namespace Reader

/-- What the next value is, for a flaw: a value without parts is read, of the others the bracket is enough. -/
def wrongType {α : Type} (expected : String) : Reader α :=
  located do
    match ← peek with
    | some 'n' => advance; word ['u', 'l', 'l']; failAnywhere (.wrongType .null expected)
    | some 't' => advance; word ['r', 'u', 'e']; failAnywhere (.wrongType (.flag true) expected)
    | some 'f' => advance; word ['a', 'l', 's', 'e']; failAnywhere (.wrongType (.flag false) expected)
    | some '-' => advance; wrongNumber (← numeral false)
    | some '"' => advance; let s ← string; failAnywhere (.wrongType (.text s) expected)
    | some '[' => failAnywhere (.wrongType .sequence expected)
    | some '\x7b' => failAnywhere (.wrongType .map expected)
    | some c => if c.isDigit then wrongNumber (← numeral true) else failAhead .expectedValue
    | none => failAhead .expectedValue
where
  /-- A number where none is wanted. -/
  wrongNumber (n : Numeral) : Reader α :=
    match n with
    | .integer n => failAnywhere (.wrongType (.integer n) expected)
    | .float x => failAnywhere (.wrongType (.float (Text.shortest x)) expected)

/-- The next token, which must exist. -/
def token : Reader Char := do
  match ← peekToken with
  | some c => return c
  | none => failAhead (.unfinished .value)

/-- Reads an integer between two bounds. -/
def integer (low high : Int) (expected : String) : Reader Json := do
  let c ← token
  if c = '-' then
    advance
    located (bounded (← numeral false))
  else if c.isDigit then located (bounded (← numeral true))
  else wrongType expected
where
  /-- Takes an integer within the bounds only. -/
  bounded : Numeral → Reader Json
    | .integer n =>
      if low ≤ n ∧ n ≤ high then return .number n else failAnywhere (.wrongValue (.integer n) expected)
    | .float x => failAnywhere (.wrongType (.float (Text.shortest x)) expected)

/-- Reads a string, blanks before it. -/
def text (expected : String) : Reader String := do
  if (← token) = '"' then
    advance
    string
  else wrongType expected

/-- Reads true or false. -/
def flag : Reader Json := do
  match ← token with
  | 't' => advance; word ['r', 'u', 'e']; return .flag true
  | 'f' => advance; word ['a', 'l', 's', 'e']; return .flag false
  | _ => wrongType "a boolean"

/-- Reads null. -/
def null (expected : String) : Reader Json := do
  match ← token with
  | 'n' => advance; word ['u', 'l', 'l']; return .null
  | _ => wrongType expected

/-! ## Brackets -/

/-- What closes a list that should end here. -/
def closeList : Reader Unit := do
  match ← peekToken with
  | some ']' => advance
  | some ',' =>
    advance
    match ← peekToken with
    | some ']' => failAhead .trailingComma
    | _ => failAhead .trailingCharacters
  | some _ => failAhead .trailingCharacters
  | none => failAhead (.unfinished .list)

/-- What closes an object that should end here. -/
def closeObject : Reader Unit := do
  match ← peekToken with
  | some '\x7d' => advance
  | some ',' => failAhead .trailingComma
  | some _ => failAhead .trailingCharacters
  | none => failAhead (.unfinished .object)

/-- Reads what is between brackets, then the closing one; a flaw inside comes before one at the closing, but is placed
after it if it has no place of its own. -/
def bracketed {α : Type} (inside : Reader α) (closing : Reader Unit) : Reader α :=
  located do
    let result ← tryCatch (Except.ok <$> inside) fun f => return .error f
    let closed ← tryCatch (Except.ok <$> closing) fun f => return .error f
    match result, closed with
    | .ok a, .ok () => return a
    | .error f, _ => throw f
    | .ok _, .error f => throw f

/-- Whether a list has another item; `first` if none has been read. -/
def moreItems (first : Bool) : Reader Bool := do
  match ← peekToken with
  | some ']' => return false
  | some c =>
    if first then return true
    else if c = ',' then
      advance
      match ← peekToken with
      | some ']' => failAhead .trailingComma
      | some _ => return true
      | none => failAhead (.unfinished .value)
    else failAhead .expectedCommaOrBracket
  | none => failAhead (.unfinished .list)

/-- Whether an object has another member, whose key comes next; `first` if none has been read. -/
def moreMembers (first : Bool) : Reader Bool := do
  match ← peekToken with
  | some '\x7d' => return false
  | some c =>
    if first then
      if c = '"' then return true else failAhead .keyNotText
    else if c = ',' then
      advance
      match ← peekToken with
      | some '"' => return true
      | some '\x7d' => failAhead .trailingComma
      | some _ => failAhead .keyNotText
      | none => failAhead (.unfinished .value)
    else failAhead .expectedCommaOrBrace
  | none => failAhead (.unfinished .object)

/-- Takes the colon behind a key. -/
def colon : Reader Unit := do
  match ← peekToken with
  | some ':' => advance
  | some _ => failAhead .expectedColon
  | none => failAhead (.unfinished .object)

/-- Reads a key whose opening quote comes next. -/
def key : Reader String := do
  advance
  string

/-! ## Lists, dictionaries and records -/

/-- Reads items to the end of a list; every round takes at least one byte. -/
def items (item : Reader Json) (first : Bool) : Nat → Reader (List Json)
  | 0 => failAhead (.unfinished .list)
  | fuel + 1 => do
    if ← moreItems first then
      let v ← item
      return v :: (← items item false fuel)
    else return []

/-- Reads exactly one item per reader; too few are a wrong length. -/
def itemsOf (expected : String) (n : Nat) : List (Reader Json) → Reader (List Json)
  | [] => return []
  | item :: more => do
    if ← moreItems (n == 0) then
      let v ← item
      return v :: (← itemsOf expected (n + 1) more)
    else failAnywhere (.wrongLength n expected)

/-- Reads entries to the end of an object, with `entry` for what follows a key; every round takes at least one byte. -/
def entries {σ : Type} (entry : σ → String → Reader σ) (first : Bool) (s : σ) : Nat → Reader σ
  | 0 => failAhead (.unfinished .object)
  | fuel + 1 => do
    if ← moreMembers first then
      let k ← key
      entries entry false (← entry s k) fuel
    else return s

/-- An entry of a dictionary, of which the later one with a key holds; the entries stay sorted. -/
def dictionaryEntry (value : Reader Json) (found : List (String × Json)) (k : String) :
    Reader (List (String × Json)) := do
  colon
  let v ← value
  return SortedMap.place k v found

/-- An entry of a record: a field's value, which may come once, or anything under a key that is no field's. -/
def recordEntry (fields : List (String × Reader Json)) (found : List (String × Json)) (k : String) :
    Reader (List (String × Json)) := do
  match fields.find? fun f => f.1 = k with
  | none =>
    colon
    skipValue
    return found
  | some f =>
    if found.any fun e => e.1 = k then failAnywhere (.duplicateField k)
    else
      colon
      let v ← f.2
      return (k, v) :: found

/-- The fields of a record in their order, absent ones filled in where they may be. -/
def fillFields (found : List (String × Json)) : List (String × Shape) → Reader (List (String × Json))
  | [] => return []
  | (k, s) :: more => do
    let v ← match (found.find? fun e => e.1 = k).map (·.2), s.absent? with
      | some v, _ => pure v
      | none, some v => pure v
      | none, none => failAnywhere (.missingField k)
    return (k, v) :: (← fillFields found more)

/-- A label with the number of elements that belong to it. -/
def withElements (label : String) (n : Nat) : String :=
  label ++ " with " ++ toString n ++ (if n = 1 then " element" else " elements")

/-- Goes inside a bracket, where values are read by `deeper`, if the depth allows it. -/
def enter {α : Type} (deeper : Option (Shape → Reader Json)) (inside : (Shape → Reader Json) → Reader α)
    (closing : Reader Unit) : Reader α :=
  match deeper with
  | none => failAhead .tooDeep
  | some read => do
    advance
    bracketed (inside read) closing

/-- Reads a record with the fields. -/
def record (deeper : Option (Shape → Reader Json)) (label : String) (fields : List (String × Shape)) :
    Reader Json := do
  match ← token with
  | '[' =>
    enter deeper (fun read => do
      let vs ← itemsOf (withElements label fields.length) 0 (fields.map fun f => read f.2)
      return .object ((fields.map (·.1)).zip vs)) closeList
  | '\x7b' =>
    enter deeper (fun read => do
      let found ← entries (recordEntry (fields.map fun f => (f.1, read f.2))) true [] ((← get).rest.length + 1)
      return .object (← fillFields found fields)) closeObject
  | _ => wrongType label

/-- Reads a variant's name, which must be one of the known ones; its opening quote comes next. -/
def variant (variants : List (String × Shape)) : Reader (String × Shape) := do
  advance
  located do
    let name ← string
    match variants.find? fun v => v.1 = name with
    | some v => return v
    | none => failAnywhere (.unknownVariant name (variants.map (·.1)))

/-- Reads a variant's name as the first key of an object, which must have one; blanks before it. -/
def variantKey (variants : List (String × Shape)) : Reader (String × Shape) := do
  match ← peekToken with
  | some '"' => variant variants
  | some '\x7d' => failAhead .expectedValue
  | some _ => failAhead .keyNotText
  | none => failAhead (.unfinished .object)

/-- Reads one of the variants: its name alone, or an object with the name as key. -/
def choice (deeper : Option (Shape → Reader Json)) (variants : List (String × Shape)) : Reader Json := do
  match ← token with
  | '"' =>
    let (name, content) ← variant variants
    match content with
    | .unit => return .text name
    | other => failAnywhere (.wrongType .unitVariant other.variantKind)
  | '\x7b' =>
    match deeper with
    | none => failAhead .tooDeep
    | some read =>
      advance
      let (name, content) ← variantKey variants
      colon
      let v ← read content
      match ← peekToken with
      | some '\x7d' => advance
      | some _ => failHere .expectedValue
      | none => failHere (.unfinished .object)
      match content with
      | .unit => return .text name
      | _ => return .object [(name, v)]
  | _ => failAhead .expectedValue

/-- Reads a value of a shape. `top` is the shape at the top, and `deeper` reads values one bracket further in, if the
depth allows that. -/
def shapeWithin (top : Shape) (deeper : Option (Shape → Reader Json)) : Shape → Reader Json
  | .word bits => integer 0 (Nat.pow 2 bits - 1 : Nat) ("u" ++ toString bits)
  | .integer bits => integer (-(Nat.pow 2 (bits - 1) : Nat)) (Nat.pow 2 (bits - 1) - 1 : Nat) ("i" ++ toString bits)
  | .text => .text <$> text "a string"
  | .flag => flag
  | .unit => null "unit"
  | .optional inner => do
    match ← peekToken with
    | some 'n' => advance; word ['u', 'l', 'l']; return .null
    | _ => shapeWithin top deeper inner
  | .list item => do
    match ← token with
    | '[' => enter deeper (fun read => do return .array (← items (read item) true ((← get).rest.length + 1))) closeList
    | _ => wrongType "a sequence"
  | .dictionary value => do
    match ← token with
    | '\x7b' =>
      enter deeper (fun read => do
        return .object (← entries (dictionaryEntry (read value)) true [] ((← get).rest.length + 1))) closeObject
    | _ => wrongType "a map"
  | .keyless _ => do
    match ← token with
    | '\x7b' =>
      enter deeper (fun _ => do
        let _ ← entries (fun () k => failAnywhere (.wrongType (.text k) "a sequence")) true () 1
        return .object []) closeObject
    | _ => wrongType "a map"
  | .record label fields => record deeper label fields
  | .tuple label shapes => do
    match ← token with
    | '[' =>
      enter deeper (fun read => do
        return .array (← itemsOf (withElements label shapes.length) 0 (shapes.map read))) closeList
    | _ => wrongType label
  | .choice _ variants => choice deeper variants
  | .again =>
    match top with
    | .record label fields => record deeper label fields
    | _ => failAhead .expectedValue

/-- Reads a value of a shape with room for `depth` brackets. -/
def shape (top : Shape) : Nat → Shape → Reader Json
  | 0 => shapeWithin top none
  | depth + 1 => shapeWithin top (some (shape top depth))

/-- Reads a value, then only white space to the end. -/
def whole (s : Shape) : Reader Json := do
  let v ← shape s 127 s
  match ← peekToken with
  | none => return v
  | some _ => failAhead .trailingCharacters

end Reader

/-- The value of a shape that a text holds. -/
def Shape.read (s : Shape) (text : Bytes) : Except Flaw Json :=
  ((Reader.whole s).run ⟨text, 0⟩).1

/-- The value in the form in which its shape comes out, if it is one of the shape. -/
def Shape.normal? (s : Shape) (v : Json) : Option Json :=
  (s.read v.bytes).toOption

end MessageBus.Json
