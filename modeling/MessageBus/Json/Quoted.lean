import MessageBus.Json.Cursor
/-!
# Strings in a JSON text

From behind the opening quote to behind the closing one. A reader either decodes the string, and then escapes must
make characters and the bytes must be UTF-8, or passes over it, and then only the form of the escapes counts.
-/

namespace MessageBus.Json

/-- The value of a digit in base sixteen. -/
def hexValue? (b : UInt8) : Option Nat :=
  if 0x30 ≤ b && b ≤ 0x39 then some (b.toNat - 0x30)
  else if 0x61 ≤ b && b ≤ 0x66 then some (b.toNat - 0x61 + 10)
  else if 0x41 ≤ b && b ≤ 0x46 then some (b.toNat - 0x41 + 10)
  else none

/-- The value of four digits in base sixteen. -/
def hexValue4? (a b c d : UInt8) : Option Nat := do
  let a ← hexValue? a
  let b ← hexValue? b
  let c ← hexValue? c
  let d ← hexValue? d
  return ((a * 16 + b) * 16 + c) * 16 + d

/-- The byte that a one-letter escape stands for. -/
def shortEscape? (b : UInt8) : Option UInt8 :=
  if b = 0x22 ∨ b = 0x5c ∨ b = 0x2f then some b
  else if b = 0x62 then some 0x08
  else if b = 0x66 then some 0x0c
  else if b = 0x6e then some 0x0a
  else if b = 0x72 then some 0x0d
  else if b = 0x74 then some 0x09
  else none

/-- The UTF-8 bytes of a code point, the last byte first. -/
def codePointReversed (n : Nat) : Bytes :=
  (Bytes.ofText (String.singleton (Char.ofNat n))).reverse

/-- The place of a string's flaw, or its bytes and the bytes after it; `n` is the place of the first byte and `taken`
holds what has been decoded, the last byte first. -/
def decodeString (n : Nat) (taken : Bytes) : Bytes → Except (Cause × Nat) (Bytes × Nat × Bytes)
  | [] => .error (.unfinished .string, n)
  | 0x22 :: rest => .ok (taken.reverse, n + 1, rest)
  | 0x5c :: 0x75 :: a :: b :: c :: d :: rest =>
    match hexValue4? a b c d with
    | none => .error (.invalidEscape, n + 6)
    | some u =>
      if 0xdc00 ≤ u ∧ u ≤ 0xdfff then .error (.loneSurrogate, n + 6)
      else if u < 0xd800 ∨ 0xdbff < u then decodeString (n + 6) (codePointReversed u ++ taken) rest
      else
        match rest with
        | [] => .error (.unfinished .string, n + 6)
        | 0x5c :: 0x75 :: e :: f :: g :: h :: rest =>
          match hexValue4? e f g h with
          | none => .error (.invalidEscape, n + 12)
          | some v =>
            if v < 0xdc00 ∨ 0xdfff < v then .error (.loneSurrogate, n + 12)
            else
              let point := (u - 0xd800) * 0x400 + (v - 0xdc00) + 0x10000
              decodeString (n + 12) (codePointReversed point ++ taken) rest
        | [0x5c] => .error (.unfinished .string, n + 7)
        | 0x5c :: 0x75 :: short => .error (.unfinished .string, n + 8 + short.length)
        | 0x5c :: _ => .error (.unfinishedSurrogate, n + 8)
        | _ => .error (.unfinishedSurrogate, n + 7)
  | [0x5c] => .error (.unfinished .string, n + 1)
  | 0x5c :: 0x75 :: short => .error (.unfinished .string, n + 2 + short.length)
  | 0x5c :: b :: rest =>
    match shortEscape? b with
    | some e => decodeString (n + 2) (e :: taken) rest
    | none => .error (.invalidEscape, n + 2)
  | b :: rest => if b < 0x20 then .error (.controlCharacter, n + 1) else decodeString (n + 1) (b :: taken) rest

/-- The place of a string's flaw in form, or the place and the bytes behind it. -/
def passString (n : Nat) : Bytes → Except (Cause × Nat) (Nat × Bytes)
  | [] => .error (.unfinished .string, n)
  | 0x22 :: rest => .ok (n + 1, rest)
  | 0x5c :: 0x75 :: a :: b :: c :: d :: rest =>
    if (hexValue4? a b c d).isSome then passString (n + 6) rest else .error (.invalidEscape, n + 6)
  | [0x5c] => .error (.unfinished .string, n + 1)
  | 0x5c :: 0x75 :: short => .error (.unfinished .string, n + 2 + short.length)
  | 0x5c :: b :: rest =>
    if (shortEscape? b).isSome then passString (n + 2) rest else .error (.invalidEscape, n + 2)
  | b :: rest => if b < 0x20 then .error (.controlCharacter, n) else passString (n + 1) rest

namespace Reader

/-- Reads a string whose opening quote has been taken. The first byte that is not UTF-8 is its flaw, and is placed as
if the decoded bytes stood right before the closing quote. -/
def string : Reader String := do
  let cur ← get
  match decodeString cur.index [] cur.rest with
  | .error (cause, n) =>
    set (⟨cur.rest.drop (n - cur.index), n⟩ : Cursor)
    throw ⟨cause, some n⟩
  | .ok (decoded, n, rest) =>
    set (⟨rest, n⟩ : Cursor)
    match Bytes.toText? decoded with
    | some s => return s
    | none =>
      let upTo := ((Bytes.flaw decoded).map (·.upTo)).getD 0
      throw ⟨.invalidCodePoint, some (n - decoded.length + upTo)⟩

/-- Passes over a string whose opening quote has been taken. -/
def skipString : Reader Unit := do
  let cur ← get
  match passString cur.index cur.rest with
  | .error (cause, n) =>
    set (⟨cur.rest.drop (n - cur.index), n⟩ : Cursor)
    throw ⟨cause, some n⟩
  | .ok (n, rest) => set (⟨rest, n⟩ : Cursor)

end Reader

end MessageBus.Json
