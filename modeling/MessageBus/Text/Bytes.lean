/-!
# Bytes and text

Texts travel as their UTF-8 bytes. `toText?` reads bytes back, `ofText` writes them, and the first is a left inverse of
the second; `flaw` says where bytes stop being UTF-8.
-/

namespace MessageBus

/-- A sequence of bytes, such as the body of a message. -/
abbrev Bytes := List UInt8

namespace Bytes

/-- The UTF-8 bytes of a text. -/
def ofText (s : String) : Bytes :=
  s.toUTF8.data.toList

/-- The text that the bytes encode, if they are UTF-8. -/
def toText? (b : Bytes) : Option String :=
  String.fromUTF8? ⟨b.toArray⟩

/-- A text is read back from its bytes. -/
theorem toText?_ofText (s : String) : toText? (ofText s) = some s := by
  have h : (ByteArray.mk (ofText s).toArray) = s.toUTF8 := by simp [ofText]
  rw [toText?, h, String.fromUTF8?, String.toUTF8_eq_toByteArray, dif_pos s.isValidUTF8]
  rfl

/-- Only its own bytes encode a text. -/
theorem ofText_of_toText? {b : Bytes} {s : String} (h : toText? b = some s) : ofText s = b := by
  unfold toText? String.fromUTF8? at h
  split at h
  · obtain rfl := Option.some.inj h
    rfl
  · cases h

/-- Where bytes stop being UTF-8: the number of good bytes before the flaw, and the number of bytes that rule the text
out, or none if the text only breaks off. -/
structure Flaw where
  upTo : Nat
  length : Option Nat
  deriving DecidableEq, Repr

namespace Flaw

/-- The flaw in words. -/
def message (f : Flaw) : String :=
  match f.length with
  | some n => "invalid utf-8 sequence of " ++ toString n ++ " bytes from index " ++ toString f.upTo
  | none => "incomplete utf-8 byte sequence from index " ++ toString f.upTo

end Flaw

/-- Whether the byte continues a character. -/
def isTail (b : UInt8) : Bool :=
  0x80 ≤ b && b ≤ 0xbf

/-- The range of the second byte of a character of three or four bytes, after its first byte. -/
def secondRange (first : UInt8) : UInt8 × UInt8 :=
  if first = 0xe0 then (0xa0, 0xbf)
  else if first = 0xed then (0x80, 0x9f)
  else if first = 0xf0 then (0x90, 0xbf)
  else if first = 0xf4 then (0x80, 0x8f)
  else (0x80, 0xbf)

/-- The first flaw of the bytes, which follow `n` good ones. -/
def flawFrom (n : Nat) : Bytes → Option Flaw
  | [] => none
  | a :: rest =>
    if a < 0x80 then flawFrom (n + 1) rest
    else if 0xc2 ≤ a && a ≤ 0xdf then
      match rest with
      | [] => some ⟨n, none⟩
      | b :: rest => if isTail b then flawFrom (n + 2) rest else some ⟨n, some 1⟩
    else if 0xe0 ≤ a && a ≤ 0xef then
      match rest with
      | [] => some ⟨n, none⟩
      | b :: rest =>
        if !((secondRange a).1 ≤ b && b ≤ (secondRange a).2) then some ⟨n, some 1⟩
        else match rest with
          | [] => some ⟨n, none⟩
          | c :: rest => if isTail c then flawFrom (n + 3) rest else some ⟨n, some 2⟩
    else if 0xf0 ≤ a && a ≤ 0xf4 then
      match rest with
      | [] => some ⟨n, none⟩
      | b :: rest =>
        if !((secondRange a).1 ≤ b && b ≤ (secondRange a).2) then some ⟨n, some 1⟩
        else match rest with
          | [] => some ⟨n, none⟩
          | c :: rest =>
            if !isTail c then some ⟨n, some 2⟩
            else match rest with
              | [] => some ⟨n, none⟩
              | d :: rest => if isTail d then flawFrom (n + 4) rest else some ⟨n, some 3⟩
    else some ⟨n, some 1⟩

/-- The first flaw of the bytes, if they are not UTF-8. -/
def flaw (b : Bytes) : Option Flaw :=
  flawFrom 0 b

/-- The characters of bytes that need not be UTF-8, as far as so many rounds go: what rules the text out is replaced by a
mark, once for each flaw. -/
def mendedWithin : Nat → Bytes → List Char
  | 0, _ => []
  | rounds + 1, b =>
    match b.flaw with
    | none => (b.toText?.getD "").toList
    | some f =>
      let rest := match f.length with
        | none => []
        | some n => mendedWithin rounds (b.drop (f.upTo + n))
      ((toText? (b.take f.upTo)).getD "").toList ++ '\ufffd' :: rest

/-- The text of bytes that need not be UTF-8; every flaw takes a byte at least. -/
def toMendedText (b : Bytes) : String :=
  String.ofList (mendedWithin (b.length + 1) b)

end Bytes

end MessageBus
