import Mathlib.Tactic.SplitIfs
import MessageBus.Proofs.Json.Reading
/-!
# Strings are read back

Whatever characters a string has, its quoted form is read as that string: a character stands for itself, or is escaped
by a letter or by its number (`escapeChar_cases`), and each of the three is decoded to the character's bytes
(`decodeString_escapeChar`).
-/

namespace MessageBus

open String (utf8EncodeChar)

namespace Bytes

/-- The bytes of a text are those of its characters. -/
theorem ofText_ofList (cs : List Char) : ofText (String.ofList cs) = cs.flatMap utf8EncodeChar := by
  simp [ofText, List.utf8Encode]

theorem ofText_singleton (c : Char) : ofText (String.singleton c) = utf8EncodeChar c := by
  simp [ofText, List.utf8Encode]

theorem utf8EncodeChar_of_lt {c : Char} (h : c.toNat < 0x80) : utf8EncodeChar c = [UInt8.ofNat c.toNat] := by
  unfold utf8EncodeChar
  exact if_pos (Nat.le_of_lt_succ h)

/-- A character above the first 128 has no byte in common with them. -/
theorem le_of_mem_utf8EncodeChar {c : Char} (h : 0x80 ≤ c.toNat) : ∀ b ∈ utf8EncodeChar c, 0x80 ≤ b := by
  -- a byte is a mark of at least so much, with a few bits of the character below it
  have hmarked (n m : Nat) (hn : n + m < 256) (hm : 0x80 ≤ m) : (0x80 : UInt8) ≤ UInt8.ofNat (n + m) := by
    rw [UInt8.le_iff_toNat_le, UInt8.toNat_ofNat_of_lt' hn]
    exact Nat.le_add_left_of_le hm
  fun_cases utf8EncodeChar c with
  | case1 v hone =>
    have hc : c.toNat ≤ 0x7f := hone
    omega
  | case2 v | case3 v | case4 v =>
    intro b hb
    simp only [List.mem_cons, List.not_mem_nil, or_false] at hb
    rcases hb with rfl | rfl | rfl | rfl <;> exact hmarked _ _ (by omega) (by omega)

end Bytes

namespace Json

/-! ## How a character is written -/

/-- A byte that stands for itself inside a string. -/
def Plain (b : UInt8) : Prop := 0x20 ≤ b ∧ b ≠ 0x22 ∧ b ≠ 0x5c

theorem plain_of_mem {c : Char} (hquote : c ≠ '"') (hslash : c ≠ '\\') (hlow : ' ' ≤ c) :
    ∀ b ∈ utf8EncodeChar c, Plain b := by
  intro b hb
  have hlow : 0x20 ≤ c.toNat := hlow
  by_cases hascii : c.toNat < 0x80
  · rw [Bytes.utf8EncodeChar_of_lt hascii, List.mem_singleton] at hb
    have hb : b.toNat = c.toNat := by rw [hb, UInt8.toNat_ofNat_of_lt' (Nat.lt_trans hascii (by decide))]
    refine ⟨UInt8.le_iff_toNat_le.2 (hb ▸ hlow), ?_, ?_⟩
    · rintro rfl
      exact hquote (Char.toNat_inj.1 hb.symm)
    · rintro rfl
      exact hslash (Char.toNat_inj.1 hb.symm)
  · have hhigh := UInt8.le_iff_toNat_le.1 (Bytes.le_of_mem_utf8EncodeChar (by omega) b hb)
    refine ⟨UInt8.le_iff_toNat_le.2 (Nat.le_trans (by decide) hhigh), ?_, ?_⟩ <;>
      rintro rfl <;> exact absurd hhigh (by decide)

theorem utf8EncodeChar_hexDigit : ∀ k < 16, utf8EncodeChar (hexDigit k) = [UInt8.ofNat (hexDigit k).toNat] := by
  decide

/-- A control's number is read as it is written. -/
theorem hexValue4?_hexDigit : ∀ k < 0x20, hexValue4? 0x30 0x30 (UInt8.ofNat (hexDigit (k / 16)).toNat)
    (UInt8.ofNat (hexDigit (k % 16)).toNat) = some k := by
  decide

/-- A character is written as it is, as an escape by a letter, or as one by its number. -/
theorem escapeChar_cases (c : Char) :
    (escapeChar c = [c] ∧ ∀ b ∈ utf8EncodeChar c, Plain b) ∨
      (∃ letter e, (escapeChar c).flatMap utf8EncodeChar = [0x5c, letter] ∧ shortEscape? letter = some e ∧
        utf8EncodeChar c = [e]) ∨
      (∃ a b, (escapeChar c).flatMap utf8EncodeChar = [0x5c, 0x75, 0x30, 0x30, a, b] ∧
        hexValue4? 0x30 0x30 a b = some c.toNat ∧ c.toNat < 0x20) := by
  unfold escapeChar
  split_ifs with hquote hslash hlow hb ht hn hf hr
  · exact .inr (.inl ⟨0x22, 0x22, rfl, rfl, by rw [hquote]; rfl⟩)
  · exact .inr (.inl ⟨0x5c, 0x5c, rfl, rfl, by rw [hslash]; rfl⟩)
  · exact .inl ⟨rfl, plain_of_mem hquote hslash hlow⟩
  · exact .inr (.inl ⟨0x62, 0x08, rfl, rfl, by rw [hb]; rfl⟩)
  · exact .inr (.inl ⟨0x74, 0x09, rfl, rfl, by rw [ht]; rfl⟩)
  · exact .inr (.inl ⟨0x6e, 0x0a, rfl, rfl, by rw [hn]; rfl⟩)
  · exact .inr (.inl ⟨0x66, 0x0c, rfl, rfl, by rw [hf]; rfl⟩)
  · exact .inr (.inl ⟨0x72, 0x0d, rfl, rfl, by rw [hr]; rfl⟩)
  · have hk : c.toNat < 0x20 := Nat.lt_of_not_le hlow
    refine .inr (.inr ⟨_, _, ?_, hexValue4?_hexDigit c.toNat hk, hk⟩)
    simp only [List.flatMap_cons, List.flatMap_nil, utf8EncodeChar_hexDigit _ (show c.toNat / 16 < 16 by omega),
      utf8EncodeChar_hexDigit _ (show c.toNat % 16 < 16 by omega)]
    rfl

/-! ## How it is decoded -/

section
variable (n : Nat) (taken rest : Bytes)

theorem decodeString_plain {b : UInt8} (h : Plain b) :
    decodeString n taken (b :: rest) = decodeString (n + 1) (b :: taken) rest := by
  obtain ⟨hlow, hquote, hslash⟩ := h
  have hcontrol : ¬b < 0x20 := UInt8.not_lt.2 hlow
  rw [decodeString, if_neg hcontrol]
  all_goals simp_all

theorem decodeString_letter {b e : UInt8} (h : shortEscape? b = some e) :
    decodeString n taken (0x5c :: b :: rest) = decodeString (n + 2) (e :: taken) rest := by
  have hu : b ≠ 0x75 := by
    rintro rfl
    cases h
  rw [decodeString, h]
  all_goals simp_all

/-- The number of a character below the halves of pairs. -/
theorem decodeString_number {a b c d : UInt8} {u : Nat} (h : hexValue4? a b c d = some u) (hu : u < 0xd800) :
    decodeString n taken (0x5c :: 0x75 :: a :: b :: c :: d :: rest) =
      decodeString (n + 6) (codePointReversed u ++ taken) rest := by
  have hlow : ¬(0xdc00 ≤ u ∧ u ≤ 0xdfff) := by omega
  rw [decodeString, h]
  simp only [hlow, hu, true_or, if_true, if_false]

end

theorem decodeString_plains {plain : Bytes} (h : ∀ b ∈ plain, Plain b) (n : Nat) (taken rest : Bytes) :
    decodeString n taken (plain ++ rest) = decodeString (n + plain.length) (plain.reverse ++ taken) rest := by
  induction plain generalizing n taken with
  | nil => rfl
  | cons b plain ih =>
    rw [List.forall_mem_cons] at h
    rw [List.cons_append, decodeString_plain n taken _ h.1, ih h.2 (n + 1) (b :: taken)]
    simp [Nat.add_comm, Nat.add_left_comm]

theorem decodeString_escapeChar (c : Char) (n : Nat) (taken rest : Bytes) :
    decodeString n taken ((escapeChar c).flatMap utf8EncodeChar ++ rest) =
      decodeString (n + ((escapeChar c).flatMap utf8EncodeChar).length) ((utf8EncodeChar c).reverse ++ taken) rest := by
  rcases escapeChar_cases c with ⟨hc, hplain⟩ | ⟨letter, e, hescape, hletter, he⟩ | ⟨a, b, hescape, hnumber, hlow⟩
  · rw [hc, List.flatMap_singleton]
    exact decodeString_plains hplain n taken rest
  · rw [hescape, he]
    exact decodeString_letter n taken rest hletter
  · have hdecoded := decodeString_number n taken rest hnumber (by omega)
    rw [codePointReversed, Char.ofNat_toNat, Bytes.ofText_singleton] at hdecoded
    rw [hescape]
    exact hdecoded

/-- Escaped characters are decoded to the bytes of their text. -/
theorem decodeString_escaped (cs : List Char) (n : Nat) (taken rest : Bytes) :
    decodeString n taken ((cs.flatMap escapeChar).flatMap utf8EncodeChar ++ 0x22 :: rest) =
      .ok (taken.reverse ++ cs.flatMap utf8EncodeChar,
        n + ((cs.flatMap escapeChar).flatMap utf8EncodeChar).length + 1, rest) := by
  induction cs generalizing n taken with
  | nil => simp [decodeString]
  | cons c cs ih =>
    rw [List.flatMap_cons, List.flatMap_append, List.append_assoc, decodeString_escapeChar, ih]
    simp [Nat.add_assoc]

/-! ## Strings as values and as keys -/

/-- The bytes of a string in quotes. -/
def quoteBytes (s : String) : Bytes := (quote s).flatMap utf8EncodeChar

theorem quoteBytes_eq (s : String) :
    quoteBytes s = [0x22] ++ ((s.toList.flatMap escapeChar).flatMap utf8EncodeChar ++ [0x22]) := by
  simp only [quoteBytes, quote, List.flatMap_cons, List.flatMap_append, List.cons_append, List.flatMap_nil,
    List.append_nil]
  rfl

namespace Reader

variable (s : String) (rest : Bytes)

theorem string_reads : string.Reads ((s.toList.flatMap escapeChar).flatMap utf8EncodeChar ++ [0x22]) rest s := by
  intro index
  have hdecoded := decodeString_escaped s.toList index [] rest
  have htext : Bytes.toText? (s.toList.flatMap utf8EncodeChar) = some s := by
    rw [← Bytes.ofText_ofList, String.ofList_toList, Bytes.toText?_ofText]
  rw [List.append_assoc, List.singleton_append, List.length_append, List.length_singleton, ← Nat.add_assoc]
  unfold string
  rw [run_get_bind, hdecoded]
  simp only [List.reverse_nil, List.nil_append, htext]
  rfl

theorem key_reads : key.Reads (quoteBytes s) rest s := by
  rw [quoteBytes_eq]
  exact Passes.trans (fun _ => rfl) (string_reads s rest)

theorem text_reads (expected : String) : (text expected).Reads (quoteBytes s) rest s := by
  rw [quoteBytes_eq]
  exact Passes.trans (fun _ => rfl) (string_reads s rest)

end Reader

end Json

end MessageBus
