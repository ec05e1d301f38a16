import MessageBus.Address.Percent
import MessageBus.Proofs.Json.Quoted
/-!
# What escapes stand for

Characters stand for their own bytes if and only if no escape is among them: every escape makes the bytes fewer
(`length_percentDecode_lt`), so that no other text can come out at the same length.
-/

namespace MessageBus.Address

variable {cs : List Char} {c : Char}

/-- Somewhere among the characters a percent sign stands before two hexadecimal digits. -/
def HasEscape (cs : List Char) : Prop :=
  ∃ a b, (escapedByte? a b).isSome ∧ ['%', a, b] <:+: cs

theorem HasEscape.cons (h : HasEscape cs) (c : Char) : HasEscape (c :: cs) := by
  obtain ⟨a, b, hbyte, hin⟩ := h
  exact ⟨a, b, hbyte, hin.trans (List.suffix_cons c cs).isInfix⟩

theorem hasEscape_cons :
    HasEscape (c :: cs) ↔ (c = '%' ∧ ∃ a b rest, cs = a :: b :: rest ∧ (escapedByte? a b).isSome) ∨ HasEscape cs := by
  constructor
  · rintro ⟨a, b, hbyte, hin⟩
    rcases List.infix_cons_iff.1 hin with ⟨rest, hprefix⟩ | hin
    · obtain ⟨rfl, rfl⟩ := List.cons.inj hprefix
      exact .inl ⟨rfl, a, b, rest, rfl, hbyte⟩
    · exact .inr ⟨a, b, hbyte, hin⟩
  · rintro (⟨rfl, a, b, rest, rfl, hbyte⟩ | h)
    · exact ⟨a, b, hbyte, (List.prefix_append ['%', a, b] rest).isInfix⟩
    · exact h.cons c

theorem not_hasEscape_nil : ¬HasEscape [] := by
  rintro ⟨a, b, -, hin⟩
  exact absurd (List.infix_nil.1 hin) nofun

theorem not_hasEscape_of_not_mem (h : '%' ∉ cs) : ¬HasEscape cs := by
  rintro ⟨a, b, -, hin⟩
  exact h (hin.subset List.mem_cons_self)

theorem ofText_cons (c : Char) (cs : List Char) :
    Bytes.ofText (String.ofList (c :: cs)) =
      Bytes.ofText (String.singleton c) ++ Bytes.ofText (String.ofList cs) := by
  rw [Bytes.ofText_ofList, Bytes.ofText_ofList, Bytes.ofText_singleton, List.flatMap_cons]

/-- A character with which no escape begins stands for its own bytes. -/
theorem percentDecode_cons (h : c = '%' → ∀ a b rest, cs = a :: b :: rest → escapedByte? a b = none) :
    percentDecode (c :: cs) = Bytes.ofText (String.singleton c) ++ percentDecode cs := by
  by_cases hc : c = '%'
  case neg => rw [percentDecode.eq_2 _ _ fun a b rest hpercent _ => hc hpercent]
  subst hc
  match cs with
  | a :: b :: rest => rw [percentDecode, h rfl a b rest rfl]; rfl
  | [_] | [] => rw [percentDecode.eq_2 _ _ (by simp)]

/-! ## Characters without escapes -/

theorem percentDecode_of_not_hasEscape (h : ¬HasEscape cs) : percentDecode cs = Bytes.ofText (String.ofList cs) := by
  induction cs with
  | nil => rfl
  | cons c cs ih =>
    rw [hasEscape_cons, not_or] at h
    rw [percentDecode_cons, ih h.2, ofText_cons]
    rintro rfl a b rest rfl
    exact Option.not_isSome_iff_eq_none.1 fun hbyte => h.1 ⟨rfl, a, b, rest, rfl, hbyte⟩

/-! ## The number of bytes -/

theorem length_ofText_cons (c : Char) (cs : List Char) :
    (Bytes.ofText (String.ofList (c :: cs))).length = c.utf8Size + (Bytes.ofText (String.ofList cs)).length := by
  rw [ofText_cons, List.length_append, Bytes.ofText_singleton, String.length_utf8EncodeChar]

/-- What an escape stands for is shorter than the escape. -/
theorem length_ofText_escape (a b : Char) (rest : List Char) :
    (Bytes.ofText (String.ofList rest)).length + 3 ≤
      (Bytes.ofText (String.ofList ('%' :: a :: b :: rest))).length := by
  have ha := a.utf8Size_pos
  have hb := b.utf8Size_pos
  simp only [length_ofText_cons, show ('%').utf8Size = 1 from rfl]
  omega

theorem length_percentDecode_le (cs : List Char) :
    (percentDecode cs).length ≤ (Bytes.ofText (String.ofList cs)).length := by
  fun_induction percentDecode cs with
  | case1 a b rest x hbyte ih =>
    have hescape := length_ofText_escape a b rest
    rw [List.length_cons]
    omega
  | case2 a b rest hbyte ih =>
    rw [length_ofText_cons, List.length_cons, show ('%').utf8Size = 1 from rfl]
    omega
  | case3 c rest _ ih =>
    rw [ofText_cons, List.length_append, List.length_append]
    omega
  | case4 => exact Nat.le_refl _

theorem length_percentDecode_lt (h : HasEscape cs) :
    (percentDecode cs).length < (Bytes.ofText (String.ofList cs)).length := by
  fun_induction percentDecode cs with
  | case1 a b rest x hbyte ih =>
    have hescape := length_ofText_escape a b rest
    have hle := length_percentDecode_le rest
    rw [List.length_cons]
    omega
  | case2 a b rest hbyte ih =>
    have hrest : HasEscape (a :: b :: rest) := by
      rcases hasEscape_cons.1 h with ⟨-, a', b', rest', heq, hbyte'⟩ | h
      · simp only [List.cons.injEq] at heq
        obtain ⟨rfl, rfl, -⟩ := heq
        simp [hbyte] at hbyte'
      · exact h
    have hlt := ih hrest
    rw [length_ofText_cons, List.length_cons, show ('%').utf8Size = 1 from rfl]
    omega
  | case3 c rest hno ih =>
    have hrest : HasEscape rest := by
      rcases hasEscape_cons.1 h with ⟨rfl, a, b, rest', rfl, -⟩ | h
      · exact absurd rfl (hno a b rest' rfl)
      · exact h
    have hlt := ih hrest
    rw [ofText_cons, List.length_append, List.length_append]
    omega
  | case4 => exact absurd h not_hasEscape_nil

/-- Characters stand for their own bytes if and only if there is no escape among them. -/
theorem percentDecode_eq_ofText_iff : percentDecode cs = Bytes.ofText (String.ofList cs) ↔ ¬HasEscape cs :=
  ⟨fun heq h => Nat.ne_of_lt (length_percentDecode_lt h) (congrArg List.length heq), percentDecode_of_not_hasEscape⟩

end MessageBus.Address
