import MessageBus.Text.Lowercase
/-!
# Lower case once and for all

Lower case is its own lower case (`lowercase_lowercase`): what stands in it are characters that go to themselves. For
those of the table of runs that is a fact about the table, in which no run gives a character that a run changes.
-/

namespace MessageBus.Text

namespace CaseRun

/-- The run changes the character of this number. -/
def Changes (r : CaseRun) (n : Nat) : Prop :=
  r.first ≤ n ∧ n ≤ r.last ∧ (n - r.first) % r.step = 0

instance (r : CaseRun) (n : Nat) : Decidable (r.Changes n) :=
  inferInstanceAs (Decidable (r.first ≤ n ∧ n ≤ r.last ∧ (n - r.first) % r.step = 0))

/-- The run gives no character that the other one changes: all that it gives come before the other run, or after it, or
fall between its characters. -/
def ApartFrom (r r' : CaseRun) : Bool :=
  (r.lower + (r.last - r.first)).blt r'.first || r'.last.blt r.lower ||
    (r'.step == 2 && (r.step == 2 || r.first == r.last) && r.lower % 2 != r'.first % 2)

/-- What the run gives are characters that go to themselves. -/
def Settles (r : CaseRun) : Bool :=
  (r.lower + (r.last - r.first) < 0xd800 || 0xe000 ≤ r.lower && r.lower + (r.last - r.first) < 0x110000) &&
    (0x80 ≤ r.lower || r.first == r.last && r.lower == 0x6b) &&
    r.ApartFrom ⟨0x130, 0x130, 1, 0⟩ && caseRuns.toList.all (r.ApartFrom ·)

theorem not_changes_of_apartFrom {r r' : CaseRun} (h : r.ApartFrom r' = true) {n : Nat} (hn : r.Changes n) :
    ¬r'.Changes (r.lower + (n - r.first)) := by
  obtain ⟨hfirst, hlast, hstep⟩ := hn
  rintro ⟨hfirst', hlast', hstep'⟩
  simp only [ApartFrom, Bool.or_eq_true, Bool.and_eq_true, Nat.blt_eq, beq_iff_eq, bne_iff_ne] at h
  rcases h with (h | h) | ⟨⟨htwo, h⟩, hparity⟩
  · omega
  · omega
  · rw [htwo] at hstep'
    rcases h with htwo' | heq
    · rw [htwo'] at hstep
      omega
    · omega

end CaseRun

theorem settles_caseRuns {r : CaseRun} (h : r ∈ caseRuns.toList) : r.Settles = true := by
  have hall : caseRuns.toList.all CaseRun.Settles = true := by decide +kernel
  exact List.all_eq_true.1 hall r h

/-- A character that is its own lower-case form. -/
def Low (c : Char) : Prop := lowerChar c = [c]

instance (c : Char) : Decidable (Low c) := inferInstanceAs (Decidable (lowerChar c = [c]))

/-- The one character whose form depends on its place is none of these. -/
theorem Low.ne_sigma {c : Char} (h : Low c) : c ≠ 'Σ' := by
  rintro rfl
  revert h
  decide +kernel

theorem low_of_lt {c : Char} (h : c.toNat < 0x80) : Low c.toLower := by
  have hall : ∀ n : Fin 0x80, (Char.ofNat n).toLower.toNat < 0x80 ∧
      (Char.ofNat n).toLower.toLower = (Char.ofNat n).toLower := by decide
  obtain ⟨hlt, hlower⟩ := hall ⟨c.toNat, h⟩
  rw [Char.ofNat_toNat] at hlt hlower
  rw [Low, lowerChar, if_pos hlt, hlower]

/-- A character outside ASCII that no run changes. -/
theorem low_of_not_changes {c : Char} (h : 0x80 ≤ c.toNat) (hne : c.toNat ≠ 0x130)
    (hruns : ∀ r ∈ caseRuns.toList, ¬r.Changes c.toNat) : Low c := by
  have hnone : (caseRuns.find? fun r => r.first ≤ c.toNat && c.toNat ≤ r.last && (c.toNat - r.first) % r.step == 0)
      = none := by
    refine Array.find?_eq_none.2 fun r hr hc => hruns r (Array.mem_toList_iff.2 hr) ?_
    simpa [CaseRun.Changes, and_assoc] using hc
  rw [Low, lowerChar, if_neg (Nat.not_lt.2 h), if_neg hne, hnone]

theorem low_dot : Low '\u0307' := low_of_not_changes (by decide) (by decide) (by decide +kernel)

theorem low_sigma : Low 'σ' := low_of_not_changes (by decide) (by decide) (by decide +kernel)

theorem low_final_sigma : Low 'ς' := low_of_not_changes (by decide) (by decide) (by decide +kernel)

/-- What a run gives for a character that it changes. -/
theorem low_of_changes {r : CaseRun} (hr : r ∈ caseRuns.toList) {n : Nat} (hn : r.Changes n) :
    Low (Char.ofNat (r.lower + (n - r.first))) := by
  have hsettles := settles_caseRuns hr
  simp only [CaseRun.Settles, Bool.and_eq_true, Bool.or_eq_true, decide_eq_true_eq, beq_iff_eq, List.all_eq_true] at hsettles
  obtain ⟨⟨⟨hvalid, hascii⟩, hdotted⟩, hapart⟩ := hsettles
  obtain ⟨hfirst, hlast, -⟩ := id hn
  have hnumber : (Char.ofNat (r.lower + (n - r.first))).toNat = r.lower + (n - r.first) := by
    have hchar : (r.lower + (n - r.first)).isValidChar := by
      unfold Nat.isValidChar
      omega
    rw [Char.ofNat, dif_pos hchar]
    rfl
  rcases hascii with hge | ⟨hone, hkelvin⟩
  · refine low_of_not_changes (by omega) ?_ fun r' hr' => ?_
    · rw [hnumber]
      intro heq
      refine CaseRun.not_changes_of_apartFrom hdotted hn ?_
      rw [heq]
      exact ⟨Nat.le_refl _, Nat.le_refl _, rfl⟩
    · rw [hnumber]
      exact CaseRun.not_changes_of_apartFrom (hapart r' hr') hn
  · have heq : r.lower + (n - r.first) = 0x6b := by omega
    rw [heq]
    decide

theorem low_lowerChar (c : Char) : ∀ x ∈ lowerChar c, Low x := by
  unfold lowerChar
  split
  · rename_i hlt
    simpa using low_of_lt hlt
  · rename_i hge
    split
    · exact List.forall_mem_cons.2 ⟨by decide, List.forall_mem_singleton.2 low_dot⟩
    · rename_i hne
      split
      · rename_i r hfind
        have hchanges := Array.find?_some hfind
        simp only [Bool.and_eq_true, decide_eq_true_eq, beq_iff_eq, and_assoc] at hchanges
        simpa using low_of_changes (Array.mem_toList_iff.2 (Array.mem_of_find?_eq_some hfind)) hchanges
      · rename_i hnone
        refine List.forall_mem_singleton.2 (low_of_not_changes (Nat.not_lt.1 hge) hne fun r hr hc => ?_)
        exact Array.find?_eq_none.1 hnone r (Array.mem_toList_iff.1 hr) (by simpa [CaseRun.Changes, and_assoc] using hc)

theorem low_lowerFrom (before cs : List Char) : ∀ x ∈ lowerFrom before cs, Low x := by
  induction cs generalizing before with
  | nil => exact fun x hx => absurd hx List.not_mem_nil
  | cons c cs ih =>
    intro x hx
    unfold lowerFrom at hx
    rcases List.mem_append.1 hx with hx | hx
    · split at hx
      · split at hx
        · exact List.mem_singleton.1 hx ▸ low_final_sigma
        · exact List.mem_singleton.1 hx ▸ low_sigma
      · exact low_lowerChar c x hx
    · exact ih (c :: before) x hx

theorem lowerFrom_eq_self {cs : List Char} (h : ∀ c ∈ cs, Low c) (before : List Char) : lowerFrom before cs = cs := by
  induction cs generalizing before with
  | nil => rfl
  | cons c cs ih =>
    obtain ⟨hc, hcs⟩ := List.forall_mem_cons.1 h
    rw [lowerFrom, ih hcs]
    simp only [if_neg hc.ne_sigma]
    rw [hc]
    rfl

/-- Lower case of lower case changes nothing. -/
@[simp] theorem lowercase_lowercase (s : String) : lowercase (lowercase s) = lowercase s := by
  unfold lowercase
  rw [String.toList_ofList, lowerFrom_eq_self (low_lowerFrom [] s.toList)]

end MessageBus.Text
