import MessageBus.Proofs.Program.Abiding
/-!
# Nobody waits in a circle

Cells are locked in the order of their ranks. So whoever waits for a cell waits, from one cell to the next, for somebody
who waits for no cell, and who can be replied to (`System.exists_next_of_asks`).
-/

namespace MessageBus

theorem Cell.rank_lt (c : Cell) : c.rank < 4 := by
  cases c <;> decide

/-- An actor that has a cell locked has locked it in a step of its own. -/
theorem Agreement.Observed.locked {A : Agreement} {past : List Happening} {a : Actor} {c : Cell} (h : A.Observed past)
    (hc : holderIn past c = some a) : ∃ s, .took a s ∈ past ∧ s.request = .lock c := by
  by_contra hnone
  have hon : A.Onward a (fun r => r ≠ .lock c) [] past :=
    ⟨h, past, rfl, fun s hs hr => hnone ⟨s, hs, hr⟩⟩
  exact hon.holder_ne (by simp) (by simp [holderIn]) hc

namespace System

variable {α : Type} {σ : System α}

/-- One of the callers can go on, without being told that a channel can be used. -/
def CanGo (σ : System α) : Prop :=
  ∃ n s σ', σ.Next (.took (.caller n) s) σ' ∧ ∀ c, s.done? ≠ some ⟨.isOpen c, true⟩

/-- A caller that waits for a reply can be given one, if that is not a cell that is locked, nor the end of tasks. -/
theorem Asks.canGo {n : Nat} {r : Request} (h : σ.Asks n r) (hlock : ∀ c, r = .lock c → σ.holder c = none)
    (hjoin : ∀ tasks, r ≠ .join tasks) : σ.CanGo := by
  obtain ⟨x, hcan, hnew, hopen⟩ : ∃ x, σ.CanReply r x ∧ (∀ y, r.makes? x = some y → y ∉ σ.known) ∧
      ∀ c, (⟨r, x⟩ : (r : Request) × r.Reply) ≠ ⟨.isOpen c, true⟩ := by
    by_cases hr : ∃ c, r = .lock c
    · obtain ⟨c, rfl⟩ := hr
      exact ⟨σ.cells c, ⟨hlock c rfl, rfl⟩, nothing_new rfl, nofun⟩
    · exact σ.exists_reply (fun c heq => hr ⟨c, heq⟩) hjoin
  have hdone : ∀ c, some (⟨r, x⟩ : (r : Request) × r.Reply) ≠ some ⟨.isOpen c, true⟩ := fun c heq =>
    hopen c (Option.some.inj heq)
  obtain ⟨q, hq, hr⟩ := h
  cases q with
  | done y => cases hr
  | ask r' k =>
    cases hr
    exact ⟨n, _, _, .called x hq hcan hnew, hdone⟩
  | race t r' k =>
    cases hr
    exact ⟨n, _, _, .called_racing x hq hcan hnew, hdone⟩

/-- Where whoever has a cell locked, of rank `m` or above, is a caller that waits for a reply and not for tasks, a cell of
that rank is free or somebody can go on. -/
theorem free_or_canGo {A : Agreement} {m : Nat} (hholder : σ.holder = holderIn σ.past)
    (hheld : ∀ c a, m ≤ c.rank → holderIn σ.past c = some a →
      ∃ n r, a = .caller n ∧ σ.Asks n r ∧ A.MayAsk σ.past a r ∧ ∀ tasks, r ≠ .join tasks)
    (c : Cell) (hc : m ≤ c.rank) : σ.holder c = none ∨ σ.CanGo := by
  -- on the cells of higher ranks, of which there are ever fewer
  induction hk : 4 - c.rank using Nat.strongRecOn generalizing c with
  | _ k ih =>
    cases hfree : σ.holder c with
    | none => exact .inl rfl
    | some a =>
      rw [hholder] at hfree
      obtain ⟨n, r, rfl, hasks, hmay, hjoin⟩ := hheld c a hc hfree
      by_cases hgo : σ.CanGo
      · exact .inr hgo
      refine .inr (hasks.canGo (fun c' hr => ?_) hjoin)
      have hlt := hmay.locks c' hr c hfree
      have hlt' := c.rank_lt
      exact (ih (4 - c'.rank) (by omega) c' (by omega) rfl).resolve_right hgo

/-- Whoever waits for something but the end of tasks, and for no cell of rank below `m`, can go on, or somebody else
can. -/
theorem exists_next_of_asks {A : Agreement} {m : Nat} (hholder : σ.holder = holderIn σ.past)
    (hheld : ∀ c a, m ≤ c.rank → holderIn σ.past c = some a →
      ∃ n r, a = .caller n ∧ σ.Asks n r ∧ A.MayAsk σ.past a r ∧ ∀ tasks, r ≠ .join tasks)
    {n : Nat} {r : Request} (h : σ.Asks n r) (hjoin : ∀ tasks, r ≠ .join tasks)
    (hlock : ∀ c, r = .lock c → m ≤ c.rank) : σ.CanGo := by
  by_cases hgo : σ.CanGo
  · exact hgo
  · exact h.canGo (fun c hr => (free_or_canGo hholder hheld c (hlock c hr)).resolve_right hgo) hjoin

end System

end MessageBus
