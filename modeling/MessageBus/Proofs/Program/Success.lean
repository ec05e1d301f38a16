import MessageBus.Proofs.Program.Interrupted
/-!
# Programs that come to a good end

`Program.Yields` says of a program that it ends in a certain way in its surroundings, whatever has happened before each
of its requests. So it is closed under what programs are made of: one program after another (`Program.Yields.bind`), and
a program that gives way to a token (`Program.Yields.interruptible`), where no race is lost. `Attempt.Works` is the case
of an attempt that succeeds.
-/

namespace MessageBus

namespace Program

variable {α β : Type} {w : Surroundings} {ends : α → Prop}

/-- In the surroundings the program ends so, whatever came before each of its requests. -/
def Yields (w : Surroundings) (ends : α → Prop) : Program α → Prop
  | done a => ends a
  | ask r k => ∀ past, (k (w.reply past r)).Yields w ends
  | race t r k => ∀ past, (k (w.race past t r)).Yields w ends

namespace Yields

theorem bind {p : Program α} {f : α → Program β} {ends' : β → Prop} (hp : p.Yields w ends)
    (hf : ∀ a, ends a → (f a).Yields w ends') : (p >>= f).Yields w ends' := by
  induction p with
  | done a => exact hf a hp
  | ask r k ih => exact fun past => ih _ (hp past)
  | race t r k ih => exact fun past => ih _ (hp past)

/-- The end of a run. -/
theorem result {p : Program α} (hp : p.Yields w ends) (past : List Step) : ends (p.runAfter w past).result := by
  induction p generalizing past with
  | done a => exact hp
  | ask r k ih => exact ih _ (hp past) _
  | race t r k ih => exact ih _ (hp past) _

/-- A program that loses no race is not cut short. -/
theorem interruptible (hw : ∀ past t r, w.race past t r = some (w.reply past r)) {t : TokenId} {held : List Cell}
    {p : Program α} (hp : p.Yields w ends) :
    (interruptibleFrom t held p).Yields w fun o => ∃ a, o = some a ∧ ends a := by
  induction p generalizing held with
  | done a => exact ⟨a, rfl, hp⟩
  | ask r k ih =>
    cases hr : r.canWait with
    | true =>
      rw [interruptibleFrom_waits hr]
      intro past
      rw [hw]
      exact ih _ (hp past)
    | false =>
      rw [interruptibleFrom_asks hr]
      exact fun past => ih _ (hp past)
  | race u r k ih => exact fun past => ih _ (hp past)

end Yields

end Program

namespace Attempt

variable {α β : Type} {w : Surroundings}

/-- In the surroundings the attempt succeeds. -/
def Works (w : Surroundings) (a : Attempt α) : Prop := a.run.Yields w fun r => ∃ x, r = .ok x

/-- An attempt that succeeds, and another after it. -/
theorem works_bind {a : Attempt α} {f : α → Attempt β} (ha : a.Works w) (hf : ∀ x, (f x).Works w) :
    (a >>= f).Works w := by
  unfold Works
  rw [ExceptT.run_bind]
  refine ha.bind ?_
  rintro _ ⟨x, rfl⟩
  exact hf x

/-- An attempt that succeeds, and another that would also deal with its fault. -/
theorem works_result_bind {a : Attempt α} {f : Except Fault α → Attempt β} (ha : a.Works w)
    (hf : ∀ x, (f (.ok x)).Works w) : (a.result >>= f).Works w := by
  unfold Works
  rw [Attempt.result, ExceptT.run_bind]
  have hlift : (lift a.run).run.Yields w fun r => ∃ x, r = .ok (.ok x) := by
    change (Except.ok <$> a.run).Yields w _
    rw [map_eq_pure_bind]
    refine ha.bind ?_
    rintro _ ⟨x, rfl⟩
    exact ⟨x, rfl⟩
  refine hlift.bind ?_
  rintro _ ⟨x, rfl⟩
  exact hf x

/-- A request, and an attempt that succeeds with any reply to it. -/
theorem works_request_bind {r : Request} {f : r.Reply → Attempt α} (h : ∀ past, (f (w.reply past r)).Works w) :
    ((liftM (Program.request r) : Attempt r.Reply) >>= f).Works w :=
  fun past => h past

theorem works_call {c : ChannelId} {x : Call} (h : ∀ past, w.reply past (.call c x) = .ok ()) :
    (call c x).Works w := fun past => ⟨(), h past⟩

end Attempt

end MessageBus
