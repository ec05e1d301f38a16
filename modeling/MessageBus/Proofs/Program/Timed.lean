import MessageBus.Proofs.Program.Trace
/-!
# Programs by the clock

`Program.timedAfter` runs a program by a clock, which says of each request how long its reply takes and of each token
when it is cancelled. A request is made as soon as the one before it is over. A race is over when its reply comes or
its token is cancelled, whichever is first (`Clock.race`); of two that come in one instant either may have it.

A clock adds nothing to what a program can do: without its instants a timed run is a run like any other
(`Program.exists_run_timedAfter`).
-/

namespace MessageBus

/-- A step, with the instants at which its request was made and at which it was over, in nanoseconds. -/
structure TimedStep where
  made : Nat
  step : Step
  ended : Nat

/-- What replies to a program in view of the steps so far, how long each reply takes, and the instants at which tokens
are cancelled. -/
structure Clock where
  reply : List TimedStep → (r : Request) → r.Reply
  delay : List TimedStep → Request → Duration
  cancelled? : TokenId → Option Nat
  /-- Whether the token has a race in which the reply comes in the instant of the cancellation. -/
  tokenFirst : List TimedStep → Bool
  /-- A timer goes off when it is due. -/
  punctual : ∀ past d, delay past (.sleep d) = d

/-- The steps of a program, what it gives in the end, and when. -/
structure TimedRun (α : Type) where
  steps : List TimedStep
  result : α
  ended : Nat

namespace TimedRun

variable {α : Type}

/-- The run with a step before it. -/
def behind (step : TimedStep) (r : TimedRun α) : TimedRun α := { r with steps := step :: r.steps }

/-- The run without its instants. -/
def untimed (r : TimedRun α) : Run α := ⟨r.steps.map (·.step), r.result⟩

end TimedRun

namespace Clock

variable (w : Clock) (past : List TimedStep) (now : Nat) (t : TokenId) (r : Request)

/-- When the reply comes to a request that is made now. -/
def due : Nat := now + (w.delay past r).nanos

/-- How a race ends that begins now, and when. -/
def race : Option r.Reply × Nat :=
  match w.cancelled? t with
  | none => (some (w.reply past r), w.due past now r)
  | some k =>
    if max now k < w.due past now r ∨ max now k = w.due past now r ∧ w.tokenFirst past then (none, max now k)
    else (some (w.reply past r), w.due past now r)

theorem due_sleep (d : Duration) : w.due past now (.sleep d) = now + d.nanos := by rw [due, w.punctual]

variable {w t}

/-- A race in whose time the token is not cancelled ends with the reply. -/
theorem race_ended_of_reply (h : ∀ k, w.cancelled? t = some k → w.due past now r < k) :
    (w.race past now t r).2 = w.due past now r := by
  unfold race
  cases hk : w.cancelled? t with
  | none => rfl
  | some k =>
    have hlt := h k hk
    have hlate : ¬(max now k < w.due past now r ∨ max now k = w.due past now r ∧ w.tokenFirst past) := by omega
    simp only [if_neg hlate]

/-- A token that was cancelled, or is before the reply is due, ends the race there and then. -/
theorem race_ended_of_cancelled {k : Nat} (hk : w.cancelled? t = some k) (h : k ≤ w.due past now r) :
    (w.race past now t r).2 = max now k := by
  have hnow : now ≤ w.due past now r := Nat.le_add_right now _
  unfold race
  simp only [hk]
  split
  · rfl
  · -- the reply came first, and so in the same instant
    change w.due past now r = max now k
    omega

end Clock

namespace Program

variable {α : Type}

/-- What a program does by the clock after some steps, from an instant on. -/
def timedAfter (w : Clock) : List TimedStep → Nat → Program α → TimedRun α
  | _, now, done a => ⟨[], a, now⟩
  | past, now, ask r k =>
    let step : TimedStep := ⟨now, .asked r (w.reply past r), w.due past now r⟩
    (timedAfter w (past ++ [step]) step.ended (k (w.reply past r))).behind step
  | past, now, race t r k =>
    let step : TimedStep := ⟨now, .raced t r (w.race past now t r).1, (w.race past now t r).2⟩
    (timedAfter w (past ++ [step]) step.ended (k (w.race past now t r).1)).behind step

/-- A program goes one of its ways by the clock. -/
theorem reaches_timedAfter (w : Clock) (past : List TimedStep) (now : Nat) (p : Program α) :
    p.Reaches (p.timedAfter w past now).untimed.steps (done (p.timedAfter w past now).result) := by
  induction p generalizing past now with
  | done a => exact .here _
  | ask r k ih => exact .next (.asked r k _) (ih _ _ _)
  | race t r k ih => exact .next (.raced t r k _) (ih _ _ _)

/-- Whatever a program does by the clock it does in some surroundings. -/
theorem exists_run_timedAfter (w : Clock) (past : List TimedStep) (now : Nat) (p : Program α) :
    ∃ w', p.run w' = (p.timedAfter w past now).untimed :=
  (p.reaches_timedAfter w past now).exists_run

end Program

namespace Attempt

variable {α : Type} {w : Clock} {past : List TimedStep} {now : Nat} {c : ChannelId} {x : Call} {f : Unit → Attempt α}

/-- A refused call ends an attempt in the instant of its answer. -/
theorem timedAfter_call_of_error {e : Fault} (h : w.reply past (.call c x) = .error e) :
    (call c x >>= f).run.timedAfter w past now =
      ⟨[⟨now, .asked (.call c x) (.error e), w.due past now (.call c x)⟩], .error e, w.due past now (.call c x)⟩ := by
  rw [ExceptT.run_bind]
  change Program.timedAfter w past now (.ask (.call c x) _) = _
  rw [Program.timedAfter, h]
  rfl

/-- After a call that worked the rest begins in the instant of its answer. -/
theorem timedAfter_call_of_ok (h : w.reply past (.call c x) = .ok ()) :
    let step : TimedStep := ⟨now, .asked (.call c x) (.ok ()), w.due past now (.call c x)⟩
    (call c x >>= f).run.timedAfter w past now = ((f ()).run.timedAfter w (past ++ [step]) step.ended).behind step := by
  intro step
  rw [ExceptT.run_bind]
  change Program.timedAfter w past now (.ask (.call c x) _) = _
  rw [Program.timedAfter, h]
  rfl

end Attempt

end MessageBus
