import MessageBus.Proofs.Program.Trace
/-!
# Interrupted programs

A program that can be interrupted takes the steps of the program itself, each of those that wait in a race with the
token, up to the first race that it loses. Then it unlocks what it holds, and is over without a result
(`Program.Reaches.of_interruptible`).
-/

namespace MessageBus

/-- The step, as one that gives way to the token if it waits. -/
def Step.under (t : TokenId) : Step → Step
  | asked r x => if r.canWait then raced t r (some x) else asked r x
  | s => s

@[simp] theorem Step.request_under (t : TokenId) (s : Step) : (s.under t).request = s.request := by
  cases s with
  | asked r x =>
    rw [under]
    split <;> rfl
  | raced u r x => rfl

/-- What is noted of requests is noted of an interrupted program as it is of the program itself. -/
theorem noted_map_under {β : Type} (f : Request → Option β) (t : TokenId) (steps : List Step) :
    noted (fun s => f s.request) (steps.map (·.under t)) = noted (fun s => f s.request) steps := by
  unfold noted
  rw [List.filterMap_map]
  refine congrArg (List.filterMap · steps) (funext fun s => ?_)
  exact congrArg f (Step.request_under t s)

namespace Program

variable {α β : Type} {t : TokenId}

section
variable {held : List Cell} {r : Request} {k : r.Reply → Program α} {f : Option α → Program β}

/-- Where it waits, an interruptible program is abandoned if it loses the race. -/
theorem interruptibleFrom_waits (h : r.canWait = true) :
    interruptibleFrom t held (ask r k) = race t r fun
      | some x => interruptibleFrom t (heldAfter held r) (k x)
      | none => unlockAll held >>= fun _ => done none := by
  rw [interruptibleFrom]
  refine (if_pos h).trans (congrArg (race t r) (funext fun x => ?_))
  cases x <;> rfl

theorem interruptibleFrom_asks (h : r.canWait = false) :
    interruptibleFrom t held (ask r k) = ask r fun x => interruptibleFrom t (heldAfter held r) (k x) := by
  rw [interruptibleFrom, h, if_neg Bool.false_ne_true]

/-- The same, with what comes after the interruptible program. -/
theorem waits_then (h : r.canWait = true) : (interruptibleFrom t held (ask r k)).bind f = race t r fun x =>
    (match x with
      | some x => interruptibleFrom t (heldAfter held r) (k x)
      | none => unlockAll held >>= fun _ => done none : Program (Option α)).bind f := by
  rw [interruptibleFrom_waits h]
  refine congrArg (race t r) (funext fun x => ?_)
  cases x <;> rfl

theorem asks_then (h : r.canWait = false) : (interruptibleFrom t held (ask r k)).bind f =
    ask r fun x => (interruptibleFrom t (heldAfter held r) (k x)).bind f := by
  rw [interruptibleFrom_asks h]
  rfl

end

/-- An interruptible program takes a step of the program itself, or loses the race for what it waits for. -/
theorem Takes.of_interruptible {held : List Cell} {p : Program α} {step : Step} {q : Program (Option α)}
    (h : (interruptibleFrom t held p).Takes step q) :
    (∃ own p' held', p.Takes own p' ∧ step = own.under t ∧ q = interruptibleFrom t held' p') ∨
      ∃ r k, p = ask r k ∧ step = .raced t r none ∧ q = unlockAll held >>= fun _ => done none := by
  cases p with
  | done a => exact absurd h Takes.not_done
  | ask r k =>
    cases hr : r.canWait with
    | true =>
      rw [interruptibleFrom_waits hr] at h
      cases h with
      | raced _ _ _ x =>
        cases x with
        | none => exact .inr ⟨r, k, rfl, rfl, rfl⟩
        | some x => exact .inl ⟨.asked r x, k x, _, .asked r k x, by rw [Step.under, if_pos hr], rfl⟩
    | false =>
      rw [interruptibleFrom_asks hr] at h
      cases h with
      | asked _ _ x =>
        exact .inl ⟨.asked r x, k x, _, .asked r k x, by rw [Step.under, hr, if_neg Bool.false_ne_true], rfl⟩
  | race u r k =>
    cases h with
    | raced _ _ _ x => exact .inl ⟨.raced u r x, k x, _, .raced u r k x, rfl, rfl⟩

theorem Reaches.of_interruptible {held : List Cell} {p : Program α} {steps : List Step} {q : Program (Option α)}
    (h : (interruptibleFrom t held p).Reaches steps q) :
    (∃ own p' held', p.Reaches own p' ∧ steps = own.map (·.under t) ∧ q = interruptibleFrom t held' p') ∨
      ∃ own r k held' after, p.Reaches own (ask r k) ∧ steps = own.map (·.under t) ++ .raced t r none :: after ∧
        (unlockAll held' >>= fun _ => done none).Reaches after q := by
  -- on the steps; a step of the program itself leaves an interruptible program
  generalize hm : interruptibleFrom t held p = m at h
  induction h generalizing p held with
  | here => exact .inl ⟨[], p, held, .here p, rfl, hm.symm⟩
  | next hs hrest ih =>
    subst hm
    rcases hs.of_interruptible with ⟨own, p', held', hown, rfl, rfl⟩ | ⟨r, k, rfl, rfl, rfl⟩
    · rcases ih rfl with ⟨owns, p'', held'', hreach, rfl, rfl⟩ | ⟨owns, r, k, held'', after, hreach, rfl, hafter⟩
      · exact .inl ⟨own :: owns, p'', held'', .next hown hreach, rfl, rfl⟩
      · exact .inr ⟨own :: owns, r, k, held'', after, .next hown hreach, rfl, hafter⟩
    · exact .inr ⟨[], r, k, held, _, .here _, rfl, hrest⟩

/-- What a program comes to, it comes to if it can be interrupted, as long as it loses no race. -/
theorem Reaches.under {p q : Program α} {steps : List Step} (h : p.Reaches steps q) (t : TokenId) (held : List Cell) :
    ∃ held', (interruptibleFrom t held p).Reaches (steps.map (·.under t)) (interruptibleFrom t held' q) := by
  induction h generalizing held with
  | here => exact ⟨held, .here _⟩
  | next hs _ ih =>
    cases hs with
    | asked r k x =>
      obtain ⟨held', hrest⟩ := ih (heldAfter held r)
      refine ⟨held', ?_⟩
      rw [List.map_cons, Step.under]
      cases hr : r.canWait with
      | true =>
        rw [interruptibleFrom_waits hr]
        exact .next (.raced t r _ (some x)) hrest
      | false =>
        rw [interruptibleFrom_asks hr]
        exact .next (.asked r _ x) hrest
    | raced u r k x =>
      obtain ⟨held', hrest⟩ := ih (if x.isSome then heldAfter held r else held)
      exact ⟨held', .next (.raced u r _ x) hrest⟩

/-- Unlocking cells is all that the program does. -/
theorem only_unlockAll (held : List Cell) : (unlockAll held).Only fun r => ∃ c, r = .unlock c := by
  induction held with
  | nil => trivial
  | cons c held ih => exact ⟨⟨c, rfl⟩, fun _ => ih⟩

/-- An interruptible program asks for what the program itself asks for, and may unlock cells. -/
theorem Only.interruptible {allowed : Request → Prop} {held : List Cell} {p : Program α} (hp : p.Only allowed)
    (hunlock : ∀ c, allowed (.unlock c)) : (interruptibleFrom t held p).Only allowed := by
  have habandoned : ∀ held, (unlockAll held >>= fun _ => done (none : Option α)).Only allowed := fun held =>
    ((only_unlockAll held).mono fun r ⟨c, hr⟩ => hr ▸ hunlock c).bind fun _ => trivial
  induction p generalizing held with
  | done a => trivial
  | ask r k ih =>
    cases hr : r.canWait with
    | true =>
      rw [interruptibleFrom_waits hr]
      refine ⟨hp.1, fun x => ?_⟩
      cases x with
      | none => exact habandoned held
      | some x => exact ih x (hp.2 x)
    | false =>
      rw [interruptibleFrom_asks hr]
      exact ⟨hp.1, fun x => ih x (hp.2 x)⟩
  | race u r k ih => exact ⟨hp.1, fun x => ih x (hp.2 x)⟩

/-- An interruptible program, to the end: it came to the end of the program itself, or lost a race on the way. -/
theorem Reaches.interruptible_done {p : Program α} {steps : List Step} {o : Option α}
    (h : (interruptible t p).Reaches steps (done o)) :
    (∃ own a, p.Reaches own (done a) ∧ steps = own.map (·.under t) ∧ o = some a) ∨
      ∃ own r k after, p.Reaches own (ask r k) ∧ steps = own.map (·.under t) ++ .raced t r none :: after ∧
        (∀ s ∈ after, ∃ c, s.request = .unlock c) ∧ o = none := by
  rcases h.of_interruptible with ⟨own, p', held', hreach, rfl, hq⟩ | ⟨own, r, k, held', after, hreach, rfl, hafter⟩
  · cases p' with
    | done a =>
      cases hq
      exact .inl ⟨own, a, hreach, rfl, rfl⟩
    | ask r k =>
      cases hr : r.canWait with
      | true => cases hq.trans (interruptibleFrom_waits hr)
      | false => cases hq.trans (interruptibleFrom_asks hr)
    | race u r k => cases hq
  · have honly := (only_unlockAll held').bind (f := fun _ => done (none : Option α)) fun _ => trivial
    obtain ⟨first, _, second, rfl, -, hend⟩ := hafter.bind_done
    obtain ⟨-, ho⟩ := hend.of_done
    cases ho
    exact .inr ⟨own, r, k, _, hreach, rfl, (honly.reaches hafter).1, rfl⟩

end Program

end MessageBus
