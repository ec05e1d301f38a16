import MessageBus.Program.Basic
/-!
# Runs of programs

What replies to a program is anything at all. `Surroundings` are the broker, the clock, the handlers and the other
parts in one: they reply as they like, and know all that was asked and replied before. `Program.run` is what a program
does in its surroundings, step by step. It always ends, so a theorem about every run speaks of every broker, every
handler, and every instant at which a token is cancelled.

`Program.runAfter_bind` takes a run apart at the point where one part of a program hands over to the next, and
`Program.answered` leads each reply of a run back to the surroundings.
-/

namespace MessageBus

/-- A request with its reply. A race has no reply if its token was cancelled first; what it asked for may then have
been begun or not. -/
inductive Step where
  | asked (r : Request) (x : r.Reply)
  | raced (token : TokenId) (r : Request) (x : Option r.Reply)

/-- What replies to a program, in view of the steps so far. -/
structure Surroundings where
  reply : List Step → (r : Request) → r.Reply
  race : List Step → TokenId → (r : Request) → Option r.Reply

/-- The steps of a program, and what it gives in the end. -/
structure Run (α : Type) where
  steps : List Step
  result : α

namespace Run

variable {α : Type}

/-- The run with steps before it. -/
def behind (past : List Step) (r : Run α) : Run α := ⟨past ++ r.steps, r.result⟩

@[simp] theorem result_behind (past : List Step) (r : Run α) : (r.behind past).result = r.result := rfl

@[simp] theorem behind_mk (past steps : List Step) (a : α) : (⟨steps, a⟩ : Run α).behind past = ⟨past ++ steps, a⟩ := rfl

end Run

namespace Program

variable {α β : Type}

/-- What a program does after some steps. -/
def runAfter (w : Surroundings) : List Step → Program α → Run α
  | _, done a => ⟨[], a⟩
  | past, ask r k =>
    let step := Step.asked r (w.reply past r)
    (runAfter w (past ++ [step]) (k (w.reply past r))).behind [step]
  | past, race t r k =>
    let step := Step.raced t r (w.race past t r)
    (runAfter w (past ++ [step]) (k (w.race past t r))).behind [step]

/-- What a program does. -/
def run (w : Surroundings) (p : Program α) : Run α := p.runAfter w []

section
variable (w : Surroundings) (past : List Step)

@[simp] theorem runAfter_done (a : α) : (done a).runAfter w past = ⟨[], a⟩ := rfl

theorem runAfter_request (r : Request) :
    (request r).runAfter w past = ⟨[.asked r (w.reply past r)], w.reply past r⟩ := rfl

theorem runAfter_orCancelled (t : TokenId) (r : Request) :
    (orCancelled t r).runAfter w past = ⟨[.raced t r (w.race past t r)], w.race past t r⟩ := rfl

/-- One program after another: the steps of the first, then those of the second, which knows them. -/
theorem runAfter_bind (p : Program α) (f : α → Program β) :
    (p >>= f).runAfter w past =
      ((f (p.runAfter w past).result).runAfter w (past ++ (p.runAfter w past).steps)).behind
        (p.runAfter w past).steps := by
  -- on the first program; the past of the rest grows with each of its steps, so it is open
  induction p generalizing past with
  | done a => simp [Run.behind]
  | ask r k ih =>
    simp only [ask_bind, runAfter, Run.behind] at ih ⊢
    rw [ih]
    simp
  | race t r k ih =>
    simp only [race_bind, runAfter, Run.behind] at ih ⊢
    rw [ih]
    simp

/-- A program whose run is known, followed by another. -/
theorem runAfter_bind_of_eq {p : Program α} {f : α → Program β} {steps : List Step} {a : α}
    (h : p.runAfter w past = ⟨steps, a⟩) :
    (p >>= f).runAfter w past = ((f a).runAfter w (past ++ steps)).behind steps := by
  rw [runAfter_bind, h]

end

/-! ## Replies -/

/-- The reply of the step is one that the surroundings gave. -/
inductive AnsweredBy (w : Surroundings) : Step → Prop
  | asked (past : List Step) (r : Request) : AnsweredBy w (.asked r (w.reply past r))
  | raced (past : List Step) (t : TokenId) (r : Request) : AnsweredBy w (.raced t r (w.race past t r))

/-- Every reply in a run is one that the surroundings gave. -/
theorem answered (w : Surroundings) (past : List Step) (p : Program α) :
    ∀ step ∈ (p.runAfter w past).steps, AnsweredBy w step := by
  -- the first step is answered in view of the past, the others in view of a longer one
  induction p generalizing past with
  | done a => simp
  | ask r k ih =>
    intro step hstep
    rcases List.mem_cons.1 hstep with rfl | hstep
    · exact .asked past r
    · exact ih _ _ step hstep
  | race t r k ih =>
    intro step hstep
    rcases List.mem_cons.1 hstep with rfl | hstep
    · exact .raced past t r
    · exact ih _ _ step hstep

end Program

namespace Attempt

variable {α β : Type} {w : Surroundings} {past steps : List Step}

theorem runAfter_call (w : Surroundings) (past : List Step) (c : ChannelId) (x : Call) :
    (call c x).run.runAfter w past = ⟨[.asked (.call c x) (w.reply past (.call c x))], w.reply past (.call c x)⟩ :=
  rfl

/-- What follows an attempt that worked. -/
theorem runAfter_bind_of_ok {a : Attempt α} {f : α → Attempt β} {x : α}
    (h : a.run.runAfter w past = ⟨steps, .ok x⟩) :
    (a >>= f).run.runAfter w past = ((f x).run.runAfter w (past ++ steps)).behind steps := by
  rw [ExceptT.run_bind, Program.runAfter_bind_of_eq w past h]

/-- A fault is the end of an attempt. -/
theorem runAfter_bind_of_error {a : Attempt α} {f : α → Attempt β} {e : Fault}
    (h : a.run.runAfter w past = ⟨steps, .error e⟩) : (a >>= f).run.runAfter w past = ⟨steps, .error e⟩ := by
  rw [ExceptT.run_bind, Program.runAfter_bind_of_eq w past h]
  simp

/-- What follows a program that cannot fail. -/
theorem runAfter_lift_bind {p : Program α} {f : α → Attempt β} {x : α} (h : p.runAfter w past = ⟨steps, x⟩) :
    ((liftM p : Attempt α) >>= f).run.runAfter w past = ((f x).run.runAfter w (past ++ steps)).behind steps := by
  refine runAfter_bind_of_ok ?_
  rw [ExceptT.run_liftM, map_eq_pure_bind, Program.runAfter_bind_of_eq w past h]
  simp

/-- An attempt whose fault alone matters. -/
theorem runAfter_bind_return {a : Attempt α} {x : Except Fault α} (h : a.run.runAfter w past = ⟨steps, x⟩) (b : β) :
    (do let _ ← a; return b : Attempt β).run.runAfter w past = ⟨steps, x.map fun _ => b⟩ := by
  cases x with
  | ok u => rw [runAfter_bind_of_ok h]; simp [Except.map]
  | error e => rw [runAfter_bind_of_error h]; rfl

end Attempt

/-! ## What a run did -/

namespace Request

/-- Whether the request is made on a channel. -/
def onChannel : Request → Bool
  | call _ _ | consume _ _ _ | isOpen _ => true
  | _ => false

/-- Whether the request gives a message to a handler. -/
def toHandler : Request → Bool
  | handle _ _ _ => true
  | _ => false

/-- The tag of the delivery that the broker is asked to acknowledge or to reject. -/
def settledTag? : Request → Option Nat
  | call _ (.ack tag) | call _ (.reject tag) => some tag
  | _ => none

end Request

namespace Step

/-- What the step asks for. -/
def request : Step → Request
  | asked r _ => r
  | raced _ r _ => r

/-- What the broker did in the step. -/
def taken? : Step → Option Call
  | asked (.call _ x) (.ok ()) => some x
  | raced _ (.call _ x) (some (.ok ())) => some x
  | _ => none

end Step

namespace Run

variable {α : Type}

/-- The steps that ask for something on a channel. -/
def channelSteps (r : Run α) : List Step := r.steps.filter (·.request.onChannel)

/-- The steps in which a handler is given a message. -/
def handlerSteps (r : Run α) : List Step := r.steps.filter (·.request.toHandler)

/-- What the broker did in the run, in order. -/
def taken (r : Run α) : List Call := r.channelSteps.filterMap Step.taken?

@[simp] theorem channelSteps_behind (past : List Step) (r : Run α) :
    (r.behind past).channelSteps = past.filter (·.request.onChannel) ++ r.channelSteps :=
  List.filter_append past r.steps

@[simp] theorem handlerSteps_behind (past : List Step) (r : Run α) :
    (r.behind past).handlerSteps = past.filter (·.request.toHandler) ++ r.handlerSteps :=
  List.filter_append past r.steps

end Run

/-! ## Smooth surroundings -/

/-- Surroundings in which all goes well but for the handlers, which end as given: the broker does what it is asked to,
and no token is cancelled. -/
structure Surroundings.Smooth (w : Surroundings) (outcome : Except HandlerError Unit) : Prop where
  calls : ∀ past c x, w.reply past (.call c x) = .ok ()
  races : ∀ past t r, w.race past t r = some (w.reply past r)
  handlers : ∀ past subscription message t, w.reply past (.handle subscription message t) = outcome

namespace Surroundings.Smooth

variable {w : Surroundings} {outcome : Except HandlerError Unit}

theorem call_eq (hw : w.Smooth outcome) {c : ChannelId} {x : Call} {a : Except Fault Unit}
    (h : Program.AnsweredBy w (.asked (.call c x) a)) : a = .ok () := by
  cases h
  exact hw.calls _ c x

theorem raced_call_eq (hw : w.Smooth outcome) {t : TokenId} {c : ChannelId} {x : Call} {a : Option (Except Fault Unit)}
    (h : Program.AnsweredBy w (.raced t (.call c x) a)) : a = some (.ok ()) := by
  cases h
  rw [hw.races, hw.calls]

theorem handle_eq (hw : w.Smooth outcome) {subscription : Settings.Subscription} {message : Json} {t : TokenId}
    {a : Except HandlerError Unit} (h : Program.AnsweredBy w (.asked (.handle subscription message t) a)) :
    a = outcome := by
  cases h
  exact hw.handlers _ subscription message t

end Surroundings.Smooth

/-! ## Plain surroundings -/

/-- A reply that stands in nobody's way. -/
def Request.plainReply : (r : Request) → r.Reply
  | call _ _ => .ok ()
  | consume _ _ _ => .ok ⟨0⟩
  | isOpen _ => true
  | createChannel => .ok ⟨0⟩
  | shutdown => ()
  | connect => .ok ⟨0⟩
  | isConnected _ => true
  | disconnect _ => ()
  | openChannel _ => .ok ⟨0⟩
  | handle _ _ _ => .ok ()
  | sleep _ => ()
  | freshId => ""
  | traceContext => []
  | span _ => ()
  | childToken _ => ⟨0⟩
  | cancel _ => ()
  | isCancelled _ => false
  | lock .pool => Pool.empty
  | lock .outlet => none
  | lock .declared => []
  | lock .stage => Stage.idle
  | put _ _ => ()
  | unlock _ => ()
  | spawn _ => ⟨0⟩
  | join _ => ()
  | arrival _ _ _ => .ended
  | leave _ => ()

/-- Surroundings in which nothing is cancelled, calls have the given answers, and handlers end as given. -/
def Surroundings.plain (answer : Call → Except Fault Unit) (outcome : Except HandlerError Unit) : Surroundings :=
  let reply (r : Request) : r.Reply := match r with
    | .call _ x => answer x
    | .handle _ _ _ => outcome
    | r => r.plainReply
  ⟨fun _ => reply, fun _ _ r => some (reply r)⟩

theorem Surroundings.smooth_plain (outcome : Except HandlerError Unit) :
    (plain (fun _ => .ok ()) outcome).Smooth outcome :=
  ⟨fun _ _ _ => rfl, fun _ _ _ => rfl, fun _ _ _ _ => rfl⟩

end MessageBus
