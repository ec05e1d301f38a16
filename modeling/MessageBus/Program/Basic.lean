import MessageBus.Program.Request
/-!
# Programs

A program is a value: it is done, or it makes a request and goes on with whatever the reply is. A request can be raced
with a token, which then replies with nothing if it is cancelled first.

`Program.interruptible` runs a program only as long as a token is not cancelled. When the token comes first the program
is abandoned where it waits, and the cells that it holds are unlocked.
-/

namespace MessageBus

/-- A part of the bus, as far as it still has to run. -/
inductive Program (α : Type) : Type where
  | done (a : α)
  | ask (r : Request) (k : r.Reply → Program α)
  /-- The reply, unless the token is cancelled before it comes. -/
  | race (token : TokenId) (r : Request) (k : Option r.Reply → Program α)

namespace Program

variable {α β γ : Type}

/-- One program after another. -/
def bind : Program α → (α → Program β) → Program β
  | done a, f => f a
  | ask r k, f => ask r fun x => (k x).bind f
  | race t r k, f => race t r fun x => (k x).bind f

instance : Monad Program where
  pure := done
  bind := bind

@[simp] theorem pure_eq_done (a : α) : (pure a : Program α) = done a := rfl

@[simp] theorem done_bind (a : α) (f : α → Program β) : (done a >>= f) = f a := rfl

@[simp] theorem ask_bind (r : Request) (k : r.Reply → Program α) (f : α → Program β) :
    (ask r k >>= f) = ask r fun x => k x >>= f := rfl

@[simp] theorem race_bind (t : TokenId) (r : Request) (k : Option r.Reply → Program α) (f : α → Program β) :
    (race t r k >>= f) = race t r fun x => k x >>= f := rfl

@[simp] theorem bind_done (p : Program α) : p.bind done = p := by
  induction p with
  | done a => rfl
  | ask r k ih => simp only [bind]; congr 1; funext x; exact ih x
  | race t r k ih => simp only [bind]; congr 1; funext x; exact ih x

theorem bind_assoc (p : Program α) (f : α → Program β) (g : β → Program γ) :
    (p.bind f).bind g = p.bind fun a => (f a).bind g := by
  induction p with
  | done a => rfl
  | ask r k ih => simp only [bind]; congr 1; funext x; exact ih x
  | race t r k ih => simp only [bind]; congr 1; funext x; exact ih x

instance : LawfulMonad Program :=
  LawfulMonad.mk' Program (fun p => by rw [show id <$> p = p.bind done from rfl, bind_done]) (fun _ _ => rfl) bind_assoc

/-- Makes a request. -/
def request (r : Request) : Program r.Reply := ask r done

/-- Makes a request that gives way to a token. -/
def orCancelled (t : TokenId) (r : Request) : Program (Option r.Reply) := race t r done

/-- Unlocks the cells. -/
def unlockAll : List Cell → Program Unit
  | [] => done ()
  | c :: cells => ask (.unlock c) fun _ => unlockAll cells

/-- The cells that are held after a request, of those that were held before it. -/
def heldAfter (held : List Cell) : Request → List Cell
  | .lock c => c :: held
  | .unlock c => held.erase c
  | _ => held

/-- The program, abandoned where it waits once the token is cancelled; `held` are the cells that it holds at the
start. A request that it races itself is left to the token of that race. -/
def interruptibleFrom (t : TokenId) (held : List Cell) : Program α → Program (Option α)
  | done a => done (some a)
  | ask r k =>
    if r.canWait then
      race t r fun
        | some x => interruptibleFrom t (heldAfter held r) (k x)
        | none => unlockAll held >>= fun _ => done none
    else ask r fun x => interruptibleFrom t (heldAfter held r) (k x)
  | race u r k => race u r fun x => interruptibleFrom t (if x.isSome then heldAfter held r else held) (k x)

/-- The program, abandoned where it waits once the token is cancelled. -/
def interruptible (t : TokenId) (p : Program α) : Program (Option α) := interruptibleFrom t [] p

end Program

/-- A program that can fail. -/
abbrev Attempt (α : Type) : Type := ExceptT Fault Program α

namespace Attempt

variable {α : Type}

/-- A program that gives a fault as its result, as one that fails with it. -/
def ofProgram (p : Program (Except Fault α)) : Attempt α := ExceptT.mk p

/-- A program that cannot fail. -/
def lift (p : Program α) : Attempt α := ExceptT.lift p

/-- Tries something: a fault is a result like any other. -/
def result (a : Attempt α) : Attempt (Except Fault α) := lift a.run

/-- Asks the broker to do something on a channel. -/
def call (c : ChannelId) (x : Call) : Attempt Unit := ofProgram (Program.request (.call c x))

end Attempt

end MessageBus
