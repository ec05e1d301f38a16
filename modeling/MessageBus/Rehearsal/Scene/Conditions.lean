import MessageBus.Rehearsal.Play
/-!
# The conditions of a rehearsal

What the handlers do, which faults are planned, and the trace context.
-/

namespace MessageBus.Rehearsal

/-- The conditions of a rehearsal. -/
structure Conditions where
  handlers : Array HandlerState
  rules : List Rule
  trace : Option Trace

namespace Conditions

/-- The world under these conditions, with so many open channels and so many tokens. -/
def world (c : Conditions) (channels tokens : Nat) : World :=
  { (World.start channels tokens c.handlers).withRules c.rules with trace := c.trace }

end Conditions

/-- The channel that is open from the start. -/
def firstChannel : ChannelId := ⟨0⟩

/-- The token that is there from the start. -/
def firstToken : TokenId := ⟨0⟩

namespace World

/-- The world in which the first token is cancelled after so many milliseconds. -/
def cancellingAfter (w : World) (millis : Option Nat) : World :=
  match millis with
  | none => w
  | some n => (w.spawn (.cancelAfter (.ofMillis n) firstToken)).1

/-- The world in which the first token is cancelled after so many milliseconds, or from the start. -/
def cancellingWithin (w : World) (millis : Option Nat) : World :=
  if millis = some 0 then w.cancel firstToken else w.cancellingAfter millis

end World

namespace Act

variable {σ α : Type}

/-- A number of acts, each after the note that its step has come. -/
def numbered (acts : List (Act σ α)) : List (Act σ α) :=
  (acts.zipIdx).flatMap fun (a, n) => [.note (.step n), a]

/-- A change of the world with a fixed answer. -/
def changing (f : World → World) (a : α) : Act σ α := .change fun w => (f w, a)

/-- A wait. -/
def waiting (millis : Nat) (a : α) : Act σ α := .alone (do
  Program.request (.sleep (.ofMillis millis))
  return a)

end Act

end MessageBus.Rehearsal
