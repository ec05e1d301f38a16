import MessageBus.Rehearsal.World
import MessageBus.Program.Basic
/-!
# How the world replies

A request gets its reply at once, or has to wait. What waits is asked again whenever its task is woken, and says then how
far it had come.
-/

namespace MessageBus.Rehearsal

/-- How far a request has come. -/
inductive Progress where
  /-- It has not been made. -/
  | fresh
  /-- It is in the log and held up by a rule. -/
  | heldUp (entry due : Nat) (rule : Rule)
  /-- It never ends. -/
  | stuck
  /-- Time passes. -/
  | asleep (due : Nat)
  /-- A handler waits for the time, or for its token. -/
  | acting (due : Option Nat) (rest : Script)
  /-- It waits for its turn. -/
  | parked

/-- The reply to a request, or how far it has come. -/
inductive Replied (β : Type) where
  | now (b : β)
  | later (p : Progress)
  /-- The program that made the request breaks off with a message. -/
  | never (message : String)

namespace World

/-- The end of something that was asked: the rule's fault, or what is done. -/
def conclude {β : Type} (w : World) (entry : Nat) (fault : Option Fault)
    (run : World → World × Except Fault β) : World × Replied (Except Fault β) :=
  match fault with
  | some f => (w.resolve entry (.failed f), .now (.error f))
  | none =>
    let (w, result) := run w
    match result with
    | .ok b => (w.resolve entry .done, .now (.ok b))
    | .error f => (w.resolve entry (.failed f), .now (.error f))

/-- What comes after a rule's delay. -/
def afterDelay {β : Type} (w : World) (entry : Nat) (r : Rule) (run : World → World × Except Fault β) :
    World × Replied (Except Fault β) :=
  if r.hang then (w, .later .stuck) else w.conclude entry r.fault run

/-- The reply to something that is logged and can be told to fail. -/
def answer {β : Type} (w : World) (p : Place) (a : Asked) (run : World → World × Except Fault β) :
    Progress → World × Replied (Except Fault β)
  | .heldUp entry due r =>
    if w.now < due then (w, .later (.heldUp entry due r)) else w.afterDelay entry r run
  | .stuck => (w, .later .stuck)
  | _ =>
    let (rules, rule) := meet a w.rules
    let entry := w.log.size
    let w := { w with rules }.note (.asked a .pending)
    match rule with
    | none => w.conclude entry none run
    | some r =>
      if r.delay = 0 then w.afterDelay entry r run
      else (w.alarm p (w.now + r.delay), .later (.heldUp entry (w.now + r.delay) r))

/-- The reply to a wait of so many milliseconds. -/
def pass (w : World) (p : Place) (millis : Nat) : Progress → World × Replied Unit
  | .asleep due => if w.now < due then (w, .later (.asleep due)) else (w, .now ())
  | _ =>
    if millis = 0 then (w, .now ())
    else (w.alarm p (w.now + millis), .later (.asleep (w.now + millis)))

/-- Lets a handler go on. -/
def play (p : Place) (token : TokenId) : Script → World → World × Replied (Except HandlerError Unit)
  | .ends r, w => (w, .now r)
  | .breaksOff message, w => (w, .never message)
  | .sleeps millis rest, w =>
    if millis = 0 then play p token rest (w.note (.resumed (w.isCancelled token)))
    else (w.alarm p (w.now + millis), .later (.acting (some (w.now + millis)) rest))
  | .awaitsCancel rest, w =>
    if w.isCancelled token then play p token rest (w.note (.resumed true))
    else (w.await p (.cancelled token), .later (.acting none rest))

/-- The reply of a handler. -/
def handle (w : World) (p : Place) (s : Settings.Subscription) (message : Json) (token : TokenId) :
    Progress → World × Replied (Except HandlerError Unit)
  | .acting due rest =>
    let goesOn : Bool := match due with
      | some t => t ≤ w.now
      | none => w.isCancelled token
    if goesOn then play p token rest (w.note (.resumed (w.isCancelled token)))
    else (w, .later (.acting due rest))
  | _ =>
    let w := w.note (.handler s.kind.name message (w.isCancelled token))
    let n := s.handler.number
    let script := ((w.handlers[n]?).map (·.next)).getD (.ends (.ok ()))
    play p token script { w with handlers := w.handlers.modify n fun h => { h with calls := h.calls + 1 } }

/-- The reply to a wish for a lock. -/
def acquire (w : World) (p : Place) (c : Cell) : World × Replied c.Content :=
  match w.lock? c with
  | none => ({ w with locks := w.locks ++ [(c, ⟨[], none⟩)] }, .now (w.cells.get c))
  | some l =>
    if l.granted = some p then (w.updateLock c fun l => { l with granted := none }, .now (w.cells.get c))
    else if p ∈ l.queue then (w, .later .parked)
    else (w.updateLock c fun l => { l with queue := l.queue ++ [p] }, .later .parked)

/-- The reply to a wait for tasks. -/
def join (w : World) (p : Place) (tasks : List TaskId) : World × Replied Unit :=
  match tasks.filter (· ∉ w.ended) with
  | [] => (w, .now ())
  | running => (running.foldl (fun w t => w.await p (.ended t)) w, .later .parked)

/-- What a stream gives now, if it gives something; otherwise the place is made to wait for it. -/
def take (w : World) (p : Place) (s : StreamId) : World × Option Arrival :=
  match w.streams[s.number]? with
  | none => (w, none)
  | some (.listed [] _) => (w, none)
  | some (.listed (item :: items) due) =>
    let (deadline, serial) := due.getD (w.now + item.after, w.timersSet)
    if deadline ≤ w.now then
      ({ w with streams := w.streams.set! s.number (.listed items none) }, some item.arrival)
    else
      let w := { w with
        streams := w.streams.set! s.number (.listed (item :: items) (some (deadline, serial)))
        timersSet := max w.timersSet (serial + 1) }
      (w.setTimer p deadline serial, none)
  | some .live =>
    match w.broker.bind (·.lines.get? s) with
    | none => (w, none)
    | some l =>
      match l.inbox with
      | d :: rest =>
        let update (b : Broker) : Broker := { b with lines := b.lines.update s fun l => { l with inbox := rest } }
        ({ w with broker := w.broker.map update }, some (.delivery d))
      | [] => if l.closed then (w, some .ended) else (w.await p (.arrived s), none)

/-- The reply to a wait for the next delivery. -/
def arrival (w : World) (p : Place) (s : StreamId) (token : TokenId) (tasks : List TaskId) : World × Replied Arrival :=
  if w.isCancelled token then (w, .now .cancelled)
  else
    match w.take p s with
    | (w, some a) => (w, .now a)
    | (w, none) =>
      match tasks.find? (· ∈ w.ended) with
      | some t => (w, .now (.finished t))
      | none =>
        let w := w.await p (.cancelled token)
        (tasks.foldl (fun w t => w.await p (.ended t)) w, .later .parked)

/-- Leaves a stream. -/
def leave (w : World) (s : StreamId) : World :=
  { w with broker := w.broker.map fun b => { b with lines := b.lines.update s fun l => { l with left := true } } }

/-- Notes a span, where there is a trace. -/
def noteSpan (w : World) (s : Span) : World :=
  match w.trace with
  | none => w
  | some t => w.note (.span s.name s.context.keys (t.probe.map fun k => (k, s.context.get? k)) s.failure)

/-- The reply to a request that has come so far. -/
def reply (w : World) (p : Place) : (r : Request) → Progress → World × Replied r.Reply
  | .call c x, g => w.answer p (.call c x) (·.perform c x) g
  | .consume c queue tag, g => w.answer p (.consume c queue tag) (·.consume queue tag) g
  | .isOpen c, _ => (w, .now (w.isOpen c))
  | .createChannel, g => w.answer p .createChannel (·.createChannel) g
  | .shutdown, _ => ((w.note .shutdown).shutDown, .now ())
  | .connect, g => w.answer p .connect (·.connect) g
  | .isConnected k, _ => (w.note (.probed k (w.isConnected k)), .now (w.isConnected k))
  | .disconnect k, _ => ((w.note (.disconnected k)).disconnect k, .now ())
  | .openChannel _, g => w.answer p .createChannel (·.createChannel) g
  | .handle s message token, g => w.handle p s message token g
  | .sleep d, g => w.pass p d.ticks g
  | .freshId, _ => ({ w with idsMade := w.idsMade + 1 }, .now (madeId w.idsMade))
  | .traceContext, _ => (w, .now ((w.trace.map (·.inject)).getD []))
  | .span s, _ => (w.noteSpan s, .now ())
  | .childToken parent, _ =>
    let (w, t) := w.childToken parent
    (w, .now t)
  | .cancel t, _ => (w.cancel t, .now ())
  | .isCancelled t, _ => (w, .now (w.isCancelled t))
  | .lock c, _ => w.acquire p c
  | .put c v, _ => ({ w with cells := w.cells.set c v }, .now ())
  | .unlock c, _ => (w.unlock c, .now ())
  | .spawn j, _ =>
    let (w, t) := w.spawn j
    (w, .now t)
  | .join tasks, _ => w.join p tasks
  | .arrival s token tasks, _ => w.arrival p s token tasks
  | .leave s, _ => (w.leave s, .now ())

/-- The reply to a request that gives way to a token; a token only has its way where the request would wait. -/
def race (w : World) (p : Place) (t : TokenId) (r : Request) (g : Progress) : World × Replied (Option r.Reply) :=
  match w.reply p r g with
  | (w, .now b) => (w, .now (some b))
  | (w, .never message) => (w, .never message)
  | (w, .later g) => if w.isCancelled t then (w, .now none) else (w.await p (.cancelled t), .later g)

end World

/-- A program as far as it has come. -/
inductive Strand (α : Type) where
  | running (program : Program α) (g : Progress)
  | ended (a : α)
  | brokeOff (message : String)

namespace Strand

variable {α : Type}

/-- A program that has not begun. -/
def fresh (program : Program α) : Strand α := .running program .fresh

/-- Runs a program as far as it comes. -/
def run (p : Place) : Program α → Progress → World → World × Strand α
  | .done a, _, w => (w, .ended a)
  | .ask r k, g, w =>
    match w.reply p r g with
    | (w, .now b) => run p (k b) .fresh (w.forget p)
    | (w, .later g) => (w, .running (.ask r k) g)
    | (w, .never message) => (w.forget p, .brokeOff message)
  | .race t r k, g, w =>
    match w.race p t r g with
    | (w, .now b) => run p (k b) .fresh (w.forget p)
    | (w, .later g) => (w, .running (.race t r k) g)
    | (w, .never message) => (w.forget p, .brokeOff message)

/-- Lets a strand go on. -/
def advance (p : Place) : Strand α → World → World × Strand α
  | .running program g, w => run p program g w
  | s, w => (w, s)

/-- What the strand gave, if it has ended. -/
def result? : Strand α → Option α
  | .ended a => some a
  | _ => none

/-- The message with which the strand broke off, if it did. -/
def message? : Strand α → Option String
  | .brokeOff message => some message
  | _ => none

end Strand

end MessageBus.Rehearsal
