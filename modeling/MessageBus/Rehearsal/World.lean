import MessageBus.Rehearsal.Broker
import MessageBus.Rehearsal.Rule
/-!
# The world of a rehearsal

A rehearsal runs the bus on one thread and a clock of its own. The world is everything that the programs of the bus ask:
the clock with its timers, the tokens, the locks, the handlers, the streams and the broker, and also which tasks are
ready to go on and what each of the others waits for.

Tasks are ready in the order in which they were woken. The clock moves only when no task is ready, and then to the next
timer; timers that are due together go off in the order in which they were set.
-/

namespace MessageBus.Rehearsal

/-- What a handler does when it is called. -/
inductive Script where
  | ends (r : Except HandlerError Unit)
  /-- It waits some milliseconds and goes on. -/
  | sleeps (millis : Nat) (rest : Script)
  /-- It waits until its token is cancelled and goes on. -/
  | awaitsCancel (rest : Script)
  /-- It breaks off with a message, and with it the task that called it. -/
  | breaksOff (message : String)

instance : Inhabited Script := ⟨.breaksOff ""⟩

/-- A handler: what it does at each call, the last also at all later ones, and how often it was called. -/
structure HandlerState where
  scripts : List Script
  calls : Nat

/-- What the handler does at its next call. -/
def HandlerState.next (h : HandlerState) : Script :=
  (h.scripts[h.calls]? <|> h.scripts.getLast?).getD (.ends (.ok ()))

/-- What a stream gives, and after how many milliseconds from what it gave before. -/
structure Item where
  after : Nat
  arrival : Arrival

/-- Where a stream's deliveries come from. -/
inductive Source where
  /-- A list; `due` is when its first item comes, and the number of the timer set for it. -/
  | listed (items : List Item) (due : Option (Nat × Nat))
  /-- The broker. -/
  | live

/-- A token, and the tokens that are cancelled with it. -/
structure Token where
  cancelled : Bool
  children : List TokenId

/-- Where a program stands that waits: its task, and its place among the programs that the task runs side by side. -/
structure Place where
  task : TaskId
  strand : Nat
  deriving DecidableEq, Repr

/-- A timer; `serial` says in which order the timers were set. -/
structure Timer where
  deadline : Nat
  serial : Nat
  place : Place
  deriving DecidableEq, Repr

namespace Timer

/-- Whether a timer goes off before another. -/
def before (x y : Timer) : Bool := x.deadline < y.deadline || (x.deadline = y.deadline && x.serial < y.serial)

/-- Adds a timer to timers that are in order. -/
def insert (x : Timer) : List Timer → List Timer
  | [] => [x]
  | y :: ys => if x.before y then x :: y :: ys else y :: insert x ys

end Timer

/-- What a waiting task can be woken by, apart from timers and locks. -/
inductive Signal where
  | cancelled (t : TokenId)
  | ended (t : TaskId)
  | arrived (s : StreamId)
  deriving DecidableEq, Repr

/-- A lock that is held: who waits for it, and who was given it and has not noticed yet. -/
structure Lock where
  queue : List Place
  granted : Option Place
  deriving DecidableEq, Repr

/-- What the cells hold. -/
structure Cells where
  pool : Pool
  outlet : Option ChannelId
  declared : List String
  stage : Stage

namespace Cells

/-- What a cell holds. -/
def get (cs : Cells) : (c : Cell) → c.Content
  | .pool => cs.pool
  | .outlet => cs.outlet
  | .declared => cs.declared
  | .stage => cs.stage

/-- Changes what a cell holds. -/
def set (cs : Cells) : (c : Cell) → c.Content → Cells
  | .pool, v => { cs with pool := v }
  | .outlet, v => { cs with outlet := v }
  | .declared, v => { cs with declared := v }
  | .stage, v => { cs with stage := v }

end Cells

/-- The trace context that new messages get, and the keys that every span asks its context for. -/
structure Trace where
  inject : List (String × String)
  probe : List String

/-- The world of a rehearsal. -/
structure World where
  now : Nat
  log : Array Entry
  /-- How many ids were made. -/
  idsMade : Nat
  /-- The timers that are set, in the order in which they go off. -/
  timers : List Timer
  timersSet : Nat
  /-- Who waits for what, in the order in which they began to wait. -/
  waiting : List (Signal × Place)
  /-- The tasks that can go on, in order. -/
  ready : List TaskId
  /-- The tasks that were spawned and not yet taken up. -/
  spawned : List (TaskId × Job)
  tasksSpawned : Nat
  ended : List TaskId
  tokens : Array Token
  locks : List (Cell × Lock)
  cells : Cells
  handlers : Array HandlerState
  streams : Array Source
  /-- What the streams of the queues give, where there is no broker. -/
  listings : List (String × List Item)
  rules : List CountedRule
  trace : Option Trace
  broker : Option Broker
  channels : Nat
  closedChannels : List ChannelId
  lostChannels : List ChannelId
  /-- The fault with which every attempt to connect ends, if there is one. -/
  refusal : Option Fault
  connections : Nat
  closedConnections : List ConnectionId

namespace World

/-- The task of the rehearsal itself. -/
def mainTask : TaskId := ⟨0⟩

/-- A world in which nothing has happened: so many channels are open, and there are so many tokens. -/
def start (channels tokens : Nat) (handlers : Array HandlerState) : World where
  now := 0
  log := #[]
  idsMade := 0
  timers := []
  timersSet := 0
  waiting := []
  ready := [mainTask]
  spawned := []
  tasksSpawned := 0
  ended := []
  tokens := .replicate tokens ⟨false, []⟩
  locks := []
  cells := ⟨.empty, none, [], .idle⟩
  handlers := handlers
  streams := #[]
  listings := []
  rules := []
  trace := none
  broker := none
  channels := channels
  closedChannels := []
  lostChannels := []
  refusal := none
  connections := 0
  closedConnections := []

/-- The world with planned faults. -/
def withRules (w : World) (rules : List Rule) : World :=
  { w with rules := rules.map fun r => ⟨r, 0⟩ }

/-! ## The log -/

/-- Adds an event to the log. -/
def note (w : World) (e : Event) : World := { w with log := w.log.push ⟨w.now, e⟩ }

/-- Notes in the log how something ended that was asked. -/
def resolve (w : World) (entry : Nat) (e : Ending) : World :=
  { w with log := w.log.modify entry fun x => match x.event with
      | .asked a _ => { x with event := .asked a e }
      | _ => x }

/-! ## Waiting and waking -/

/-- Puts a task at the end of those that can go on, unless it is among them. -/
def wake (w : World) (t : TaskId) : World :=
  if t ∈ w.ready ∨ t ∈ w.ended then w else { w with ready := w.ready ++ [t] }

/-- Wakes all that wait for a signal, in the order in which they began to wait. -/
def signal (w : World) (s : Signal) : World :=
  let woken := (w.waiting.filter fun e => e.1 = s).map fun e => e.2.task
  woken.foldl wake { w with waiting := w.waiting.filter fun e => e.1 ≠ s }

/-- Lets a place wait for a signal. -/
def await (w : World) (p : Place) (s : Signal) : World :=
  if (s, p) ∈ w.waiting then w else { w with waiting := w.waiting ++ [(s, p)] }

/-- Sets a timer under a number. -/
def setTimer (w : World) (p : Place) (deadline serial : Nat) : World :=
  let x : Timer := ⟨deadline, serial, p⟩
  if x ∈ w.timers then w else { w with timers := x.insert w.timers }

/-- Sets a new timer. -/
def alarm (w : World) (p : Place) (deadline : Nat) : World :=
  { w.setTimer p deadline w.timersSet with timersSet := w.timersSet + 1 }

/-- Moves the clock to the next timers and wakes those that they were set for; none if no timer is set. -/
def tick? (w : World) : Option World :=
  match w.timers with
  | [] => none
  | first :: _ =>
    let due := w.timers.takeWhile fun x => x.deadline = first.deadline
    let w := { w with now := max w.now first.deadline, timers := w.timers.drop due.length }
    some (due.foldl (fun w x => w.wake x.place.task) w)

/-! ## Tasks -/

/-- Adds a task. -/
def spawn (w : World) (j : Job) : World × TaskId :=
  let t : TaskId := ⟨w.tasksSpawned + 1⟩
  ({ w with tasksSpawned := t.number, spawned := w.spawned ++ [(t, j)], ready := w.ready ++ [t] }, t)

/-- Notes that a task has ended. -/
def finish (w : World) (t : TaskId) : World :=
  { w with ended := t :: w.ended }.signal (.ended t)

/-! ## Locks -/

/-- The lock of a cell, if it is held. -/
def lock? (w : World) (c : Cell) : Option Lock := (w.locks.find? fun e => e.1 = c).map (·.2)

/-- Changes the lock of a cell. -/
def updateLock (w : World) (c : Cell) (f : Lock → Lock) : World :=
  { w with locks := w.locks.map fun e => if e.1 = c then (c, f e.2) else e }

/-- Gives the lock of a cell to whoever waits for it longest. -/
def unlock (w : World) (c : Cell) : World :=
  match w.lock? c with
  | none => w
  | some l =>
    match l.queue with
    | [] => { w with locks := w.locks.filter fun e => e.1 ≠ c }
    | p :: queue => (w.updateLock c fun _ => ⟨queue, some p⟩).wake p.task

/-- Takes a place out of the queue of a lock; a lock that it was given goes to the next. -/
def withdraw (w : World) (p : Place) (c : Cell) : World :=
  match w.lock? c with
  | none => w
  | some l =>
    if l.granted = some p then w.unlock c
    else w.updateLock c fun l => { l with queue := l.queue.filter (· ≠ p) }

/-- Forgets all that a place waits for. -/
def forget (w : World) (p : Place) : World :=
  let w := { w with
    timers := w.timers.filter fun x => x.place ≠ p
    waiting := w.waiting.filter fun e => e.2 ≠ p }
  (w.locks.map (·.1)).foldl (fun w c => w.withdraw p c) w

/-! ## Tokens -/

/-- Whether a token is cancelled. -/
def isCancelled (w : World) (t : TokenId) : Bool := (w.tokens[t.number]?).any (·.cancelled)

/-- Adds a token that is cancelled with its parent. -/
def childToken (w : World) (parent : TokenId) : World × TokenId :=
  let t : TokenId := ⟨w.tokens.size⟩
  let tokens := w.tokens.modify parent.number fun x => { x with children := x.children ++ [t] }
  ({ w with tokens := tokens.push ⟨w.isCancelled parent, []⟩ }, t)

/-- Cancels a token and those below it, as far down as `depth` allows; its children come first, the newest before the
others. -/
def cancelDown : Nat → World → TokenId → World
  | 0, w, _ => w
  | depth + 1, w, t =>
    if w.isCancelled t then w
    else
      let children := ((w.tokens[t.number]?).map (·.children)).getD []
      let w := children.reverse.foldl (cancelDown depth) w
      let tokens := w.tokens.modify t.number fun x => { x with cancelled := true }
      { w with tokens }.signal (.cancelled t)

/-- Cancels a token and those below it. -/
def cancel (w : World) (t : TokenId) : World := cancelDown (w.tokens.size + 1) w t

/-! ## Channels, connections and the broker -/

/-- Whether a channel can still be used. -/
def isOpen (w : World) (c : ChannelId) : Bool := c ∉ w.closedChannels && c ∉ w.lostChannels

/-- Takes a channel away from those that can be used; there must be one with the number. -/
def lose (w : World) (c : ChannelId) : World :=
  if c.number < w.channels then { w with lostChannels := c :: w.lostChannels } else w

/-- Whether a connection can still be used. -/
def isConnected (w : World) (k : ConnectionId) : Bool := k.number < w.connections && k ∉ w.closedConnections

/-- Marks a connection as closed. -/
def disconnect (w : World) (k : ConnectionId) : World := { w with closedConnections := k :: w.closedConnections }

/-- Notes what the broker has become, and wakes those whose streams were given something. -/
def afterBroker (w : World) (r : Broker × List StreamId) : World :=
  r.2.foldl (fun w s => w.signal (.arrived s)) { w with broker := some r.1 }

/-- Does what is asked on a channel. Without a broker everything goes well. -/
def perform (w : World) (c : ChannelId) (x : Call) : World × Except Fault Unit :=
  let done : World × Except Fault Unit := match w.broker with
    | none => (w, .ok ())
    | some b =>
      let (r, result) := b.perform (c ∉ w.closedChannels) x
      (w.afterBroker r, result)
  if x = .close then ({ done.1 with closedChannels := c :: w.closedChannels }, done.2) else done

/-- Subscribes to a queue. -/
def consume (w : World) (queue tag : String) : World × Except Fault StreamId :=
  let s : StreamId := ⟨w.streams.size⟩
  match w.broker with
  | none =>
    let items := ((w.listings.find? fun e => e.1 = queue).map (·.2)).getD []
    ({ w with streams := w.streams.push (.listed items none) }, .ok s)
  | some b =>
    match b.consume queue tag s with
    | .error f => (w, .error f)
    | .ok r => ({ w with streams := w.streams.push .live }.afterBroker r, .ok s)

/-- Creates a channel. -/
def createChannel (w : World) : World × Except Fault ChannelId :=
  let created := { w with channels := w.channels + 1 }
  match w.broker with
  | none => (created, .ok ⟨w.channels⟩)
  | some b =>
    if b.isShutDown then (w, .error (.connection "broker shut down"))
    else
      let b := { b with channelsCreated := b.channelsCreated + 1, openChannels := b.openChannels + 1 }
      ({ created with broker := some b }, .ok ⟨w.channels⟩)

/-- Opens a connection. -/
def connect (w : World) : World × Except Fault ConnectionId :=
  match w.refusal with
  | some f => (w, .error f)
  | none => ({ w with connections := w.connections + 1 }, .ok ⟨w.connections⟩)

/-- Shuts the broker down: it creates no channel any more. -/
def shutDown (w : World) : World :=
  { w with broker := w.broker.map fun b => { b with isShutDown := true } }

end World

end MessageBus.Rehearsal
