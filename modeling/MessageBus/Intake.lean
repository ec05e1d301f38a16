import MessageBus.Delivery.Settlement
/-!
# Taking deliveries in

A consumer takes from its main queue and from its retry queue, over a channel of its own. Each subscription has a task
that takes deliveries in and gives each to a task of its own, until the stream ends or the token is cancelled; then it
waits for those tasks. How many deliveries are out at a time is for the broker to limit.

Disposing of a consumer cancels its subscriptions and its token, waits until all its tasks have ended, and only then
closes the channel.
-/

namespace MessageBus

namespace Job

/-- One turn of the task that takes deliveries in. -/
def takeInOnce (stream : StreamId) (s : Settings.Consumer) (c : ChannelId) (token : TokenId)
    (inFlight : List TaskId) : Program (Option Job) := do
  match ← Program.request (.arrival stream token inFlight) with
  | .delivery d =>
    let task ← Program.request (.spawn (.process s c d token))
    return some (.takeIn stream s c token (inFlight ++ [task]))
  | .fault _ => return some (.takeIn stream s c token inFlight)
  | .finished task => return some (.takeIn stream s c token (inFlight.erase task))
  | .ended | .cancelled =>
    Program.request (.join inFlight)
    Program.request (.leave stream)
    return none

/-- What a task does for its job; it goes on with the job that this gives, if it gives one. -/
def program : Job → Program (Option Job)
  | .process s c d token => do
    let _ ← d.process s c token
    return none
  | .takeIn stream s c token inFlight => takeInOnce stream s c token inFlight
  | .cancelAfter d token => do
    Program.request (.sleep d)
    Program.request (.cancel token)
    return none

end Job

/-- A program of one consumer: it can fail, and what it did to the consumer holds even then. -/
abbrev Tending (α : Type) : Type := ExceptT Fault (StateT Intake Program) α

namespace Intake

/-- A request made while tending a consumer. -/
def request (r : Request) : Tending r.Reply := ExceptT.lift (StateT.lift (Program.request r))

/-- What another program gives, while tending a consumer. -/
def attempt {α : Type} (p : Attempt α) : Tending α := ExceptT.mk (StateT.lift p.run)

/-- The tag of a subscription to a queue. -/
def tagOf (queue id : String) : String := queue ++ "-" ++ id

/-- Subscribes to a queue, with the limit on deliveries set beforehand. -/
def subscribe (token : TokenId) (queue : String) : Tending Unit := do
  let i ← get
  attempt (Attempt.call i.channel (.setPrefetch i.settings.maxConcurrency))
  let tag := tagOf queue (← request .freshId)
  let stream ← attempt (.ofProgram (Program.request (.consume i.channel queue tag)))
  let task ← request (.spawn (.takeIn stream i.settings i.channel token []))
  modify fun i => { i with subscriptions := i.subscriptions ++ [(tag, task)] }

/-- Starts to take messages from both queues, until the parent token is cancelled or the consumer disposed of. -/
def start (parent : TokenId) : Tending Unit := do
  let token ← request (.childToken parent)
  modify fun i => { i with token := some token }
  let i ← get
  i.settings.queues.forM (subscribe token)

/-- Cancels the subscriptions with the tags; what goes wrong is passed over. -/
def cancelAll (c : ChannelId) : List String → Program Unit
  | [] => return ()
  | tag :: tags => do
    let _ ← (Attempt.call c (.cancel tag)).run
    cancelAll c tags

/-- Stops taking messages, waits for what is in flight, and closes the channel. -/
def dispose (i : Intake) : Program Intake := do
  cancelAll i.channel (i.subscriptions.map (·.1))
  i.token.forM fun token => Program.request (.cancel token)
  Program.request (.join (i.subscriptions.map (·.2)))
  let _ ← (Attempt.call i.channel .close).run
  return { i with subscriptions := [] }

end Intake

end MessageBus
