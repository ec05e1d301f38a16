import MessageBus.Program.Request
import MessageBus.Rehearsal.Id
/-!
# The log of a rehearsal

Everything that can be seen from outside is an event of the log: what the bus asks of the broker and how that ended,
what the handlers are given, the spans of the trace, and the steps of the rehearsal itself.
-/

namespace MessageBus.Rehearsal

/-- What the outside is asked, where it can be told to fail. -/
inductive Asked where
  | call (c : ChannelId) (x : Call)
  | consume (c : ChannelId) (queue tag : String)
  | createChannel
  | connect
  deriving DecidableEq

namespace Asked

/-- The name of what is asked. -/
def method : Asked → String
  | call _ (.declareExchange _) => "declare_exchange"
  | call _ (.declareQueue _) => "declare_queue"
  | call _ (.bindQueue _) => "bind_queue"
  | call _ (.setPrefetch _) => "set_prefetch"
  | call _ (.cancel _) => "cancel"
  | call _ (.publish _) => "publish"
  | call _ (.ack _) => "ack"
  | call _ (.reject _) => "reject"
  | call _ .close => "close"
  | consume _ _ _ => "consume"
  | createChannel => "create_channel"
  | connect => "connect"

/-- The queue in the tag of a subscription to it. -/
def queueOfTag (tag : String) : String :=
  match splitId? tag with
  | some (front, _) => (front.dropEnd 1).toString
  | none => tag

/-- The name of what it is about, if it is about something with a name. -/
def target? : Asked → Option String
  | call _ (.declareExchange e) => some e.name
  | call _ (.declareQueue q) => some q.name
  | call _ (.bindQueue b) => some b.queue
  | call _ (.cancel tag) => some (queueOfTag tag)
  | call _ (.publish m) => some (if m.exchange = "" then m.routingKey else m.exchange)
  | call _ (.ack tag) => some (toString tag)
  | call _ (.reject tag) => some (toString tag)
  | consume _ queue _ => some queue
  | _ => none

end Asked

/-- How something that was asked ended. -/
inductive Ending where
  /-- It has not ended. -/
  | pending
  | done
  | failed (f : Fault)
  deriving DecidableEq, Repr

/-- An event of the log. -/
inductive Event where
  | step (n : Nat)
  | asked (a : Asked) (e : Ending)
  | shutdown
  /-- A connection was looked at. -/
  | probed (k : ConnectionId) (isOpen : Bool)
  | disconnected (k : ConnectionId)
  /-- A handler was given a message. -/
  | handler (messageType : String) (message : Json) (cancelled : Bool)
  /-- A handler went on after it had waited. -/
  | resumed (cancelled : Bool)
  | decoded
  | returned
  /-- A span ended: the keys of the context that it continues, what the context says of some keys, and the fault. -/
  | span (name : String) (keys : List String) (probe : List (String × Option String)) (failure : Option Fault)

/-- An event and the millisecond in which it happened. -/
structure Entry where
  time : Nat
  event : Event

end MessageBus.Rehearsal
