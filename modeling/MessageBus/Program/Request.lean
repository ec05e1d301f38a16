import MessageBus.Program.State
import MessageBus.Message.Basic
/-!
# What a part of the bus asks of its surroundings

Each request has a type of reply. A part is a program over requests, so what it does is known once the replies are: the
broker, the clock, the handlers and the other parts are whatever gives the replies.
-/

namespace MessageBus

/-- What the broker is asked to do on a channel. -/
inductive Call where
  | declareExchange (e : Exchange)
  | declareQueue (q : Queue)
  | bindQueue (b : Binding)
  /-- At most so many deliveries are out and unsettled. -/
  | setPrefetch (n : UInt16)
  /-- The subscription with the tag ends. -/
  | cancel (tag : String)
  | publish (m : Outbound)
  | ack (tag : Nat)
  /-- The delivery is refused and not put back. -/
  | reject (tag : Nat)
  | close
  deriving DecidableEq

/-- The trace of one delivery's processing: its name, the context that came with the message, and the fault it ended
with. -/
structure Span where
  name : String
  context : SortedMap String
  failure : Option Fault
  deriving DecidableEq

/-- Work for a task of its own. -/
inductive Job where
  /-- A delivery is processed. -/
  | process (settings : Settings.Consumer) (channel : ChannelId) (d : Delivery) (token : TokenId)
  /-- Deliveries are taken in from a stream; `inFlight` are the tasks that process them. -/
  | takeIn (stream : StreamId) (settings : Settings.Consumer) (channel : ChannelId) (token : TokenId)
    (inFlight : List TaskId)
  /-- A token is cancelled after a while. -/
  | cancelAfter (d : Duration) (token : TokenId)

/-- What wakes a task that takes in deliveries. -/
inductive Arrival where
  | delivery (d : Delivery)
  | fault (f : Fault)
  /-- The stream has ended. -/
  | ended
  /-- The token was cancelled. -/
  | cancelled
  /-- One of the tasks it waits for has ended. -/
  | finished (task : TaskId)

/-- What a part of the bus asks of its surroundings. -/
inductive Request where
  /-- The broker is asked to do something on a channel. -/
  | call (c : ChannelId) (x : Call)
  /-- A subscription to a queue, under a tag. -/
  | consume (c : ChannelId) (queue tag : String)
  /-- Whether the channel can still be used. -/
  | isOpen (c : ChannelId)
  /-- A new channel. -/
  | createChannel
  /-- All channels and connections are let go. -/
  | shutdown
  /-- A new connection. -/
  | connect
  /-- Whether the connection can still be used. -/
  | isConnected (k : ConnectionId)
  /-- The connection is closed. -/
  | disconnect (k : ConnectionId)
  /-- A new channel on a connection. -/
  | openChannel (k : ConnectionId)
  /-- The handler of a subscription is given a message. -/
  | handle (s : Settings.Subscription) (message : Json) (token : TokenId)
  /-- Some time passes. -/
  | sleep (d : Duration)
  /-- An id that no other message and no other subscription has. -/
  | freshId
  /-- The trace context of the caller. -/
  | traceContext
  /-- A span of the trace has ended. -/
  | span (s : Span)
  /-- A new token that is cancelled with its parent. -/
  | childToken (parent : TokenId)
  | cancel (token : TokenId)
  | isCancelled (token : TokenId)
  /-- The cell, once nobody else holds it. -/
  | lock (c : Cell)
  /-- What a held cell holds from now on. -/
  | put (c : Cell) (v : c.Content)
  | unlock (c : Cell)
  | spawn (job : Job)
  /-- All the tasks have ended. -/
  | join (tasks : List TaskId)
  /-- The next delivery of a stream, or what comes before it. -/
  | arrival (stream : StreamId) (token : TokenId) (tasks : List TaskId)
  /-- The stream is listened to no more. -/
  | leave (stream : StreamId)

namespace Request

/-- The reply to a request. -/
@[reducible] def Reply : Request → Type
  | call _ _ => Except Fault Unit
  | consume _ _ _ => Except Fault StreamId
  | isOpen _ => Bool
  | createChannel => Except Fault ChannelId
  | shutdown => Unit
  | connect => Except Fault ConnectionId
  | isConnected _ => Bool
  | disconnect _ => Unit
  | openChannel _ => Except Fault ChannelId
  | handle _ _ _ => Except HandlerError Unit
  | sleep _ => Unit
  | freshId => String
  | traceContext => List (String × String)
  | span _ => Unit
  | childToken _ => TokenId
  | cancel _ => Unit
  | isCancelled _ => Bool
  | lock c => c.Content
  | put _ _ => Unit
  | unlock _ => Unit
  | spawn _ => TaskId
  | join _ => Unit
  | arrival _ _ _ => Arrival
  | leave _ => Unit

/-- Whether the reply can be a while in coming. What cannot wait is done at once, with nothing between it and what
comes after it. -/
def canWait : Request → Bool
  | isOpen _ | isConnected _ | freshId | traceContext | span _ | childToken _ | cancel _ | isCancelled _ | put _ _
  | unlock _ | spawn _ | leave _ => false
  | _ => true

end Request

end MessageBus
