import MessageBus.Publishing.Fresh
import MessageBus.Pool
import MessageBus.Topology.Plan
/-!
# Publishing

A publisher holds one channel, which it opens when it first needs it and replaces when it can no longer be used. The
exchange of a message type is declared before the first message of that type is broadcast. A message that is sent goes to
one queue, and needs no exchange of its own.

A token can cut a publication short while it waits. Whatever else goes wrong is a fault of publishing.
-/

namespace MessageBus

/-- A publisher of messages. -/
structure Publisher where
  settings : Settings.Publisher
  serializer : Serializer
  source : ChannelSource

/-- The fault as one of publishing a message of the type. -/
def Fault.ofPublishing (messageType : String) : Fault → Fault
  | .cancelled => .cancelled
  | .publish t reason => .publish t reason
  | f => .publish messageType f.message

namespace Publisher

/-- The payload of a message; none if the message is dropped. -/
def payload? (p : Publisher) (message : Json) : Except Fault (Option Bytes) :=
  match p.serializer.write message with
  | .ok payload => .ok (some payload)
  | .error f =>
    match p.settings.unwritable with
    | .ignore => .ok none
    | .fail => .error (.codec f)

/-- A new channel for the publisher to hold, whose place is locked. -/
def openChannel (p : Publisher) : Attempt ChannelId := do
  match ← p.source.create.result with
  | .error f =>
    Program.request (.unlock .outlet)
    throw f
  | .ok c =>
    Program.request (.put .outlet (some c))
    Program.request (.unlock .outlet)
    return c

/-- The channel to publish on. -/
def channel (p : Publisher) : Attempt ChannelId := do
  match ← Program.request (.lock .outlet) with
  | none => p.openChannel
  | some c =>
    if ← Program.request (.isOpen c) then
      Program.request (.unlock .outlet)
      return c
    else p.openChannel

/-- Declares the exchange of a message type, unless the publisher has done so. -/
def declare (p : Publisher) (c : ChannelId) (messageType : String) : Attempt Unit := do
  let declared ← Program.request (.lock .declared)
  if messageType ∈ declared then Program.request (.unlock .declared)
  else match ← (Attempt.call c (.declareExchange (Topology.messageExchange messageType p.settings))).result with
    | .error f =>
      Program.request (.unlock .declared)
      throw f
    | .ok () =>
      Program.request (.put .declared (messageType :: declared))
      Program.request (.unlock .declared)

/-- Runs a publication until the token is cancelled. -/
def guarded (messageType : String) (token : TokenId) (publication : Attempt Unit) : Attempt Unit := .ofProgram do
  if ← Program.request (.isCancelled token) then return .error .cancelled
  else match ← Program.interruptible token publication.run with
    | none => return .error .cancelled
    | some result => return result.mapError (Fault.ofPublishing messageType)

/-- Publishes a message to every queue that subscribed to its type. -/
def broadcast (p : Publisher) (messageType : String) (message : Json) (token : TokenId) : Attempt Unit := do
  match p.payload? message with
  | .error f => throw f
  | .ok none => return ()
  | .ok (some payload) =>
    let properties ← Properties.fresh messageType
    guarded messageType token do
      let c ← p.channel
      p.declare c messageType
      Attempt.call c (.publish (.broadcast messageType payload properties))

/-- Publishes a message to one queue. -/
def send (p : Publisher) (destination messageType : String) (message : Json) (token : TokenId) : Attempt Unit := do
  match p.payload? message with
  | .error f => throw f
  | .ok none => return ()
  | .ok (some payload) =>
    let properties ← Properties.fresh messageType
    guarded messageType token do
      let c ← p.channel
      Attempt.call c (.publish (.direct destination payload properties))

/-- Closes the channel that the publisher holds. -/
def close : Program Unit := do
  match ← Program.request (.lock .outlet) with
  | none => Program.request (.unlock .outlet)
  | some c =>
    Program.request (.put .outlet none)
    let _ ← (Attempt.call c .close).run
    Program.request (.unlock .outlet)

end Publisher

end MessageBus
