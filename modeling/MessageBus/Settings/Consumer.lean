import MessageBus.Settings.Environment
import MessageBus.Message.Kind
/-!
# Settings of a consumer

A draft is changed step by step and then built. Building checks the rules in a fixed order and names the first that is
broken; the settings it gives keep all of them.
-/

namespace MessageBus.Settings

/-- A handler, by the number under which the program knows it. -/
structure HandlerId where
  number : Nat
  deriving DecidableEq, Repr

/-- One message type bound to one handler: the payload is read by the serializer, and the handler is given the
message. -/
structure Subscription where
  kind : MessageKind
  serializer : Serializer
  handler : HandlerId

namespace Subscription

/-- The message in a payload. -/
def decode (s : Subscription) (payload : Bytes) : Except CodecFault Json :=
  s.serializer.read s.kind.shape payload

/-- The subscription with what it shows of itself. -/
def detail (s : Subscription) : String :=
  "SubscriptionBinding \x7b message_type: " ++ Text.quoted s.kind.name ++ ", .. \x7d"

end Subscription

/-- What happens to a delivery whose payload cannot be read. -/
inductive UnreadablePolicy where
  /-- It is acknowledged. -/
  | ignore
  /-- It is rejected, and so goes to the dead-letter exchange. -/
  | deadLetter
  deriving DecidableEq, Repr

/-- The settings of a consumer. -/
structure Consumer where
  name : String
  queueName : String
  messageTtl : Duration
  maxMessageCount : UInt32
  maxConcurrency : UInt16
  maxRetryCount : UInt32
  retryDelay : Duration
  autoDelete : Bool
  unreadable : UnreadablePolicy
  subscriptions : SortedMap Subscription

namespace Consumer

/-- The queue that holds messages for their next attempt. -/
def retryQueueName (c : Consumer) : String := c.queueName ++ ".Retry"

/-- The queues that the consumer takes from. -/
def queues (c : Consumer) : List String := [c.queueName, c.retryQueueName]

/-- The types that the consumer subscribes to, sorted. -/
def subscribedTypes (c : Consumer) : List String := c.subscriptions.keys

/-- The subscription to a type. -/
def subscription? (c : Consumer) (messageType : String) : Option Subscription := c.subscriptions.get? messageType

end Consumer

/-- Settings on the way; `repeated` holds the types that were subscribed to again, in order. -/
structure ConsumerDraft where
  settings : Consumer
  repeated : List String

/-- A step in setting up a consumer. -/
inductive ConsumerStep where
  | queue (name : String)
  | messageTtl (d : Duration)
  | maxMessageCount (n : UInt32)
  | maxConcurrency (n : UInt16)
  | retries (max : UInt32) (delay : Duration)
  | autoDelete
  | onUnreadable (p : UnreadablePolicy)
  | overrides (o : Overrides)
  | subscribe (s : Subscription)

namespace ConsumerDraft

/-- The settings that a consumer has from the start. -/
def start (name : String) : ConsumerDraft where
  settings :=
    { name := name
      queueName := name
      messageTtl := .zero
      maxMessageCount := 0
      maxConcurrency := 10
      maxRetryCount := 3
      retryDelay := .ofSeconds 1
      autoDelete := false
      unreadable := .ignore
      subscriptions := .empty }
  repeated := []

/-- Sets what is present. -/
def override (c : Consumer) (o : Overrides) : Consumer :=
  { c with
    queueName := o.queue.getD c.queueName
    messageTtl := (o.messageTtlMillis.map Duration.ofMillis).getD c.messageTtl
    maxMessageCount := o.maxMessageCount.getD c.maxMessageCount
    maxConcurrency := o.maxConcurrency.getD c.maxConcurrency
    maxRetryCount := o.maxRetryCount.getD c.maxRetryCount
    retryDelay := (o.retryDelayMillis.map Duration.ofMillis).getD c.retryDelay }

/-- The draft after a step. The first subscription to a type holds; further ones are only noted. -/
def apply (d : ConsumerDraft) : ConsumerStep → ConsumerDraft
  | .queue name => { d with settings.queueName := name }
  | .messageTtl t => { d with settings.messageTtl := t }
  | .maxMessageCount n => { d with settings.maxMessageCount := n }
  | .maxConcurrency n => { d with settings.maxConcurrency := n }
  | .retries max delay => { d with settings.maxRetryCount := max, settings.retryDelay := delay }
  | .autoDelete => { d with settings.autoDelete := true }
  | .onUnreadable p => { d with settings.unreadable := p }
  | .overrides o => { d with settings := override d.settings o }
  | .subscribe s =>
    if d.settings.subscriptions.contains s.kind.name then { d with repeated := d.repeated ++ [s.kind.name] }
    else { d with settings.subscriptions := d.settings.subscriptions.insert s.kind.name s }

/-- The draft after all steps. -/
def ofSteps (name : String) (steps : List ConsumerStep) : ConsumerDraft :=
  steps.foldl apply (start name)

/-- The first rule that the draft breaks. -/
def flaw? (d : ConsumerDraft) : Option Flaw :=
  let c := d.settings
  if Text.isBlank c.name then some .blankConsumerName
  else match d.repeated with
    | messageType :: _ => some (.subscribedTwice c.name messageType)
    | [] =>
      if Text.isBlank c.queueName then some (.blankQueueName c.name)
      else if c.maxConcurrency < 1 then some (.noConcurrency c.name)
      else if 0 < c.maxRetryCount ∧ c.retryDelay = .zero then some (.noRetryDelay c.name)
      else none

/-- The settings, if the draft keeps all rules. -/
def build (d : ConsumerDraft) : Except Fault Consumer :=
  match d.flaw? with
  | some f => .error f.toFault
  | none => .ok d.settings

end ConsumerDraft

end MessageBus.Settings
