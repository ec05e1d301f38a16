import MessageBus.Delivery.Reporting
import MessageBus.Delivery.Retry
/-!
# Settling a delivery

A delivery is settled once: a delivery that has used up its attempts is rejected, one that nobody subscribed to is
acknowledged, one that cannot be read is settled as the consumer's settings say, and one that can is given to its
handler. If the handler fails, its error is reported and the delivery is put back for another attempt, or acknowledged
where the settings allow no further attempt.
-/

namespace MessageBus

/-- Why a delivery was acknowledged. -/
inductive AckReason where
  | handled
  | noSubscription
  | undecodablePayload
  /-- The handler failed, and the consumer makes no second attempt. -/
  | retriesDisabled
  deriving DecidableEq, Repr

/-- The reason in one word. -/
def AckReason.word : AckReason → String
  | handled => "Handled"
  | noSubscription => "NoSubscription"
  | undecodablePayload => "UndecodablePayload"
  | retriesDisabled => "RetriesDisabled"

/-- Why a delivery was rejected. -/
inductive RejectReason where
  | retryLimitExceeded
  | undecodablePayload
  deriving DecidableEq, Repr

/-- The reason in one word. -/
def RejectReason.word : RejectReason → String
  | retryLimitExceeded => "RetryLimitExceeded"
  | undecodablePayload => "UndecodablePayload"

/-- How a delivery was settled. -/
inductive Disposition where
  | acked (reason : AckReason)
  | rejected (reason : RejectReason)
  /-- The delivery was acknowledged, and its message published again as that attempt. -/
  | retried (attempt : UInt32)
  deriving DecidableEq, Repr

namespace Disposition

/-- The disposition in words. -/
def message : Disposition → String
  | acked r => "acked (" ++ r.word ++ ")"
  | rejected r => "rejected (" ++ r.word ++ ")"
  | retried n => "retried (attempt " ++ toString n.toNat ++ ")"

/-- The disposition with what it carries. -/
def detail : Disposition → String
  | acked r => "Acked(" ++ r.word ++ ")"
  | rejected r => "Rejected(" ++ r.word ++ ")"
  | retried n => "Retried \x7b attempt: " ++ toString n.toNat ++ " \x7d"

end Disposition

namespace Delivery

/-- Acknowledges the delivery. -/
def ack (d : Delivery) (c : ChannelId) (reason : AckReason) : Attempt Disposition := do
  Attempt.call c (.ack d.tag)
  return .acked reason

/-- Rejects the delivery. -/
def reject (d : Delivery) (c : ChannelId) (reason : RejectReason) : Attempt Disposition := do
  Attempt.call c (.reject d.tag)
  return .rejected reason

/-- Whether the delivery has used up its attempts. -/
def exhausted (d : Delivery) (s : Settings.Consumer) : Bool :=
  0 < s.maxRetryCount && s.maxRetryCount ≤ d.properties.retryCount

/-- Settles a delivery whose handler failed. -/
def settleFailed (d : Delivery) (s : Settings.Consumer) (e : HandlerError) (c : ChannelId) (token : TokenId) :
    Attempt Disposition := do
  Report.publish .json s.name e c token
  if s.maxRetryCount = 0 then d.ack c .retriesDisabled
  else
    d.retry s c token
    return .retried (d.properties.retryCount + 1)

/-- Settles a delivery whose payload cannot be read. -/
def settleUnreadable (d : Delivery) (s : Settings.Consumer) (c : ChannelId) : Attempt Disposition :=
  match s.unreadable with
  | .ignore => d.ack c .undecodablePayload
  | .deadLetter => d.reject c .undecodablePayload

/-- Settles the delivery. -/
def settle (d : Delivery) (s : Settings.Consumer) (c : ChannelId) (token : TokenId) : Attempt Disposition :=
  if d.exhausted s then d.reject c .retryLimitExceeded
  else match s.subscription? d.properties.messageType with
    | none => d.ack c .noSubscription
    | some subscription =>
      match subscription.decode d.payload with
      | .error _ => d.settleUnreadable s c
      | .ok message => do
        match ← Program.request (.handle subscription message token) with
        | .ok () => d.ack c .handled
        | .error e => d.settleFailed s e c token

/-- The name of the span in which the delivery is processed. -/
def spanName (d : Delivery) : String :=
  if d.properties.messageType = "" then "unknown" else d.properties.messageType

/-- The fault in a result. -/
def failure? : Except Fault Disposition → Option Fault
  | .ok _ => none
  | .error f => some f

/-- Settles the delivery within a span of the trace that came with its message. A fault means that the broker did not
take the settlement. -/
def process (d : Delivery) (s : Settings.Consumer) (c : ChannelId) (token : TokenId) :
    Program (Except Fault Disposition) := do
  let result ← (d.settle s c token).run
  Program.request (.span ⟨d.spanName, d.properties.traceHeaders, failure? result⟩)
  return result

end Delivery

end MessageBus
