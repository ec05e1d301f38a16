import MessageBus.SortedMap
import MessageBus.Text.Bytes
import MessageBus.Text.Lowercase
/-!
# Messages

What is known of a message apart from its payload, a message on its way out, and a message that came in.
-/

namespace MessageBus

/-- What is known of a message apart from its payload. -/
structure Properties where
  messageType : String
  /-- Whether the message survives a restart of the broker. -/
  persistent : Bool
  /-- How many times the message has been put back for another attempt. -/
  retryCount : UInt32
  messageId : Option String
  traceHeaders : SortedMap String
  deriving DecidableEq

namespace Properties

/-- A new message of the type, with an id of its own. -/
def persistentOf (messageType id : String) : Properties :=
  ⟨messageType, true, 0, some id, .empty⟩

/-- The greatest retry count. -/
def maxRetryCount : UInt32 := 0xffffffff

/-- The count after one more attempt; it stays at the greatest. -/
def nextCount (n : UInt32) : UInt32 :=
  if n = maxRetryCount then n else n + 1

theorem toNat_nextCount (n : UInt32) : (nextCount n).toNat = min (n.toNat + 1) 0xffffffff := by
  unfold nextCount
  have h := n.toNat_lt
  split
  · rename_i he
    subst he
    rfl
  · rename_i he
    have hne : n.toNat ≠ 0xffffffff := fun hn => he (UInt32.toNat_inj.1 hn)
    rw [UInt32.toNat_add]
    simp only [UInt32.toNat_one]
    omega

/-- The same message, for its next attempt. -/
def nextAttempt (p : Properties) : Properties :=
  { p with retryCount := nextCount p.retryCount }

/-- Notes the trace context: each pair under its key in lower case, the later of two with the same key holding. -/
def withTrace (p : Properties) (pairs : List (String × String)) : Properties :=
  { p with traceHeaders := p.traceHeaders.insertAll (pairs.map fun e => (Text.lowercase e.1, e.2)) }

end Properties

/-- A message on its way to an exchange. -/
structure Outbound where
  exchange : String
  routingKey : String
  /-- Whether the broker gives the message back if no queue takes it. -/
  mandatory : Bool
  properties : Properties
  payload : Bytes
  deriving DecidableEq

namespace Outbound

/-- A message to all queues bound to an exchange. -/
def broadcast (exchange : String) (payload : Bytes) (properties : Properties) : Outbound :=
  ⟨exchange, "", false, properties, payload⟩

/-- A message to one queue, through the exchange without a name. -/
def direct (queue : String) (payload : Bytes) (properties : Properties) : Outbound :=
  ⟨"", queue, true, properties, payload⟩

end Outbound

/-- A message handed to a consumer; `tag` names it when it is settled. -/
structure Delivery where
  tag : Nat
  properties : Properties
  payload : Bytes
  deriving DecidableEq

end MessageBus
