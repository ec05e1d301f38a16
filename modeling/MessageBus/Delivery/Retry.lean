import MessageBus.Program.Basic
/-!
# Another attempt

A delivery that failed is acknowledged, and after a delay its message is published again, to the retry queue and with
its count raised. A cancelled token cuts the delay short, so that the attempt is not lost.
-/

namespace MessageBus.Delivery

/-- The message of the next attempt. -/
def nextAttempt (d : Delivery) (s : Settings.Consumer) : Outbound :=
  .direct s.retryQueueName d.payload d.properties.nextAttempt

/-- Settles the delivery by putting its message back for another attempt. -/
def retry (d : Delivery) (s : Settings.Consumer) (c : ChannelId) (token : TokenId) : Attempt Unit := do
  Attempt.call c (.ack d.tag)
  let _ ← Program.orCancelled token (.sleep s.retryDelay)
  Attempt.call c (.publish (d.nextAttempt s))

end MessageBus.Delivery
