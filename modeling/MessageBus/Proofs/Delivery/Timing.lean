import MessageBus.Proofs.Delivery.Refusal
import MessageBus.Proofs.Program.Timed
/-!
# The instants of a retry

`Delivery.retry_by_the_clock` says when each part of a retry happens. The broker is asked to acknowledge the delivery
first. Once it has, the message of the next attempt is published when the delay is over or the token is cancelled,
whichever is first, and the retry ends as this does. So an attempt whose delay is cut short is made early, and it is
never left out.
-/

namespace MessageBus

namespace Delivery

/-- A retry by the clock: a refused acknowledgement is its end. Of a delivery that was acknowledged the next attempt is
published, and nothing else is done but for the wait. It is published with the delay over if the token is not cancelled
by then, and otherwise as soon as the delivery is acknowledged and the token cancelled. -/
theorem retry_by_the_clock (d : Delivery) (s : Settings.Consumer) (c : ChannelId) (token : TokenId) (w : Clock)
    (past : List TimedStep) (start : Nat) :
    let r := (d.retry s c token).run.timedAfter w past start
    let ack : Request := .call c (.ack d.tag)
    let t := w.due past start ack
    let next : Outbound := .direct (s.queueName ++ ".Retry") d.payload
      { d.properties with retryCount := Properties.nextCount d.properties.retryCount }
    (∃ f, w.reply past ack = .error f ∧ r = ⟨[⟨start, .asked ack (.error f), t⟩], .error f, t⟩) ∨
      w.reply past ack = .ok () ∧ ∃ y u a v,
        r = ⟨[⟨start, .asked ack (.ok ()), t⟩, ⟨t, .raced token (.sleep s.retryDelay) y, u⟩,
          ⟨u, .asked (.call c (.publish next)) a, v⟩], a, v⟩ ∧
        ((∀ k, w.cancelled? token = some k → t + s.retryDelay.nanos < k) → u = t + s.retryDelay.nanos) ∧
        ∀ k, w.cancelled? token = some k → k ≤ t + s.retryDelay.nanos → u = max t k := by
  intro r ack t next
  cases hack : w.reply past ack with
  | error f => exact .inl ⟨f, rfl, Attempt.timedAfter_call_of_error hack⟩
  | ok u =>
    -- the wait is a race that begins with the answer, and the message is published however it ends
    let acked : TimedStep := ⟨start, .asked ack (.ok ()), t⟩
    let wait := w.race (past ++ [acked]) t token (.sleep s.retryDelay)
    have hr : r = ⟨[acked, ⟨t, .raced token (.sleep s.retryDelay) wait.1, wait.2⟩,
        ⟨wait.2, .asked (.call c (.publish next)) _, _⟩], _, _⟩ := Attempt.timedAfter_call_of_ok hack
    have hdue : w.due (past ++ [acked]) t (.sleep s.retryDelay) = t + s.retryDelay.nanos := w.due_sleep ..
    refine .inr ⟨rfl, wait.1, wait.2, _, _, hr, fun hlate => ?_, fun k hk hle => ?_⟩
    · rw [← hdue] at hlate ⊢
      exact Clock.race_ended_of_reply _ _ _ hlate
    · rw [← hdue] at hle
      exact Clock.race_ended_of_cancelled _ _ _ hk hle

end Delivery

namespace Sample

/-- A clock by which the broker takes two milliseconds for everything, and every token is cancelled at the instant. -/
def steadyClock (cancelled : Nat) : Clock where
  reply _ := Request.plainReply
  delay _
    | .sleep d => d
    | _ => .ofMillis 2
  cancelled? _ := some cancelled
  tokenFirst _ := true
  punctual _ _ := rfl

/-- The milliseconds at which the requests of an order's retry are made, with its token cancelled after so many. -/
def retryInstants (cancelled : Nat) : List Nat :=
  let r := ((order 0).retry (warehouse 3).settings ⟨0⟩ ⟨0⟩).run.timedAfter
    (steadyClock (Duration.ofMillis cancelled).nanos) [] 0
  r.steps.map fun s => Duration.millis ⟨s.made⟩

end Sample

-- acknowledged at 2 ms, with a delay of 5 ms: the token is cancelled before, during and after it
example : [1, 3, 9].map Sample.retryInstants = [[0, 2, 2], [0, 2, 3], [0, 2, 7]] := by
  decide +kernel

end MessageBus
