import MessageBus.Proofs.Delivery.Settlement
/-!
# When a settlement fails

A fault of the processing is the broker's refusal of an acknowledgement, of a rejection, or of the message for the next
attempt. After the first two the delivery is still with the broker, which delivers it again. The third comes after the
delivery was acknowledged: then the broker has neither the delivery nor its next attempt. `fault_outstanding_iff` says
that this is the only way in which a fault leaves nothing behind, and `refused_attempt_lost` shows one such run.
-/

namespace MessageBus

namespace Delivery

/-- The broker took neither an acknowledgement nor a rejection of the delivery, and so still has it. -/
def Outstanding (d : Delivery) (taken : List Call) : Prop :=
  .ack d.tag ∉ taken ∧ .reject d.tag ∉ taken

/-- The broker refused a message for the retry queue. -/
def AttemptRefused (s : Settings.Consumer) (c : ChannelId) (calls : List Step) (f : Fault) : Prop :=
  ∃ m : Outbound, m.exchange = "" ∧ m.routingKey = s.retryQueueName ∧ .asked (.call c (.publish m)) (.error f) ∈ calls

/-- The report of a handler's error settles nothing. -/
theorem outstanding_behind_report {d : Delivery} {c : ChannelId} {token : TokenId} {calls : List Step} (m : Outbound)
    (x : Option (Except Fault Unit)) (h : d.Outstanding (calls.filterMap Step.taken?)) :
    d.Outstanding ((.raced token (.call c (.publish m)) x :: calls).filterMap Step.taken?) := by
  -- only a report that the broker took counts among what it did
  rcases x with _ | ⟨_ | _⟩
  · exact h
  · exact h
  · simpa [Outstanding, Step.taken?] using h

namespace Settled

variable {d : Delivery} {s : Settings.Consumer} {c : ChannelId} {token : TokenId} {calls handlings : List Step}
  {result : Except Fault Disposition}

/-- A message for the retry queue is refused only after the acknowledgement, and its refusal is the result. -/
theorem of_attemptRefused (h : Settled d s c token calls handlings result) {f : Fault}
    (hf : AttemptRefused s c calls f) : result = .error f ∧ .ack d.tag ∈ calls.filterMap Step.taken? := by
  obtain ⟨m, -, -, hm⟩ := hf
  -- a report is raced against the token, so the refused message is none
  cases h with
  | retried hh hpos e p x n hn a =>
    have hm : m = d.again s n ∧ Except.error f = a := by simpa using hm
    obtain ⟨-, rfl⟩ := hm
    exact ⟨rfl, by simp [Step.taken?]⟩
  | _ => simp at hm

/-- A fault of anything else leaves the delivery with the broker. -/
theorem outstanding_of_fault (h : Settled d s c token calls handlings result) {f : Fault}
    (hr : result = .error f) (hf : ¬AttemptRefused s c calls f) : d.Outstanding (calls.filterMap Step.taken?) := by
  -- the fault is the refusal of the one settlement, or of what comes after it
  cases h with
  | retried hh hpos e p x n hn a =>
    cases a with
    | ok u => cases hr
    | error g =>
      cases hr
      exact absurd ⟨d.again s n, rfl, rfl, by simp⟩ hf
  | exhausted _ a | unsubscribed _ _ a | ignored _ _ _ _ a | deadLettered _ _ _ _ a | handled _ a =>
    cases a with
    | ok u => cases hr
    | error g => simp [Outstanding, Step.taken?]
  | dropped hh hm e p x a =>
    cases a with
    | ok u => cases hr
    | error g => exact outstanding_behind_report _ x (by simp [Outstanding, Step.taken?])
  | unacknowledged hh hm e p x g => exact outstanding_behind_report _ x (by simp [Outstanding, Step.taken?])

end Settled

/-- A fault leaves the delivery with the broker, except where the message for the next attempt was refused: then the
delivery is acknowledged, and the refusal is the result. -/
theorem fault_outstanding_iff (d : Delivery) (s : Settings.Consumer) (c : ChannelId) (token : TokenId)
    (w : Surroundings) :
    let r := (d.process s c token).run w
    (((∃ f, r.result = .error f) → d.Outstanding r.taken) ↔ ∀ f, ¬AttemptRefused s c r.channelSteps f) ∧
      ∀ f, AttemptRefused s c r.channelSteps f → r.result = .error f ∧ .ack d.tag ∈ r.taken := by
  intro r
  have h : Settled d s c token r.channelSteps r.handlerSteps r.result := settled_process d s c token w []
  have hlost : ∀ f, AttemptRefused s c r.channelSteps f → r.result = .error f ∧ .ack d.tag ∈ r.taken :=
    fun f hf => h.of_attemptRefused hf
  refine ⟨⟨fun hout f hf => ?_, fun hnone hfault => ?_⟩, hlost⟩
  · obtain ⟨hr, hack⟩ := hlost f hf
    exact (hout ⟨f, hr⟩).1 hack
  · obtain ⟨f, hr⟩ := hfault
    exact h.outstanding_of_fault hr (hnone f)

end Delivery

/-! ## A delivery that is lost -/

namespace Sample

/-- The subscription to orders. -/
def orders : Settings.Subscription :=
  ⟨⟨"orders.OrderPlaced", .record "struct OrderPlaced" [("id", .word 32)]⟩, .json, ⟨0⟩⟩

/-- A consumer of orders, with so many further attempts for each. -/
def warehouse (retries : UInt32) : Settings.ConsumerDraft :=
  .ofSteps "warehouse" [.retries retries (.ofMillis 5), .subscribe orders]

/-- An order, put back so many times. -/
def order (count : UInt32) : Delivery :=
  ⟨7, ⟨"orders.OrderPlaced", true, count, some "m1", .empty⟩, Bytes.ofText "\x7b\"id\":1\x7d"⟩

/-- What a broker says that takes no message for the retry queue. -/
def withoutRetryQueue : Call → Except Fault Unit
  | .publish m => if m.routingKey = "warehouse.Retry" then .error (.publish m.properties.messageType "channel closed")
    else .ok ()
  | _ => .ok ()

end Sample

open Sample in
/-- The handler fails and the broker takes no message for the retry queue: the result is a fault, and the delivery is
acknowledged. -/
theorem Delivery.refused_attempt_lost :
    ∃ s, (warehouse 3).build = .ok s ∧
      let r := ((order 0).process s ⟨0⟩ ⟨0⟩).run (.plain withoutRetryQueue (.error ⟨⟨"reservation failed", ""⟩, []⟩))
      r.result = .error (.publish "orders.OrderPlaced" "channel closed") ∧ .ack 7 ∈ r.taken :=
  ⟨(warehouse 3).settings, rfl, rfl, by decide +kernel⟩

end MessageBus
