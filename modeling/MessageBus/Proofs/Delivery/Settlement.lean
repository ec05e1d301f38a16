import MessageBus.Proofs.Program.Run
import MessageBus.Delivery.Settlement
/-!
# Every delivery is settled once

`Settled` lists the ways in which a delivery can be settled, each with the steps that it takes on the channel, the
messages that it gives to handlers, and its result. The conditions of the ways rule each other out, so their order of
precedence is part of the list. `settled_process`: in any surroundings, processing a delivery settles it in one of
these ways.
-/

namespace MessageBus

/-- A report is published once, whatever comes of it. -/
theorem Report.runAfter_publish (origin : String) (e : HandlerError) (c : ChannelId) (token : TokenId)
    (w : Surroundings) (past : List Step) :
    ∃ (id : String) (context : List (String × String)) (p : Properties) (x : Option (Except Fault Unit)),
      (publish .json origin e c token).runAfter w past =
        ⟨[.asked .freshId id, .asked .traceContext context,
          .raced token (.call c (.publish (outbound (ofError origin e).toJson.bytes p))) x], ()⟩ :=
  ⟨_, _, _, _, rfl⟩

namespace Delivery

/-- The delivery has used up its attempts. -/
def UsedUp (d : Delivery) (s : Settings.Consumer) : Prop :=
  0 < s.maxRetryCount ∧ s.maxRetryCount ≤ d.properties.retryCount

/-- The delivery's type is subscribed to, and its payload is read. -/
structure Readable (d : Delivery) (s : Settings.Consumer) (subscription : Settings.Subscription) (message : Json) :
    Prop where
  subscribed : s.subscription? d.properties.messageType = some subscription
  read : subscription.decode d.payload = .ok message

/-- The delivery is one for a handler: it can be read and has attempts left. -/
structure Handles (d : Delivery) (s : Settings.Consumer) (subscription : Settings.Subscription) (message : Json) : Prop
    extends d.Readable s subscription message where
  left : ¬d.UsedUp s

/-- The report of a handler's error, as it is published. -/
def reportOf (s : Settings.Consumer) (e : HandlerError) (p : Properties) : Outbound :=
  .broadcast Report.typeName (Report.ofError s.name e).toJson.bytes p

@[simp] theorem exchange_reportOf (s : Settings.Consumer) (e : HandlerError) (p : Properties) :
    (reportOf s e p).exchange = "messaging.TransportError" := rfl

/-- The delivery's message for the retry queue, unchanged apart from its count. -/
def again (d : Delivery) (s : Settings.Consumer) (n : UInt32) : Outbound :=
  .direct (s.queueName ++ ".Retry") d.payload { d.properties with retryCount := n }

section
variable (d : Delivery) (s : Settings.Consumer) (n : UInt32)

@[simp] theorem exchange_again : (d.again s n).exchange = "" := rfl
@[simp] theorem routingKey_again : (d.again s n).routingKey = s.retryQueueName := rfl
@[simp] theorem payload_again : (d.again s n).payload = d.payload := rfl
@[simp] theorem messageType_again : (d.again s n).properties.messageType = d.properties.messageType := rfl
@[simp] theorem retryCount_again : (d.again s n).properties.retryCount = n := rfl

end

/-- How a delivery is settled: the steps on the channel, the steps with a handler, and the result. The broker's answers
are `a`; the reply to the publishing of a report, `x`, changes nothing. -/
inductive Settled (d : Delivery) (s : Settings.Consumer) (c : ChannelId) (token : TokenId) :
    List Step → List Step → Except Fault Disposition → Prop
  | exhausted (h : d.UsedUp s) (a : Except Fault Unit) :
      Settled d s c token [.asked (.call c (.reject d.tag)) a] [] (a.map fun _ => .rejected .retryLimitExceeded)
  | unsubscribed (h : ¬d.UsedUp s) (hs : s.subscription? d.properties.messageType = none) (a : Except Fault Unit) :
      Settled d s c token [.asked (.call c (.ack d.tag)) a] [] (a.map fun _ => .acked .noSubscription)
  | ignored {subscription : Settings.Subscription} {f : CodecFault} (h : ¬d.UsedUp s)
      (hs : s.subscription? d.properties.messageType = some subscription)
      (hf : subscription.decode d.payload = .error f) (hp : s.unreadable = .ignore) (a : Except Fault Unit) :
      Settled d s c token [.asked (.call c (.ack d.tag)) a] [] (a.map fun _ => .acked .undecodablePayload)
  | deadLettered {subscription : Settings.Subscription} {f : CodecFault} (h : ¬d.UsedUp s)
      (hs : s.subscription? d.properties.messageType = some subscription)
      (hf : subscription.decode d.payload = .error f) (hp : s.unreadable = .deadLetter) (a : Except Fault Unit) :
      Settled d s c token [.asked (.call c (.reject d.tag)) a] [] (a.map fun _ => .rejected .undecodablePayload)
  | handled {subscription : Settings.Subscription} {message : Json} (h : d.Handles s subscription message)
      (a : Except Fault Unit) :
      Settled d s c token [.asked (.call c (.ack d.tag)) a]
        [.asked (.handle subscription message token) (.ok ())] (a.map fun _ => .acked .handled)
  | dropped {subscription : Settings.Subscription} {message : Json} (h : d.Handles s subscription message)
      (hm : s.maxRetryCount = 0) (e : HandlerError) (p : Properties) (x : Option (Except Fault Unit))
      (a : Except Fault Unit) :
      Settled d s c token
        [.raced token (.call c (.publish (reportOf s e p))) x, .asked (.call c (.ack d.tag)) a]
        [.asked (.handle subscription message token) (.error e)] (a.map fun _ => .acked .retriesDisabled)
  | unacknowledged {subscription : Settings.Subscription} {message : Json} (h : d.Handles s subscription message)
      (hm : 0 < s.maxRetryCount) (e : HandlerError) (p : Properties) (x : Option (Except Fault Unit)) (f : Fault) :
      Settled d s c token
        [.raced token (.call c (.publish (reportOf s e p))) x, .asked (.call c (.ack d.tag)) (.error f)]
        [.asked (.handle subscription message token) (.error e)] (.error f)
  | retried {subscription : Settings.Subscription} {message : Json} (h : d.Handles s subscription message)
      (hm : 0 < s.maxRetryCount) (e : HandlerError) (p : Properties) (x : Option (Except Fault Unit)) (n : UInt32)
      (hn : n.toNat = d.properties.retryCount.toNat + 1) (a : Except Fault Unit) :
      Settled d s c token
        [.raced token (.call c (.publish (reportOf s e p))) x, .asked (.call c (.ack d.tag)) (.ok ()),
          .asked (.call c (.publish (d.again s n))) a]
        [.asked (.handle subscription message token) (.error e)] (a.map fun _ => .retried n)

theorem exhausted_iff (d : Delivery) (s : Settings.Consumer) : d.exhausted s = true ↔ d.UsedUp s := by
  simp [exhausted, UsedUp]

/-! ## What each part does -/

section
variable (d : Delivery) (s : Settings.Consumer) (c : ChannelId) (token : TokenId) (w : Surroundings) (past : List Step)

theorem runAfter_ack (reason : AckReason) :
    ∃ a, (d.ack c reason).run.runAfter w past = ⟨[.asked (.call c (.ack d.tag)) a], a.map fun _ => .acked reason⟩ :=
  ⟨_, Attempt.runAfter_bind_return (Attempt.runAfter_call w past c (.ack d.tag)) _⟩

theorem runAfter_reject (reason : RejectReason) :
    ∃ a, (d.reject c reason).run.runAfter w past =
      ⟨[.asked (.call c (.reject d.tag)) a], a.map fun _ => .rejected reason⟩ :=
  ⟨_, Attempt.runAfter_bind_return (Attempt.runAfter_call w past c (.reject d.tag)) _⟩

theorem runAfter_report (e : HandlerError) :
    ∃ (id : String) (context : List (String × String)) (p : Properties) (x : Option (Except Fault Unit)),
      (Report.publish .json s.name e c token).runAfter w past =
        ⟨[.asked .freshId id, .asked .traceContext context,
          .raced token (.call c (.publish (reportOf s e p))) x], ()⟩ :=
  Report.runAfter_publish s.name e c token w past

/-- A retry waits and publishes only once the delivery is acknowledged. -/
theorem runAfter_retry :
    (∃ f, (d.retry s c token).run.runAfter w past = ⟨[.asked (.call c (.ack d.tag)) (.error f)], .error f⟩) ∨
      ∃ (y : Option Unit) (a : Except Fault Unit), (d.retry s c token).run.runAfter w past =
        ⟨[.asked (.call c (.ack d.tag)) (.ok ()), .raced token (.sleep s.retryDelay) y,
          .asked (.call c (.publish (d.nextAttempt s))) a], a⟩ := by
  have hack := Attempt.runAfter_call w past c (.ack d.tag)
  cases ha : w.reply past (.call c (.ack d.tag)) with
  | error f =>
    rw [ha] at hack
    exact .inl ⟨f, Attempt.runAfter_bind_of_error hack⟩
  | ok u =>
    rw [ha] at hack
    -- what is known when the delay begins, and when it is over
    let acked := past ++ [.asked (.call c (.ack d.tag)) (.ok ())]
    let waited := acked ++ [.raced token (.sleep s.retryDelay) (w.race acked token (.sleep s.retryDelay))]
    refine .inr ⟨w.race acked token (.sleep s.retryDelay), w.reply waited (.call c (.publish (d.nextAttempt s))), ?_⟩
    rw [retry, Attempt.runAfter_bind_of_ok hack,
      Attempt.runAfter_lift_bind (Program.runAfter_orCancelled w acked token (.sleep s.retryDelay)),
      Attempt.runAfter_call]
    rfl

/-- The count of the next attempt does not overflow where attempts are left. -/
theorem toNat_count_add_one (h : ¬d.UsedUp s) (hm : 0 < s.maxRetryCount) :
    (d.properties.retryCount + 1).toNat = d.properties.retryCount.toNat + 1 := by
  have hlt : d.properties.retryCount < s.maxRetryCount := UInt32.not_le.1 fun hle => h ⟨hm, hle⟩
  have hmax := s.maxRetryCount.toNat_lt
  rw [UInt32.lt_iff_toNat_lt] at hlt
  rw [UInt32.toNat_add, UInt32.toNat_one]
  omega

theorem nextAttempt_eq (h : ¬d.UsedUp s) (hm : 0 < s.maxRetryCount) :
    d.nextAttempt s = d.again s (d.properties.retryCount + 1) := by
  have hn : Properties.nextCount d.properties.retryCount = d.properties.retryCount + 1 := by
    apply UInt32.toNat_inj.1
    have hlt := (d.properties.retryCount + 1).toNat_lt
    rw [Properties.toNat_nextCount, toNat_count_add_one d s h hm] at *
    omega
  rw [nextAttempt, Properties.nextAttempt, hn]
  rfl

/-- A delivery whose handler failed is dropped or put back, as the settings say. -/
theorem settled_settleFailed {subscription : Settings.Subscription} {message : Json}
    (h : d.Handles s subscription message) (e : HandlerError) :
    let r := (d.settleFailed s e c token).run.runAfter w past
    Settled d s c token r.channelSteps [.asked (.handle subscription message token) (.error e)] r.result ∧
      r.handlerSteps = [] := by
  obtain ⟨id, context, p, x, hr⟩ := runAfter_report s c token w past e
  -- the report comes first, and nothing depends on its reply
  rw [settleFailed, Attempt.runAfter_lift_bind hr]
  by_cases hm : s.maxRetryCount = 0
  · obtain ⟨a, ha⟩ := runAfter_ack d c w (past ++ _) .retriesDisabled
    rw [if_pos hm, ha]
    exact ⟨.dropped h hm e p x a, rfl⟩
  · have hpos : 0 < s.maxRetryCount := UInt32.pos_iff_ne_zero.2 hm
    have hn := toNat_count_add_one d s h.left hpos
    rw [if_neg hm]
    rcases runAfter_retry d s c token w (past ++ _) with ⟨f, hf⟩ | ⟨y, a, ha⟩
    · rw [Attempt.runAfter_bind_return hf]
      exact ⟨.unacknowledged h hpos e p x f, rfl⟩
    · rw [nextAttempt_eq d s h.left hpos] at ha
      rw [Attempt.runAfter_bind_return ha]
      exact ⟨.retried h hpos e p x _ hn a, rfl⟩

theorem settled_settle :
    let r := (d.settle s c token).run.runAfter w past
    Settled d s c token r.channelSteps r.handlerSteps r.result := by
  -- the checks in their order, each under the failure of those before it
  unfold settle
  by_cases hx : d.exhausted s = true
  · obtain ⟨a, ha⟩ := runAfter_reject d c w past .retryLimitExceeded
    rw [if_pos hx, ha]
    exact .exhausted ((exhausted_iff d s).1 hx) a
  rw [if_neg hx]
  have hleft : ¬d.UsedUp s := fun h => hx ((exhausted_iff d s).2 h)
  cases hs : s.subscription? d.properties.messageType with
  | none =>
    obtain ⟨a, ha⟩ := runAfter_ack d c w past .noSubscription
    simp only [ha]
    exact .unsubscribed hleft hs a
  | some subscription =>
    cases hd : subscription.decode d.payload with
    | error f =>
      simp only [hd, settleUnreadable]
      cases hp : s.unreadable with
      | ignore =>
        obtain ⟨a, ha⟩ := runAfter_ack d c w past .undecodablePayload
        simp only [ha]
        exact .ignored hleft hs hd hp a
      | deadLetter =>
        obtain ⟨a, ha⟩ := runAfter_reject d c w past .undecodablePayload
        simp only [ha]
        exact .deadLettered hleft hs hd hp a
    | ok message =>
      have hh : d.Handles s subscription message := ⟨⟨hs, hd⟩, hleft⟩
      simp only [hd]
      rw [Attempt.runAfter_lift_bind (Program.runAfter_request w past (.handle subscription message token))]
      cases hr : w.reply past (.handle subscription message token) with
      | ok u =>
        obtain ⟨a, ha⟩ := runAfter_ack d c w (past ++ [.asked (.handle subscription message token) (.ok ())]) .handled
        simp only [ha]
        exact .handled hh a
      | error e =>
        obtain ⟨hset, hnone⟩ :=
          settled_settleFailed d s c token w (past ++ [.asked (.handle subscription message token) (.error e)]) hh e
        rw [Run.channelSteps_behind, Run.handlerSteps_behind, Run.result_behind, hnone]
        exact hset

/-- What comes after the settlement is the span of the trace, with the settlement's fault. -/
theorem runAfter_process :
    let r := (d.settle s c token).run.runAfter w past
    (d.process s c token).runAfter w past =
      ⟨r.steps ++ [.asked (.span ⟨d.spanName, d.properties.traceHeaders, failure? r.result⟩) ()], r.result⟩ := by
  rw [process, Program.runAfter_bind]
  rfl

/-- In any surroundings, processing a delivery settles it in one of the ways. -/
theorem settled_process :
    let r := (d.process s c token).runAfter w past
    Settled d s c token r.channelSteps r.handlerSteps r.result := by
  have h := settled_settle d s c token w past
  rw [runAfter_process]
  simpa [Run.channelSteps, Run.handlerSteps, Step.request, Request.onChannel, Request.toHandler] using h

end

/-! ## What all ways have in common -/

namespace Settled

variable {d : Delivery} {s : Settings.Consumer} {c : ChannelId} {token : TokenId} {calls handlings : List Step}
  {result : Except Fault Disposition}

/-- The broker is asked to settle one delivery, once. -/
theorem tags (h : Settled d s c token calls handlings result) :
    calls.filterMap (·.request.settledTag?) = [d.tag] := by
  cases h <;> rfl

/-- At most one handler is given a message, and only one that the delivery is for. -/
theorem handlings_eq (h : Settled d s c token calls handlings result) :
    handlings = [] ∨ ∃ subscription message x, d.Handles s subscription message ∧
      handlings = [.asked (.handle subscription message token) x] := by
  cases h with
  | exhausted | unsubscribed | ignored | deadLettered => exact .inl rfl
  | handled h | dropped h | unacknowledged h | retried h => exact .inr ⟨_, _, _, h, rfl⟩

end Settled

/-- Whatever the broker answers, however the handler ends and whenever the token is cancelled: a delivery is settled in
one of the ways, is acknowledged or rejected in one request and no other delivery is, and reaches a handler at most
once, if at all only as one that is read and has attempts left. -/
theorem process_settles_once (d : Delivery) (s : Settings.Consumer) (c : ChannelId) (token : TokenId)
    (w : Surroundings) :
    let r := (d.process s c token).run w
    Settled d s c token r.channelSteps r.handlerSteps r.result ∧
      r.channelSteps.filterMap (·.request.settledTag?) = [d.tag] ∧ r.handlerSteps.length ≤ 1 ∧
      (r.handlerSteps ≠ [] → ∃ subscription message, d.Handles s subscription message) := by
  have h := settled_process d s c token w []
  refine ⟨h, h.tags, ?_, fun hne => ?_⟩
  · rcases h.handlings_eq with hs | ⟨subscription, message, x, -, hs⟩
    · exact hs ▸ Nat.zero_le 1
    · exact hs ▸ Nat.le_refl 1
  · rcases h.handlings_eq with hs | ⟨subscription, message, x, hh, -⟩
    · exact absurd hs hne
    · exact ⟨subscription, message, hh⟩

end Delivery

end MessageBus
