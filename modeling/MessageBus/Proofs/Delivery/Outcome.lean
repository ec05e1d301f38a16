import MessageBus.Proofs.Delivery.Settlement
/-!
# What one delivery comes to

What a settled delivery sends: at most one message to the retry queue, with the count raised (`Settled.sentTo_eq`). In
smooth surroundings there is no more to choose. A delivery without attempts left is rejected (`Settled.of_usedUp`), one
whose handler succeeds is acknowledged (`Settled.of_success`), and one whose handler fails is reported and put back
(`Settled.of_failure`).
-/

namespace MessageBus

/-- The message of a publishing. -/
def Call.message? : Call → Option Outbound
  | .publish m => some m
  | _ => none

/-- Whether the step is one in which a handler failed. -/
def Step.handlerFailed : Step → Bool
  | .asked (.handle _ _ _) (.error _) => true
  | _ => false

/-- The messages that the broker took. -/
def published (calls : List Step) : List Outbound := (calls.filterMap Step.taken?).filterMap Call.message?

/-- The messages that the broker took for one queue. -/
def sentTo (queue : String) (calls : List Step) : List Outbound :=
  (published calls).filter fun m => m.exchange = "" ∧ m.routingKey = queue

/-- The reports of errors that the broker took. -/
def reports (calls : List Step) : List Outbound := (published calls).filter (·.exchange = Report.typeName)

namespace Delivery

section
variable {d : Delivery} {s : Settings.Consumer} {subscription subscription' : Settings.Subscription}
  {message message' : Json}

theorem Readable.subscribed_ne_none (h : d.Readable s subscription message) :
    s.subscription? d.properties.messageType ≠ none := by
  rw [h.subscribed]
  exact Option.some_ne_none _

theorem Readable.read_ne_error (h : d.Readable s subscription message)
    (hs : s.subscription? d.properties.messageType = some subscription') (f : CodecFault) :
    subscription'.decode d.payload ≠ .error f := by
  obtain rfl := Option.some.inj (h.subscribed.symm.trans hs)
  rw [h.read]
  exact nofun

theorem Readable.unique (h : d.Readable s subscription message) (h' : d.Readable s subscription' message') :
    subscription' = subscription ∧ message' = message := by
  obtain rfl := Option.some.inj (h'.subscribed.symm.trans h.subscribed)
  exact ⟨rfl, Except.ok.inj (h'.read.symm.trans h.read)⟩

theorem usedUp_iff (d : Delivery) (hm : 0 < s.maxRetryCount) :
    d.UsedUp s ↔ s.maxRetryCount.toNat ≤ d.properties.retryCount.toNat :=
  ⟨fun h => UInt32.le_iff_toNat_le.1 h.2, fun h => ⟨hm, UInt32.le_iff_toNat_le.2 h⟩⟩

end

/-- A delivery is settled in one of the ways, with answers that the surroundings gave. -/
theorem settled_answered (d : Delivery) (s : Settings.Consumer) (c : ChannelId) (token : TokenId) (w : Surroundings) :
    let r := (d.process s c token).run w
    Settled d s c token r.channelSteps r.handlerSteps r.result ∧
      (∀ step ∈ r.channelSteps, Program.AnsweredBy w step) ∧ ∀ step ∈ r.handlerSteps, Program.AnsweredBy w step :=
  ⟨settled_process d s c token w [], fun step h => Program.answered w [] _ step (List.mem_filter.1 h).1,
    fun step h => Program.answered w [] _ step (List.mem_filter.1 h).1⟩

namespace Settled

variable {d : Delivery} {s : Settings.Consumer} {c : ChannelId} {token : TokenId} {calls handlings : List Step}
  {result : Except Fault Disposition}

/-! ## In any surroundings -/

/-- A report is not for a queue. -/
theorem sentTo_behind_report (queue : String) (calls : List Step) (e : HandlerError) (p : Properties)
    (x : Option (Except Fault Unit)) :
    sentTo queue (.raced token (.call c (.publish (reportOf s e p))) x :: calls) = sentTo queue calls := by
  -- only a report that the broker took counts among the messages, and it goes to an exchange with a name
  rcases x with _ | ⟨_ | _⟩
  · rfl
  · rfl
  · change List.filter _ (reportOf s e p :: published calls) = _
    rw [List.filter_cons_of_neg (by simp)]
    rfl

theorem sentTo_again (d : Delivery) (s : Settings.Consumer) (c : ChannelId) (n : UInt32) :
    sentTo s.retryQueueName
      [.asked (.call c (.ack d.tag)) (.ok ()), .asked (.call c (.publish (d.again s n))) (.ok ())] = [d.again s n] := by
  change List.filter _ [d.again s n] = _
  simp

/-- What is published to a queue itself is the delivery's own message, with its count raised. -/
theorem published_directly (h : Settled d s c token calls handlings result) {step : Step} {m : Outbound}
    (hstep : step ∈ calls) (hm : step.request = .call c (.publish m)) (hexchange : m.exchange = "") :
    ∃ n : UInt32, n.toNat = d.properties.retryCount.toNat + 1 ∧ m = d.again s n := by
  -- the only other message is a report, and that goes to an exchange with a name
  have hreport : ∀ e p x, step ≠ .raced token (.call c (.publish (reportOf s e p))) x := by
    rintro e p x rfl
    cases hm
    rw [exchange_reportOf] at hexchange
    exact absurd hexchange (by decide)
  cases h with
  | exhausted | unsubscribed | ignored | deadLettered | handled =>
    obtain rfl := List.mem_singleton.1 hstep
    cases hm
  | dropped _ _ e p x | unacknowledged _ _ e p x =>
    rcases List.mem_cons.1 hstep with heq | hstep
    · exact absurd heq (hreport e p x)
    · obtain rfl := List.mem_singleton.1 hstep
      cases hm
  | retried _ _ e p x n hn =>
    rcases List.mem_cons.1 hstep with heq | hstep
    · exact absurd heq (hreport e p x)
    · rcases List.mem_cons.1 hstep with rfl | hstep
      · cases hm
      · obtain rfl := List.mem_singleton.1 hstep
        cases hm
        exact ⟨n, hn, rfl⟩

/-- A delivery puts back at most one message, and that one with its count raised. -/
theorem sentTo_eq (h : Settled d s c token calls handlings result) :
    sentTo s.retryQueueName calls = [] ∨
      ∃ n : UInt32, ¬d.UsedUp s ∧ 0 < s.maxRetryCount ∧ n.toNat = d.properties.retryCount.toNat + 1 ∧
        sentTo s.retryQueueName calls = [d.again s n] := by
  cases h with
  | exhausted _ a | unsubscribed _ _ a | ignored _ _ _ _ a | deadLettered _ _ _ _ a | handled _ a =>
    left
    cases a <;> rfl
  | dropped hh hm e p x a =>
    left
    rw [sentTo_behind_report]
    cases a <;> rfl
  | unacknowledged hh hm e p x f =>
    left
    rw [sentTo_behind_report]
    rfl
  | retried hh hm e p x n hn a =>
    rw [sentTo_behind_report]
    cases a with
    | error f => exact .inl rfl
    | ok u => exact .inr ⟨n, hh.left, hm, hn, sentTo_again d s c n⟩

/-! ## In smooth surroundings -/

section
variable {w : Surroundings} {outcome : Except HandlerError Unit}
  (h : Settled d s c token calls handlings result) (hcalls : ∀ step ∈ calls, Program.AnsweredBy w step)
  (hhandlings : ∀ step ∈ handlings, Program.AnsweredBy w step)
include h hcalls

/-- A delivery without attempts left is rejected. -/
theorem of_usedUp (hw : w.Smooth outcome) (hused : d.UsedUp s) :
    calls = [.asked (.call c (.reject d.tag)) (.ok ())] ∧ handlings = [] ∧
      result = .ok (.rejected .retryLimitExceeded) := by
  cases h with
  | exhausted _ a =>
    obtain rfl := hw.call_eq (List.forall_mem_cons.1 hcalls).1
    exact ⟨rfl, rfl, rfl⟩
  | unsubscribed hleft | ignored hleft | deadLettered hleft => exact absurd hused hleft
  | handled hh | dropped hh | unacknowledged hh | retried hh => exact absurd hused hh.left

/-- An error is reported exactly where a handler failed. -/
theorem length_reports (hw : w.Smooth outcome) :
    (reports calls).length = (handlings.filter Step.handlerFailed).length := by
  cases h with
  | exhausted _ a | unsubscribed _ _ a | ignored _ _ _ _ a | deadLettered _ _ _ _ a | handled _ a =>
    obtain rfl := hw.call_eq (List.forall_mem_cons.1 hcalls).1
    rfl
  | dropped _ _ e p x a =>
    simp only [List.forall_mem_cons] at hcalls
    obtain ⟨hreport, hack, -⟩ := hcalls
    obtain rfl := hw.raced_call_eq hreport
    obtain rfl := hw.call_eq hack
    rfl
  | unacknowledged => exact absurd (hw.call_eq (List.forall_mem_cons.1 (List.forall_mem_cons.1 hcalls).2).1) nofun
  | retried _ _ e p x n _ a =>
    simp only [List.forall_mem_cons] at hcalls
    obtain ⟨hreport, -, hagain, -⟩ := hcalls
    obtain rfl := hw.raced_call_eq hreport
    obtain rfl := hw.call_eq hagain
    rfl

include hhandlings

/-- A delivery whose handler succeeds is acknowledged. -/
theorem of_success {subscription : Settings.Subscription} {message : Json} (hw : w.Smooth (.ok ()))
    (hh : d.Handles s subscription message) :
    calls = [.asked (.call c (.ack d.tag)) (.ok ())] ∧
      handlings = [.asked (.handle subscription message token) (.ok ())] ∧ result = .ok (.acked .handled) := by
  cases h with
  | exhausted hused => exact absurd hused hh.left
  | unsubscribed _ hs => exact absurd hs hh.subscribed_ne_none
  | ignored _ hs hf | deadLettered _ hs hf => exact absurd hf (hh.read_ne_error hs _)
  | handled hh' a =>
    obtain ⟨rfl, rfl⟩ := hh.toReadable.unique hh'.toReadable
    obtain rfl := hw.call_eq (List.forall_mem_cons.1 hcalls).1
    exact ⟨rfl, rfl, rfl⟩
  | dropped | unacknowledged | retried =>
    exact absurd (hw.handle_eq (List.forall_mem_cons.1 hhandlings).1) nofun

/-- A delivery whose handler fails is reported, acknowledged and put back. -/
theorem of_failure {subscription : Settings.Subscription} {message : Json} {e : HandlerError}
    (hw : w.Smooth (.error e)) (hh : d.Handles s subscription message) (hm : 0 < s.maxRetryCount) :
    ∃ (p : Properties) (n : UInt32), n.toNat = d.properties.retryCount.toNat + 1 ∧
      calls =
        [.raced token (.call c (.publish (reportOf s e p))) (some (.ok ())), .asked (.call c (.ack d.tag)) (.ok ()),
          .asked (.call c (.publish (d.again s n))) (.ok ())] ∧
      handlings = [.asked (.handle subscription message token) (.error e)] ∧ result = .ok (.retried n) := by
  -- in all other ways the handler succeeds, the broker refuses something, or there are no attempts to make
  cases h with
  | exhausted hused => exact absurd hused hh.left
  | unsubscribed _ hs => exact absurd hs hh.subscribed_ne_none
  | ignored _ hs hf | deadLettered _ hs hf => exact absurd hf (hh.read_ne_error hs _)
  | handled => exact absurd (hw.handle_eq (List.forall_mem_cons.1 hhandlings).1) nofun
  | dropped _ hm0 => exact absurd hm0 (UInt32.pos_iff_ne_zero.1 hm)
  | unacknowledged => exact absurd (hw.call_eq (List.forall_mem_cons.1 (List.forall_mem_cons.1 hcalls).2).1) nofun
  | retried hh' _ e' p x n hn a =>
    obtain ⟨rfl, rfl⟩ := hh.toReadable.unique hh'.toReadable
    obtain rfl := Except.error.inj (hw.handle_eq (List.forall_mem_cons.1 hhandlings).1)
    simp only [List.forall_mem_cons] at hcalls
    obtain ⟨hreport, -, hagain, -⟩ := hcalls
    obtain rfl := hw.raced_call_eq hreport
    obtain rfl := hw.call_eq hagain
    exact ⟨p, n, hn, rfl, rfl, rfl⟩

end

end Settled

end Delivery

end MessageBus
