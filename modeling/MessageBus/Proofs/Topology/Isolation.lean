import MessageBus.Proofs.Delivery.Refusal
import MessageBus.Proofs.Topology.Contents
import Mathlib.Data.List.Dedup
import Mathlib.Data.List.Pairwise
/-!
# Consumers apart from each other

Consumers that have no queue in common do not see each other's messages: each gets a copy of its own of what it
subscribed to, and what it puts back comes to nobody else. That the names of the consumers differ is not enough for it.
`consumers_isolated_iff` says what is: their queues must be named differently, no queue may be named like the retry queue
of another, and none like the queue of dead letters.

`Topology.count_copies` is about every bus: a queue gets one copy of a message if it is bound to its exchange, and
none otherwise.
-/

namespace MessageBus

namespace Settings

/-- Names among which none comes a second time, nor one that was seen before. -/
theorem BusDraft.repeated?_eq_none_iff {seen names : List String} :
    repeated? seen names = none ↔ names.Nodup ∧ ∀ name ∈ names, name ∉ seen := by
  induction names generalizing seen with
  | nil => simp [repeated?]
  | cons name names ih =>
    unfold repeated?
    split
    · rename_i hseen
      simp [hseen]
    · rename_i hnew
      rw [ih, List.nodup_cons, List.forall_mem_cons]
      constructor
      · rintro ⟨hnodup, hfresh⟩
        refine ⟨⟨fun hmem => hfresh name hmem List.mem_cons_self, hnodup⟩, hnew, fun n hn hs => ?_⟩
        exact hfresh n hn (List.mem_cons_of_mem _ hs)
      · rintro ⟨⟨hmem, hnodup⟩, -, hfresh⟩
        refine ⟨hnodup, fun n hn hs => ?_⟩
        rcases List.mem_cons.1 hs with rfl | hs
        · exact hmem hn
        · exact hfresh n hn hs

/-- The consumers of settings that were built have different names. -/
theorem BusDraft.nodup_names_of_build {d : BusDraft} {b : Bus} (h : d.build = .ok b) :
    (b.consumers.map (·.name)).Nodup := by
  unfold build at h
  split at h
  · cases h
  split at h
  · cases h
  split at h
  · cases h
  · rename_i hnone
    cases h
    exact (repeated?_eq_none_iff.1 hnone).1

namespace Consumer

theorem queueName_mem_queues (c : Consumer) : c.queueName ∈ c.queues := List.mem_cons_self

theorem retryQueueName_mem_queues (c : Consumer) : c.retryQueueName ∈ c.queues :=
  List.mem_cons_of_mem _ (List.mem_singleton_self _)

/-- The two queues of a consumer are not one. -/
theorem queueName_ne_retryQueueName (c : Consumer) : c.queueName ≠ c.retryQueueName := by
  intro h
  have hlength := congrArg String.length h
  rw [retryQueueName, String.length_append] at hlength
  have hsuffix : (".Retry" : String).length = 6 := rfl
  omega

theorem retryQueueName_inj {c c' : Consumer} : c.retryQueueName = c'.retryQueueName ↔ c.queueName = c'.queueName :=
  String.append_left_inj ".Retry"

/-- The queue of dead letters is nobody's retry queue, as it is not named like one. -/
theorem deadLetterQueue_ne_retryQueueName (c : Consumer) : deadLetterQueue ≠ c.retryQueueName := by
  intro h
  have hlast := congrArg (fun s : String => s.toList.getLast?) h
  rw [retryQueueName] at hlast
  simp only [String.toList_append] at hlast
  have hsuffix : (".Retry" : String).toList.getLast? = some 'y' := rfl
  have hqueue : deadLetterQueue.toList.getLast? = some 'r' := rfl
  rw [hqueue, List.getLast?_append, hsuffix, Option.some_or] at hlast
  exact absurd hlast (by decide)

end Consumer

namespace Bus

/-- The consumers that take messages from a queue. -/
def takers (b : Bus) (queue : String) : List Consumer := b.consumers.filter fun c => queue ∈ c.queues

/-- No two consumers have a queue in common, and none takes from the queue of dead letters. -/
structure Isolated (b : Bus) : Prop where
  apart : b.consumers.Pairwise fun c c' => ∀ q ∈ c.queues, q ∉ c'.queues
  alive : ∀ c ∈ b.consumers, deadLetterQueue ∉ c.queues

/-- The names by which the queues of consumers can be told apart. -/
structure NamedApart (b : Bus) : Prop where
  main : (b.consumers.map (·.queueName)).Nodup
  retry : ∀ c ∈ b.consumers, ∀ c' ∈ b.consumers, c'.queueName ≠ c.queueName ++ ".Retry"
  alive : ∀ c ∈ b.consumers, c.queueName ≠ "messaging.DeadLetter"

theorem Isolated.namedApart {b : Bus} (h : b.Isolated) : b.NamedApart where
  main := by
    refine List.pairwise_map.2 (h.apart.imp fun hap heq => ?_)
    exact hap _ (Consumer.queueName_mem_queues _) (heq ▸ Consumer.queueName_mem_queues _)
  retry := by
    intro c hc c' hc' heq
    by_cases hcc : c = c'
    · subst hcc
      exact Consumer.queueName_ne_retryQueueName c heq
    · have : Std.Symm fun c c' : Consumer => ∀ q ∈ c.queues, q ∉ c'.queues := ⟨fun c c' hap q hq hq' => hap q hq' hq⟩
      exact h.apart.forall hc' hc (Ne.symm hcc) _ (Consumer.queueName_mem_queues c')
        (heq ▸ Consumer.retryQueueName_mem_queues c)
  alive := by
    intro c hc heq
    have hmem := Consumer.queueName_mem_queues c
    rw [heq] at hmem
    exact h.alive c hc hmem

theorem NamedApart.isolated {b : Bus} (h : b.NamedApart) : b.Isolated where
  apart := by
    refine (List.pairwise_map.1 h.main).imp_of_mem fun {c c'} hc hc' hne q hq hq' => ?_
    simp only [Consumer.queues, List.mem_cons, List.not_mem_nil, or_false] at hq hq'
    -- each of the two queues of the one against each of the other's
    rcases hq with rfl | rfl <;> rcases hq' with heq | heq
    · exact hne heq
    · exact h.retry c' hc' c hc heq
    · exact h.retry c hc c' hc' heq.symm
    · exact hne (Consumer.retryQueueName_inj.1 heq)
  alive := by
    intro c hc hmem
    simp only [Consumer.queues, List.mem_cons, List.not_mem_nil, or_false] at hmem
    rcases hmem with heq | heq
    · exact h.alive c hc heq.symm
    · exact Consumer.deadLetterQueue_ne_retryQueueName c heq

/-- Where consumers are isolated, only the consumer itself takes from its queues. -/
theorem Isolated.takers_eq {b : Bus} (h : b.Isolated) {c : Consumer} (hc : c ∈ b.consumers) {q : String}
    (hq : q ∈ c.queues) : b.takers q = [c] := by
  obtain ⟨before, after, hall⟩ := List.append_of_mem hc
  have hap := h.apart
  rw [hall, List.pairwise_append, List.pairwise_cons] at hap
  obtain ⟨-, ⟨hafter, -⟩, hbefore⟩ := hap
  have hnone : before.filter (fun x => q ∈ x.queues) = [] := by
    refine List.filter_eq_nil_iff.2 fun x hx hqx => ?_
    exact hbefore x hx c List.mem_cons_self q (of_decide_eq_true hqx) hq
  have hnone' : after.filter (fun x => q ∈ x.queues) = [] := by
    refine List.filter_eq_nil_iff.2 fun x hx hqx => ?_
    exact hafter x hx q hq (of_decide_eq_true hqx)
  rw [takers, hall, List.filter_append, List.filter_cons, hnone, hnone', if_pos (decide_eq_true hq), List.nil_append]

end Bus

end Settings

namespace Topology

/-! ## Copies of a message -/

theorem bindings_messageExchanges (b : Settings.Bus) : (messageExchanges b).bindings = [] := by
  rw [messageExchanges_eq]

/-- A consumer's main queue is bound to the types that it subscribed to, and nothing else is. -/
theorem bindings_consumerQueues (c : Settings.Consumer) :
    (consumerQueues c).bindings = c.subscribedTypes.map (Binding.between c.queueName) := by
  rw [consumerQueues_eq]

/-- All bindings of a bus: those that every bus has, and those of its consumers. -/
def bindingsOf (b : Settings.Bus) : List Binding :=
  defaults.bindings ++ (messageExchanges b).bindings ++ b.consumers.flatMap fun c => (consumerQueues c).bindings

/-- The queues that get a copy of a message that is published to an exchange; a binding that is made again is still the
one binding. -/
def copies (b : Settings.Bus) (exchange : String) : List String :=
  ((bindingsOf b).dedup.filter fun x => x.exchange = exchange).map (·.queue)

theorem mem_bindingsOf {b : Settings.Bus} {x : Binding} :
    x ∈ bindingsOf b ↔ x = .between deadLetterQueue deadLetterExchange ∨
      ∃ c ∈ b.consumers, ∃ messageType ∈ c.subscribedTypes, x = .between c.queueName messageType := by
  have hdefaults : defaults.bindings = [.between deadLetterQueue deadLetterExchange] := rfl
  rw [bindingsOf, bindings_messageExchanges, hdefaults]
  simp only [bindings_consumerQueues, List.append_nil, List.singleton_append, List.mem_cons, List.mem_flatMap,
    List.mem_map, eq_comm (a := x)]

/-- A queue gets one copy of a message if it is bound to its exchange, and none otherwise. -/
theorem count_copies (b : Settings.Bus) (exchange queue : String) :
    (copies b exchange).count queue = if Binding.between queue exchange ∈ bindingsOf b then 1 else 0 := by
  -- all bindings are made under the empty key, so a binding is known by its two ends
  have hends : ∀ x ∈ (bindingsOf b).dedup,
      (x.queue == queue && decide (x.exchange = exchange)) = true ↔ (x == .between queue exchange) = true := by
    intro x hx
    rw [Bool.and_eq_true, beq_iff_eq, decide_eq_true_iff, beq_iff_eq]
    rcases mem_bindingsOf.1 (List.mem_dedup.1 hx) with rfl | ⟨c, -, messageType, -, rfl⟩ <;> simp [Binding.between]
  rw [copies, List.count, List.countP_map, List.countP_filter]
  change (bindingsOf b).dedup.countP (fun x => x.queue == queue && decide (x.exchange = exchange)) = _
  rw [List.countP_congr hends]
  exact List.count_dedup _ _

/-- Where consumers are isolated, a consumer's queue gets a copy exactly of what the consumer subscribed to. -/
theorem count_copies_of_isolated {b : Settings.Bus} (h : b.Isolated) {c : Settings.Consumer} (hc : c ∈ b.consumers)
    (messageType : String) :
    (copies b messageType).count c.queueName = if messageType ∈ c.subscribedTypes then 1 else 0 := by
  have hbound : Binding.between c.queueName messageType ∈ bindingsOf b ↔ messageType ∈ c.subscribedTypes := by
    rw [mem_bindingsOf]
    constructor
    · rintro (heq | ⟨c', hc', messageType', hmem, heq⟩)
      · have hdead : c.queueName = deadLetterQueue := congrArg Binding.queue heq
        exact absurd (hdead ▸ c.queueName_mem_queues) (h.alive c hc)
      · obtain ⟨hqueue, htype, -⟩ := Binding.mk.inj heq
        -- the other consumer takes from this consumer's queue, so it is this consumer
        have htaker : c' ∈ b.takers c.queueName := by
          refine List.mem_filter.2 ⟨hc', decide_eq_true ?_⟩
          rw [hqueue]
          exact c'.queueName_mem_queues
        rw [h.takers_eq hc c.queueName_mem_queues, List.mem_singleton] at htaker
        rw [htype, ← htaker]
        exact hmem
    · intro hmem
      exact .inr ⟨c, hc, messageType, hmem, rfl⟩
  rw [count_copies]
  simp only [hbound]

end Topology

/-- What a delivery's processing publishes to a queue by name is for the retry queue of its consumer. -/
theorem Delivery.Settled.routingKey_eq {d : Delivery} {s : Settings.Consumer} {c : ChannelId} {token : TokenId}
    {calls handlings : List Step} {result : Except Fault Disposition} (h : Settled d s c token calls handlings result)
    {step : Step} (hstep : step ∈ calls) {c' : ChannelId} {m : Outbound}
    (hm : step.request = .call c' (.publish m)) (hdirect : m.exchange = "") : m.routingKey = s.retryQueueName := by
  have hreport : ("messaging.TransportError" : String) ≠ "" := by decide
  cases h with
  | exhausted | unsubscribed | ignored | deadLettered | handled =>
    rw [List.mem_singleton.1 hstep] at hm
    cases hm
  | dropped _ _ e p x a | unacknowledged _ _ e p x a =>
    -- the report goes to an exchange of its own
    simp only [List.mem_cons, List.not_mem_nil, or_false] at hstep
    rcases hstep with rfl | rfl <;> cases hm
    exact absurd hdirect hreport
  | retried _ _ e p x n _ a =>
    simp only [List.mem_cons, List.not_mem_nil, or_false] at hstep
    rcases hstep with rfl | rfl | rfl <;> cases hm
    · exact absurd hdirect hreport
    · rfl

namespace Settings.Bus

/-- The consumers of settings that were built have different names. They have no queue in common, nor with the dead
letters, if and only if their queues are named differently, none is named like the retry queue of a consumer, and none
like the queue of dead letters. Then nobody but the consumer takes from its queues, its main queue gets one copy of each
message that it subscribed to and none of any other, and what it puts back, whatever the broker and the handler do, goes
to a queue from which it alone takes. -/
theorem consumers_isolated_iff {draft : BusDraft} {b : Bus} (h : draft.build = .ok b) :
    (b.consumers.map (·.name)).Nodup ∧
      (b.Isolated ↔ (b.consumers.map (·.queueName)).Nodup ∧
        (∀ c ∈ b.consumers, ∀ c' ∈ b.consumers, c'.queueName ≠ c.queueName ++ ".Retry") ∧
        ∀ c ∈ b.consumers, c.queueName ≠ "messaging.DeadLetter") ∧
      (b.Isolated → ∀ c ∈ b.consumers,
        (∀ q ∈ c.queues, b.takers q = [c]) ∧
        (∀ messageType, (Topology.copies b messageType).count c.queueName =
          if messageType ∈ c.subscribedTypes then 1 else 0) ∧
        ∀ (d : Delivery) (channel : ChannelId) (token : TokenId) (w : Surroundings) (step : Step) (m : Outbound),
          step ∈ ((d.process c channel token).run w).channelSteps → step.request = .call channel (.publish m) →
          m.exchange = "" → b.takers m.routingKey = [c]) := by
  refine ⟨BusDraft.nodup_names_of_build h, ?_, fun hiso c hc => ⟨fun q hq => hiso.takers_eq hc hq,
    Topology.count_copies_of_isolated hiso hc, fun d channel token w step m hstep hm hdirect => ?_⟩⟩
  · constructor
    · intro hiso
      have hnamed := hiso.namedApart
      exact ⟨hnamed.main, hnamed.retry, hnamed.alive⟩
    · rintro ⟨hmain, hretry, halive⟩
      exact NamedApart.isolated ⟨hmain, hretry, halive⟩
  · rw [(Delivery.settled_process d c channel token w []).routingKey_eq hstep hm hdirect]
    exact hiso.takers_eq hc c.retryQueueName_mem_queues

end Settings.Bus

/-! ## A retry that goes astray -/

namespace Sample

/-- A consumer of orders that keeps the settings it has from the start. -/
def clerk (name : String) : Settings.ConsumerDraft := .ofSteps name [.subscribe orders]

/-- A bus with two clerks. -/
def office (name name' : String) : Settings.BusDraft :=
  .ofSteps [.connectionString "amqp://localhost", .consumer (clerk name).settings, .consumer (clerk name').settings]

end Sample

open Sample in
/-- Two clerks whose names have nothing to do with each other: the queue of each gets one copy of an order. -/
theorem Settings.Bus.office_isolated :
    ∃ b, (office "billing" "shipping").build = .ok b ∧ b.Isolated ∧
      ∀ c ∈ b.consumers, (Topology.copies b "orders.OrderPlaced").count c.queueName = 1 := by
  have hbuild : (office "billing" "shipping").build =
      .ok ⟨"amqp://localhost", none, .start, [(clerk "billing").settings, (clerk "shipping").settings]⟩ := rfl
  obtain ⟨-, hiff, hthen⟩ := consumers_isolated_iff hbuild
  have hiso := hiff.2 ⟨by decide, by decide, by decide⟩
  refine ⟨_, hbuild, hiso, fun c hc => ?_⟩
  obtain ⟨-, hcopies, -⟩ := hthen hiso c hc
  have hsubscribed : "orders.OrderPlaced" ∈ c.subscribedTypes := by
    simp only [List.mem_cons, List.not_mem_nil, or_false] at hc
    rcases hc with rfl | rfl <;> decide
  rw [hcopies, if_pos hsubscribed]

open Sample in
/-- A clerk that is called like the retry queue of another: all settings are built, and what the other puts back comes
to it, too. -/
theorem Settings.Bus.retries_go_astray :
    ∃ b c c', (clerk "orders.Retry").build = .ok c ∧ (clerk "orders").build = .ok c' ∧
      (office "orders.Retry" "orders").build = .ok b ∧ b.consumers = [c, c'] ∧ c.name ≠ c'.name ∧
      c.queueName = c'.retryQueueName ∧ b.takers c'.retryQueueName = [c, c'] ∧ ¬b.Isolated := by
  refine ⟨_, _, _, rfl, rfl, rfl, rfl, by decide, rfl, rfl, fun hiso => ?_⟩
  exact List.rel_of_pairwise_cons hiso.apart (List.mem_singleton_self _) "orders.Retry" (by decide) (by decide)

end MessageBus
