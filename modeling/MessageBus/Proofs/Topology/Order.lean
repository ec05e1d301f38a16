import MessageBus.Lifecycle
import MessageBus.Proofs.Program.Trace
import MessageBus.Proofs.Topology.Isolation
/-!
# What is declared before what

A start declares three kinds of topologies, over different channels and one after another. `Bus.plan` is all that it
declares if nothing fails, and `Bus.justified_plan` says that the plan is sound: whatever a call of it refers to has
been declared by an earlier one. An exchange may have been declared by another of the topologies, as the one of error
reports, or for several consumers at once; the queue of a binding is always declared over the same channel.
-/

namespace MessageBus

namespace Topology

/-- The calls that declare the topology over a channel. -/
def callsOver (t : Topology) (c : ChannelId) : List (ChannelId × Call) := t.calls.map fun x => (c, x)

end Topology

open MessageBus.Topology

/-! ## What a call needs -/

/-- The queue of dead letters, as it is declared. -/
def deadLetters : Queue := (((Queue.named deadLetterQueue).lasting.onDisk).holding 1000).living 86400000

/-- The calls that declare the place where rejected messages go: its exchange, its queue, and the binding of the one to
the other. -/
def deadLetterCalls : List Call :=
  [ .declareExchange (Exchange.named deadLetterExchange).lasting, .declareQueue deadLetters,
    .bindQueue (.between deadLetterQueue deadLetterExchange) ]

namespace Settings.Bus

/-- What must have been declared before a call over the channel: the queue of a binding over the same channel, and its
exchange over any; and the place where rejected messages go before a queue of a consumer. -/
def Needs (b : Bus) (past : List (ChannelId × Call)) : ChannelId × Call → Prop
  | (c, .bindQueue x) =>
    (∃ q, q.name = x.queue ∧ (c, .declareQueue q) ∈ past) ∧
      ∃ c' e, e.name = x.exchange ∧ (c', .declareExchange e) ∈ past
  | (_, .declareQueue q) =>
    q = deadLetters ∨
      (∃ s ∈ b.consumers, q = consumerQueue s.queueName s ∨ q = consumerQueue s.retryQueueName s) ∧
        q.deadLetterExchange = some deadLetterExchange ∧ ∃ c, ∀ x ∈ deadLetterCalls, (c, x) ∈ past
  | (_, .declareExchange _) => True
  | _ => False

variable {b : Bus} {past : List (ChannelId × Call)}

theorem justified_defaults (c : ChannelId) : Justified b.Needs past (defaults.callsOver c) := by
  refine ⟨trivial, trivial, .inl rfl, ⟨⟨deadLetters, rfl, ?_⟩, c, (Exchange.named deadLetterExchange).lasting, rfl, ?_⟩,
    trivial⟩
  · exact List.mem_append_right _ (List.mem_singleton_self _)
  · exact List.mem_append_left _ (List.mem_append_right _ (List.mem_singleton_self _))

theorem justified_messageExchanges (c : ChannelId) : Justified b.Needs past ((messageExchanges b).callsOver c) := by
  refine justified_of_forall fun x hx more => ?_
  simp only [callsOver, messageExchanges_eq, Topology.calls, List.map_nil, List.append_nil, List.map_map, List.mem_map] at hx
  obtain ⟨messageType, -, rfl⟩ := hx
  exact trivial

/-- The queues of a consumer can be declared once the exchanges of its types are, and the place where rejected messages
go. -/
theorem justified_consumerQueues {s : Consumer} (hs : s ∈ b.consumers) {c₀ : ChannelId}
    (hdead : ∀ x ∈ deadLetterCalls, (c₀, x) ∈ past)
    (htypes : ∀ messageType ∈ s.subscribedTypes, ∃ c' e, e.name = messageType ∧ (c', .declareExchange e) ∈ past)
    (c : ChannelId) : Justified b.Needs past ((consumerQueues s).callsOver c) := by
  simp only [callsOver, consumerQueues_eq, Topology.calls, List.map_nil, List.nil_append, List.map_append, List.map_map]
  refine justified_append.2 ⟨justified_of_forall fun x hx more => ?_, justified_of_forall fun x hx more => ?_⟩
  · obtain ⟨q, hq, rfl⟩ := List.mem_map.1 hx
    have hqueue : q = consumerQueue s.queueName s ∨ q = consumerQueue s.retryQueueName s := by simpa using hq
    refine .inr ⟨⟨s, hs, hqueue⟩, ?_, c₀, fun x hx => List.mem_append_left _ (hdead x hx)⟩
    rcases hqueue with rfl | rfl <;> exact deadLetterExchange_consumerQueue _ s
  · obtain ⟨messageType, hmem, rfl⟩ := List.mem_map.1 hx
    obtain ⟨c', e, hname, he⟩ := htypes messageType hmem
    refine ⟨⟨consumerQueue s.queueName s, name_consumerQueue _ s, ?_⟩, c', e, hname, ?_⟩
    · exact List.mem_append_left _ (List.mem_append_right _ (by simp))
    · exact List.mem_append_left _ (List.mem_append_left _ he)

end Settings.Bus

namespace Bus

variable {b : Bus}

/-- All that a start declares, in order: over one channel what every bus has and the exchanges of the message types,
and over a channel of its own the queues of each consumer. -/
def plan (b : Bus) (c : ChannelId) (made : List (Settings.Consumer × ChannelId)) : List (ChannelId × Call) :=
  defaults.callsOver c ++ (messageExchanges b.settings).callsOver c ++
    made.flatMap fun e => (consumerQueues e.1).callsOver e.2

/-- Before the consumers are made, the place where rejected messages go has been declared. -/
theorem mem_plan_of_deadLetter (c : ChannelId) {x : Call} (hx : x ∈ deadLetterCalls) (ys : List (ChannelId × Call)) :
    (c, x) ∈ defaults.callsOver c ++ ys :=
  List.mem_append_left _ (List.mem_map_of_mem (List.mem_cons_of_mem _ hx))

/-- Before the consumers are made, the exchanges of their types have been declared: that of error reports for every bus,
the others as message types. -/
theorem exists_exchange_of_subscribed (c : ChannelId) {s : Settings.Consumer} (hs : s ∈ b.settings.consumers)
    {messageType : String} (hmem : messageType ∈ s.subscribedTypes) :
    ∃ e : Exchange, e.name = messageType ∧
      (c, .declareExchange e) ∈ defaults.callsOver c ++ (messageExchanges b.settings).callsOver c := by
  by_cases hreport : messageType = Report.typeName
  · subst hreport
    exact ⟨(Exchange.named Report.typeName).lasting, rfl,
      List.mem_append_left _ (List.mem_map_of_mem List.mem_cons_self)⟩
  · have htype : messageType ∈ messageTypes b.settings := mem_messageTypes.2 ⟨hreport, .inr ⟨s, hs, hmem⟩⟩
    refine ⟨messageExchange messageType b.settings.publisher, rfl, List.mem_append_right _ ?_⟩
    simp only [callsOver, messageExchanges_eq, Topology.calls, List.map_nil, List.append_nil, List.map_map]
    exact List.mem_map_of_mem htype

/-- Whatever a call of the plan refers to has been declared by an earlier one. -/
theorem justified_plan (c : ChannelId) {made : List (Settings.Consumer × ChannelId)}
    (hmade : ∀ e ∈ made, e.1 ∈ b.settings.consumers) : Justified b.settings.Needs [] (b.plan c made) := by
  refine justified_append.2
    ⟨justified_append.2 ⟨b.settings.justified_defaults c, b.settings.justified_messageExchanges c⟩, ?_⟩
  rw [List.nil_append]
  -- on the consumers; what was declared before the first stays declared
  generalize hpast : defaults.callsOver c ++ (messageExchanges b.settings).callsOver c = past
  have hdead : ∀ more, ∀ x ∈ deadLetterCalls, (c, x) ∈ past ++ more := fun more x hx => by
    rw [← hpast, List.append_assoc]
    exact mem_plan_of_deadLetter c hx _
  have htypes : ∀ more, ∀ e ∈ made, ∀ messageType ∈ e.1.subscribedTypes,
      ∃ c' x, x.name = messageType ∧ (c', Call.declareExchange x) ∈ past ++ more := by
    intro more e he messageType hmem
    obtain ⟨x, hname, hx⟩ := b.exists_exchange_of_subscribed c (hmade e he) hmem
    exact ⟨c, x, hname, List.mem_append_left _ (hpast ▸ hx)⟩
  have hall : ∀ more, Justified b.settings.Needs (past ++ more)
      (made.flatMap fun e => (consumerQueues e.1).callsOver e.2) := by
    clear hpast
    induction made with
    | nil => exact fun _ => trivial
    | cons e made ih =>
      intro more
      obtain ⟨he, hrest⟩ := List.forall_mem_cons.1 hmade
      rw [List.flatMap_cons]
      refine justified_append.2
        ⟨b.settings.justified_consumerQueues he (hdead more) (htypes more e List.mem_cons_self) e.2, ?_⟩
      rw [List.append_assoc]
      exact ih hrest (fun more e he => htypes more e (List.mem_cons_of_mem _ he)) _
  simpa using hall []

end Bus

end MessageBus
