import MessageBus.Topology.Plan
/-!
# What the topologies contain

The topologies are put together one exchange, queue or binding at a time. `messageExchanges_eq` and `consumerQueues_eq`
say what comes of it.
-/

namespace MessageBus.Topology

theorem mem_messageTypes {b : Settings.Bus} {messageType : String} :
    messageType ∈ messageTypes b ↔ messageType ≠ Report.typeName ∧
      (messageType ∈ b.publisher.announcedTypes ∨ ∃ s ∈ b.consumers, messageType ∈ s.subscribedTypes) := by
  rw [messageTypes, SortedMap.mem_keys_ofList, List.map_map]
  simp only [Function.comp_def, List.map_id', List.mem_filter, List.mem_append, List.mem_flatMap, decide_eq_true_eq]
  exact and_comm

theorem exchanges_defaults :
    defaults.exchanges = [(Exchange.named Report.typeName).lasting, (Exchange.named deadLetterExchange).lasting] := rfl

/-- Exchanges of different names are all kept, in order. -/
theorem foldl_exchange {p : Settings.Publisher} {types : List String} {t : Topology}
    (h : (t.exchanges.map (·.name) ++ types).Nodup) :
    types.foldl (fun t messageType => t.exchange (messageExchange messageType p)) t =
      { t with exchanges := t.exchanges ++ types.map fun messageType => messageExchange messageType p } := by
  induction types generalizing t with
  | nil => simp
  | cons messageType types ih =>
    have hnew : messageType ∉ t.exchanges.map (·.name) := fun hmem =>
      (List.nodup_append.1 h).2.2 _ hmem _ List.mem_cons_self rfl
    have hnone : ¬(t.exchanges.any fun x => decide (x.name = (messageExchange messageType p).name)) = true := by
      simpa [messageExchange, Exchange.deleting, Exchange.lasting, Exchange.named] using hnew
    rw [List.foldl_cons, exchange, if_neg hnone, ih]
    · simp
    · simpa [messageExchange, Exchange.deleting, Exchange.lasting, Exchange.named] using h

/-- One exchange for each message type, and nothing else. -/
theorem messageExchanges_eq (b : Settings.Bus) :
    messageExchanges b = ⟨(messageTypes b).map fun messageType => messageExchange messageType b.publisher, [], []⟩ :=
  foldl_exchange (t := empty) (SortedMap.nodup_keys _)

/-- The two queues of a consumer, and bindings of the main one to the types that it subscribed to. -/
theorem consumerQueues_eq (s : Settings.Consumer) :
    consumerQueues s = ⟨[], [consumerQueue s.queueName s, consumerQueue s.retryQueueName s],
      s.subscribedTypes.map (Binding.between s.queueName)⟩ := by
  have hfold : ∀ (types : List String) (t : Topology),
      types.foldl (fun t messageType => t.bind (.between s.queueName messageType)) t =
        { t with bindings := t.bindings ++ types.map (Binding.between s.queueName) } := by
    intro types
    induction types with
    | nil => exact fun t => by simp
    | cons messageType types ih =>
      intro t
      rw [List.foldl_cons, ih, bind]
      simp
  exact hfold _ _

theorem name_consumerQueue (name : String) (s : Settings.Consumer) : (consumerQueue name s).name = name := by
  unfold consumerQueue
  split <;> split <;> rfl

theorem deadLetterExchange_consumerQueue (name : String) (s : Settings.Consumer) :
    (consumerQueue name s).deadLetterExchange = some deadLetterExchange := by
  unfold consumerQueue
  split <;> split <;> rfl

end MessageBus.Topology
