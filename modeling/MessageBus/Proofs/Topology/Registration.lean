import MessageBus.Proofs.Settings.Rules
import MessageBus.Proofs.Topology.Isolation
import Mathlib.Data.List.Sort
import Mathlib.Data.String.Basic
/-!
# The order of registration

What a bus declares depends on what was registered, and not on the order in which it was: neither on that of the types
that the publisher announces, nor on that of the consumers, nor on that of the subscriptions of one consumer.
-/

namespace MessageBus

namespace Settings

/-! ## The order of subscriptions -/

/-- The steps differ only in the order of the subscriptions, and in the places where they stand between the others. -/
structure Resubscribed (steps steps' : List ConsumerStep) : Prop where
  others : steps.filter (·.subscription?.isNone) = steps'.filter (·.subscription?.isNone)
  subscriptions : (subscriptionsIn steps).Perm (subscriptionsIn steps')

namespace Resubscribed

variable {name : String} {steps steps' : List ConsumerStep} {c : Consumer}

/-- What no subscription sets is set alike. -/
theorem lastValue_eq (h : Resubscribed steps steps') {α : Type} {value? : ConsumerStep → Option α} (before : α)
    (hnone : ∀ s, value? (.subscribe s) = none) : lastValue value? before steps = lastValue value? before steps' := by
  have hothers : ∀ steps : List ConsumerStep,
      steps.filterMap value? = (steps.filter (·.subscription?.isNone)).filterMap value? := by
    intro steps
    rw [List.filterMap_filter]
    refine List.filterMap_congr fun step _ => ?_
    cases step with
    | subscribe s => exact hnone s
    | _ => rfl
  rw [lastValue, lastValue, hothers steps, hothers steps', h.others]

theorem setBy (h : Resubscribed steps steps') (hc : c.SetBy name steps') : c.SetBy name steps where
  named := hc.named
  queueName := hc.queueName.trans (h.lastValue_eq _ fun _ => rfl).symm
  retryQueueName := hc.retryQueueName.trans (congrArg (· ++ ".Retry") (h.lastValue_eq _ fun _ => rfl).symm)
  messageTtl := hc.messageTtl.trans (h.lastValue_eq _ fun _ => rfl).symm
  maxMessageCount := hc.maxMessageCount.trans (h.lastValue_eq _ fun _ => rfl).symm
  maxConcurrency := hc.maxConcurrency.trans (h.lastValue_eq _ fun _ => rfl).symm
  maxRetryCount := hc.maxRetryCount.trans (h.lastValue_eq _ fun _ => rfl).symm
  retryDelay := hc.retryDelay.trans (h.lastValue_eq _ fun _ => rfl).symm
  autoDelete := hc.autoDelete.trans (h.lastValue_eq _ fun _ => rfl).symm
  unreadable := hc.unreadable.trans (h.lastValue_eq _ fun _ => rfl).symm

end Resubscribed

theorem Consumer.SetBy.eq {name : String} {steps : List ConsumerStep} {c c' : Consumer} (h : c.SetBy name steps)
    (h' : c'.SetBy name steps) (hsubscriptions : c.subscriptions = c'.subscriptions) : c = c' := by
  cases c
  cases c'
  cases h
  cases h'
  simp_all

/-- Where both orders make settings of a consumer, they make the same. -/
theorem Resubscribed.eq_of_build {name : String} {steps steps' : List ConsumerStep} {c c' : Consumer}
    (h : Resubscribed steps steps') (hc : (ConsumerDraft.ofSteps name steps).build = .ok c)
    (hc' : (ConsumerDraft.ofSteps name steps').build = .ok c') : c = c' := by
  have hset : c.SetBy name steps := ConsumerDraft.eq_of_build hc ▸ ConsumerDraft.setBy_ofSteps name steps
  have hset' : c'.SetBy name steps' := ConsumerDraft.eq_of_build hc' ▸ ConsumerDraft.setBy_ofSteps name steps'
  refine hset.eq (h.setBy hset') (SortedMap.ext_get? fun messageType => Option.ext fun s => ?_)
  have hget : c.subscription? messageType = some s ↔ _ := ConsumerDraft.subscription?_of_build hc
  have hget' : c'.subscription? messageType = some s ↔ _ := ConsumerDraft.subscription?_of_build hc'
  rw [← mem_subscriptionsIn] at hget hget'
  exact hget.trans (Iff.trans (and_congr_left fun _ => h.subscriptions.mem_iff) hget'.symm)

/-! ## The order of announcements -/

/-- The types that are announced in the steps, in order. -/
def announcedIn (steps : List PublisherStep) : List String :=
  steps.filterMap fun step => match step with
    | .publishes messageType => some messageType
    | _ => none

namespace Publisher

variable {steps steps' : List PublisherStep}

theorem mem_announcedTypes {messageType : String} :
    messageType ∈ (ofSteps steps).announcedTypes ↔ messageType ∈ announcedIn steps := by
  induction steps using List.reverseRecOn with
  | nil => exact Iff.rfl
  | append_singleton steps step ih =>
    rw [announcedTypes] at ih
    rw [ofSteps, List.foldl_concat, ← ofSteps, announcedTypes, announcedIn, List.filterMap_append, ← announcedIn,
      List.mem_append]
    cases step with
    | publishes announced =>
      simp only [apply, SortedMap.mem_keys_insert, List.filterMap_cons, List.filterMap_nil, List.mem_singleton, ih]
      exact or_comm
    | onUnwritable policy => simpa [apply] using ih
    | autoDelete => simpa [apply] using ih

/-- Apart from the policy and the deletion of exchanges, only which types are announced matters. -/
theorem ofSteps_eq (hpolicy : (ofSteps steps).unwritable = (ofSteps steps').unwritable)
    (hdeletes : (ofSteps steps).autoDeleteExchanges = (ofSteps steps').autoDeleteExchanges)
    (h : (announcedIn steps).Perm (announcedIn steps')) : ofSteps steps = ofSteps steps' := by
  have hget : ∀ messageType, (ofSteps steps).types.get? messageType = (ofSteps steps').types.get? messageType := by
    intro messageType
    have hmem : messageType ∈ (ofSteps steps).announcedTypes ↔ messageType ∈ (ofSteps steps').announcedTypes := by
      rw [mem_announcedTypes, mem_announcedTypes, h.mem_iff]
    rw [announcedTypes, announcedTypes, SortedMap.mem_keys_iff, SortedMap.mem_keys_iff] at hmem
    exact Option.ext fun () => by
      simpa [Option.isSome_iff_exists, Unique.exists_iff] using hmem
  generalize ofSteps steps = p at *
  generalize ofSteps steps' = p' at *
  cases p
  cases p'
  simp only [mk.injEq] at hpolicy hdeletes ⊢
  exact ⟨hpolicy, hdeletes, SortedMap.ext_get? hget⟩

end Publisher

/-! ## The order of consumers -/

/-- The steps by which the publisher and the consumers of a bus are set up, the consumers with their names. -/
structure Registration where
  publisher : List PublisherStep
  consumers : List (String × List ConsumerStep)

/-- The consumer is built of the steps, under the name. -/
def Consumer.BuiltBy (c : Consumer) (e : String × List ConsumerStep) : Prop :=
  (ConsumerDraft.ofSteps e.1 e.2).build = .ok c

/-- The settings of the bus are built, and their publisher and their consumers are the ones that were registered. -/
structure Bus.RegisteredBy (b : Bus) (r : Registration) : Prop where
  built : ∃ draft : BusDraft, draft.build = .ok b
  publisher : b.publisher = .ofSteps r.publisher
  consumers : List.Forall₂ (fun e c => Consumer.BuiltBy c e) r.consumers b.consumers

/-- The registrations differ only in the order of announcements, in that of consumers and in that of the subscriptions
of each consumer. -/
structure Registration.Reordered (r r' : Registration) : Prop where
  unwritable : (Publisher.ofSteps r.publisher).unwritable = (Publisher.ofSteps r'.publisher).unwritable
  autoDelete :
    (Publisher.ofSteps r.publisher).autoDeleteExchanges = (Publisher.ofSteps r'.publisher).autoDeleteExchanges
  announced : (announcedIn r.publisher).Perm (announcedIn r'.publisher)
  consumers : ∃ es, List.Forall₂ (fun e e' => e.1 = e'.1 ∧ Resubscribed e.2 e'.2) r.consumers es ∧ es.Perm r'.consumers

namespace Registration

variable {r r' : Registration} {b b' : Bus}

/-- The type is announced by the publisher or subscribed to by some consumer. -/
def Mentions (r : Registration) (messageType : String) : Prop :=
  messageType ∈ announcedIn r.publisher ∨ ∃ e ∈ r.consumers, messageType ∈ typesIn e.2

/-- Consumers that are built of the same steps but for the order of subscriptions are the same. -/
theorem consumers_eq {es es' : List (String × List ConsumerStep)} {cs cs' : List Consumer}
    (h : List.Forall₂ (fun e c => Consumer.BuiltBy c e) es cs)
    (hes : List.Forall₂ (fun e e' => e.1 = e'.1 ∧ Resubscribed e.2 e'.2) es es')
    (h' : List.Forall₂ (fun e c => Consumer.BuiltBy c e) es' cs') : cs = cs' := by
  induction h generalizing es' cs' with
  | nil =>
    cases hes
    cases h'
    rfl
  | cons hc _ ih =>
    cases hes with
    | cons hsame hes =>
      cases h' with
      | cons hc' h' =>
        obtain ⟨hname, hsubscribed⟩ := hsame
        rw [Consumer.BuiltBy, ← hname] at hc'
        rw [hsubscribed.eq_of_build hc hc', ih hes h']

theorem Reordered.publisher_eq (h : r.Reordered r') (hb : b.RegisteredBy r) (hb' : b'.RegisteredBy r') :
    b.publisher = b'.publisher := by
  rw [hb.publisher, hb'.publisher]
  exact Publisher.ofSteps_eq h.unwritable h.autoDelete h.announced

theorem Reordered.consumers_perm (h : r.Reordered r') (hb : b.RegisteredBy r) (hb' : b'.RegisteredBy r') :
    b.consumers.Perm b'.consumers := by
  obtain ⟨es, hes, hperm⟩ := h.consumers
  obtain ⟨cs, hbuilt, hcs⟩ : ∃ cs, List.Forall₂ (fun e c => Consumer.BuiltBy c e) es cs ∧ cs.Perm b'.consumers := by
    have hcomp : Relation.Comp List.Perm (List.Forall₂ fun e c => Consumer.BuiltBy c e) es b'.consumers :=
      ⟨r'.consumers, hperm, hb'.consumers⟩
    rwa [← List.forall₂_comp_perm_eq_perm_comp_forall₂] at hcomp
  exact consumers_eq hb.consumers hes hbuilt ▸ hcs

end Registration

/-! ## The types that are mentioned -/

section Mentions

variable {r : Registration} {b : Bus}

/-- Every subscription makes its type one of the subscribed ones, and nothing else does. -/
theorem Consumer.BuiltBy.mem_subscribedTypes {c : Consumer} {e : String × List ConsumerStep} (h : c.BuiltBy e)
    {messageType : String} : messageType ∈ c.subscribedTypes ↔ messageType ∈ typesIn e.2 := by
  rw [Consumer.subscribedTypes, SortedMap.mem_keys_iff, Option.isSome_iff_exists, typesIn, List.mem_map]
  simp only [mem_subscriptionsIn]
  exact exists_congr fun s => ConsumerDraft.subscription?_of_build h

theorem exists_mem_subscribedTypes {es : List (String × List ConsumerStep)} {cs : List Consumer}
    (h : List.Forall₂ (fun e c => Consumer.BuiltBy c e) es cs) {messageType : String} :
    (∃ c ∈ cs, messageType ∈ c.subscribedTypes) ↔ ∃ e ∈ es, messageType ∈ typesIn e.2 := by
  induction h with
  | nil => simp
  | cons hc _ ih => simp only [List.exists_mem_cons_iff, hc.mem_subscribedTypes, ih]

/-- The types that have exchanges of their own are the ones that are mentioned, but for that of error reports. -/
theorem Bus.RegisteredBy.mem_messageTypes (h : b.RegisteredBy r) {messageType : String} :
    messageType ∈ Topology.messageTypes b ↔ r.Mentions messageType ∧ messageType ≠ Report.typeName := by
  rw [Topology.mem_messageTypes, h.publisher, Publisher.mem_announcedTypes, exists_mem_subscribedTypes h.consumers]
  exact and_comm

end Mentions

end Settings

namespace Topology

open Settings (Consumer Registration)

/-! ## The order in which tables are listed -/

/-- A listing gives the types of every consumer, each once, in any order. -/
def Lists (listed : Consumer → List String) : Prop :=
  ∀ c, (listed c).Perm c.subscribedTypes

/-- The exchanges of message types, made from the types of the consumers as they are listed. -/
def exchangesFrom (b : Settings.Bus) (listed : Consumer → List String) : Topology :=
  let all := b.publisher.announcedTypes ++ b.consumers.flatMap listed
  let types := (SortedMap.ofList ((all.filter (· ≠ Report.typeName)).map (·, ()))).keys
  types.foldl (fun t messageType => t.exchange (messageExchange messageType b.publisher)) empty

/-- The queues of a consumer, with bindings to its types, which are sorted after they were listed. -/
def queuesFrom (c : Consumer) (listed : Consumer → List String) : Topology :=
  ((listed c).mergeSort fun a b => a ≤ b).foldl (fun t messageType => t.bind (.between c.queueName messageType))
    ((empty.queue (consumerQueue c.queueName c)).queue (consumerQueue c.retryQueueName c))

theorem messageExchanges_eq_exchangesFrom (b : Settings.Bus) :
    messageExchanges b = exchangesFrom b (·.subscribedTypes) := rfl

theorem exchangesFrom_eq {listed : Consumer → List String} (h : Lists listed) (b : Settings.Bus) :
    exchangesFrom b listed = messageExchanges b := by
  rw [messageExchanges_eq_exchangesFrom, exchangesFrom, exchangesFrom]
  congr 1
  refine (SortedMap.sorted_keys _).eq_of_mem_iff (SortedMap.sorted_keys _) fun messageType => ?_
  simp only [SortedMap.mem_keys_ofList, List.map_map, Function.comp_def, List.map_id', List.mem_filter,
    List.mem_append, List.mem_flatMap, (h _).mem_iff]

theorem queuesFrom_eq {listed : Consumer → List String} (h : Lists listed) (c : Consumer) :
    queuesFrom c listed = consumerQueues c := by
  have hsorted : (listed c).mergeSort (fun a b => a ≤ b) = c.subscribedTypes := by
    have hperm : ((listed c).mergeSort fun a b => a ≤ b).Perm c.subscribedTypes := (List.mergeSort_perm _ _).trans (h c)
    exact hperm.eq_of_pairwise' (List.pairwise_mergeSort' _ _) (c.subscriptions.sorted_keys.imp le_of_lt)
  rw [queuesFrom, hsorted]
  rfl

/-! ## What the topologies consist of -/

/-- Durable exchanges and nothing else: one for every type that is mentioned, but for that of error reports, sorted by
name. -/
def HasExchangeEach (t : Topology) (r : Registration) (autoDelete : Bool) : Prop :=
  ∃ types : List String, t = ⟨types.map fun messageType => ⟨messageType, autoDelete, true⟩, [], []⟩ ∧
    types.Pairwise (· < ·) ∧ ∀ messageType, messageType ∈ types ↔ r.Mentions messageType ∧ messageType ≠ Report.typeName

/-- Bindings of the queue to every type that is subscribed to in the steps and to nothing else, sorted. -/
def BindsEach (t : Topology) (queue : String) (steps : List Settings.ConsumerStep) : Prop :=
  ∃ types : List String, t.bindings = types.map (Binding.between queue) ∧ types.Pairwise (· < ·) ∧
    ∀ messageType, messageType ∈ types ↔ messageType ∈ Settings.typesIn steps

theorem sorted_messageTypes (b : Settings.Bus) : (messageTypes b).Pairwise (· < ·) := SortedMap.sorted_keys _

theorem hasExchangeEach_messageExchanges {b : Settings.Bus} {r : Registration} (h : b.RegisteredBy r) :
    (messageExchanges b).HasExchangeEach r b.publisher.autoDeleteExchanges := by
  refine ⟨messageTypes b, ?_, sorted_messageTypes b, fun _ => h.mem_messageTypes⟩
  rw [messageExchanges_eq, mk.injEq]
  refine ⟨List.map_congr_left fun messageType hmem => ?_, rfl, rfl⟩
  have hne : messageType ≠ Report.typeName := (mem_messageTypes.1 hmem).1
  simp [messageExchange, hne, Exchange.deleting, Exchange.lasting, Exchange.named]

theorem bindsEach_consumerQueues {c : Consumer} {e : String × List Settings.ConsumerStep} (h : c.BuiltBy e) :
    (consumerQueues c).BindsEach c.queueName e.2 :=
  ⟨c.subscribedTypes, bindings_consumerQueues c, c.subscriptions.sorted_keys, fun _ => h.mem_subscribedTypes⟩

/-- Two buses whose registrations differ only in order declare the same exchanges of message types, have consumers of
the same names, and declare the same queues and bindings for consumers of the same name. It does not matter in which
order the types of a consumer are listed, either. There is one durable exchange for every type that is announced or
subscribed to, but for that of error reports, and a binding for every type that a consumer subscribed to, each of them
sorted by name. -/
theorem registered_in_any_order {r r' : Registration} {b b' : Settings.Bus} (hb : b.RegisteredBy r)
    (hb' : b'.RegisteredBy r') (h : r.Reordered r') :
    messageExchanges b = messageExchanges b' ∧
      (b.consumers.map (·.name)).Perm (b'.consumers.map (·.name)) ∧
      (∀ c ∈ b.consumers, ∀ c' ∈ b'.consumers, c.name = c'.name → consumerQueues c = consumerQueues c') ∧
      (∀ listed, Lists listed →
        exchangesFrom b listed = messageExchanges b ∧ ∀ c, queuesFrom c listed = consumerQueues c) ∧
      (messageExchanges b).HasExchangeEach r b.publisher.autoDeleteExchanges ∧
      List.Forall₂ (fun e c => (consumerQueues c).BindsEach c.queueName e.2) r.consumers b.consumers := by
  have hpublisher : b.publisher = b'.publisher := h.publisher_eq hb hb'
  have hconsumers : b.consumers.Perm b'.consumers := h.consumers_perm hb hb'
  refine ⟨?_, hconsumers.map _, fun c hc c' hc' hname => ?_, fun listed hlisted => ⟨exchangesFrom_eq hlisted b,
    queuesFrom_eq hlisted⟩, hasExchangeEach_messageExchanges hb, hb.consumers.imp fun _ _ => bindsEach_consumerQueues⟩
  · have htypes : messageTypes b = messageTypes b' := by
      refine (sorted_messageTypes b).eq_of_mem_iff (sorted_messageTypes b') fun messageType => ?_
      simp only [mem_messageTypes, hpublisher, hconsumers.mem_iff]
    rw [messageExchanges, messageExchanges, htypes, hpublisher]
  · obtain ⟨draft, hbuild⟩ := hb.built
    have hnodup := Settings.BusDraft.nodup_names_of_build hbuild
    rw [List.inj_on_of_nodup_map hnodup hc (hconsumers.mem_iff.2 hc') hname]

end Topology

/-! ## Two desks in either order -/

namespace Sample

/-- The subscription to shipments. -/
def shipments : Settings.Subscription :=
  ⟨⟨"orders.OrderShipped", .record "struct OrderShipped" [("id", .word 32)]⟩, .json, ⟨1⟩⟩

/-- Two types are announced, and two consumers are registered, of which the second subscribes to two types. -/
def desks : Settings.Registration where
  publisher := [.publishes "orders.OrderPlaced", .autoDelete, .publishes "billing.InvoiceIssued"]
  consumers := [("billing", [.subscribe orders]),
    ("shipping", [.subscribe orders, .maxConcurrency 2, .subscribe shipments])]

/-- The same, the other way round. -/
def desksBackwards : Settings.Registration where
  publisher := [.autoDelete, .publishes "billing.InvoiceIssued", .publishes "orders.OrderPlaced"]
  consumers := [("shipping", [.subscribe shipments, .subscribe orders, .maxConcurrency 2]),
    ("billing", [.subscribe orders])]

/-- The settings of a bus with the publisher and the consumers. -/
def busOf (r : Settings.Registration) : Settings.Bus where
  connectionString := "amqp://localhost"
  connectionPoolSize := none
  publisher := .ofSteps r.publisher
  consumers := r.consumers.map fun e => (Settings.ConsumerDraft.ofSteps e.1 e.2).settings

end Sample

open Sample in
/-- The desks declare the same exchanges in either order, and the same queues for shipping. -/
theorem Topology.desks_in_any_order :
    let b := busOf desks
    let b' := busOf desksBackwards
    b.consumers.map (·.name) = ["billing", "shipping"] ∧ b'.consumers.map (·.name) = ["shipping", "billing"] ∧
      messageExchanges b = messageExchanges b' ∧
      (∀ c ∈ b.consumers, ∀ c' ∈ b'.consumers, c.name = c'.name → consumerQueues c = consumerQueues c') ∧
      (messageExchanges b).exchanges.map (·.name) =
        ["billing.InvoiceIssued", "orders.OrderPlaced", "orders.OrderShipped"] := by
  intro b b'
  have hb : b.RegisteredBy desks :=
    ⟨⟨⟨some "amqp://localhost", none, b.publisher, b.consumers⟩, rfl⟩, rfl, .cons rfl (.cons rfl .nil)⟩
  have hb' : b'.RegisteredBy desksBackwards :=
    ⟨⟨⟨some "amqp://localhost", none, b'.publisher, b'.consumers⟩, rfl⟩, rfl, .cons rfl (.cons rfl .nil)⟩
  have hreordered : desks.Reordered desksBackwards := by
    refine ⟨by decide, by decide, List.Perm.swap _ _ [], [("billing", [.subscribe orders]),
      ("shipping", [.subscribe shipments, .subscribe orders, .maxConcurrency 2])], ?_, List.Perm.swap _ _ []⟩
    exact .cons ⟨rfl, rfl, List.Perm.refl _⟩ (.cons ⟨rfl, rfl, List.Perm.swap _ _ []⟩ .nil)
  obtain ⟨hexchanges, -, hqueues, -⟩ := registered_in_any_order hb hb' hreordered
  exact ⟨rfl, rfl, hexchanges, hqueues, by decide⟩

end MessageBus
