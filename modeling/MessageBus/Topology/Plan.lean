import MessageBus.Topology.Basic
import MessageBus.Settings.Bus
import MessageBus.Message.Report
/-!
# The topology of the bus

Which exchanges, queues and bindings the bus declares: the ones it always has, one exchange for each message type, and
two queues for each consumer, of which the main one is bound to the types it subscribes to.
-/

namespace MessageBus

/-- Exchanges, queues and bindings, each in the order of their declaration. -/
structure Topology where
  exchanges : List Exchange
  queues : List Queue
  bindings : List Binding
  deriving DecidableEq, Repr

/-- The exchange to which rejected messages go. -/
def deadLetterExchange : String := "messaging.DeadLetterExchange"

/-- The queue in which rejected messages end. -/
def deadLetterQueue : String := "messaging.DeadLetter"

namespace Topology

/-- Nothing. -/
def empty : Topology := ⟨[], [], []⟩

/-- With the exchange, unless there is one of that name. -/
def exchange (t : Topology) (e : Exchange) : Topology :=
  if t.exchanges.any fun x => x.name = e.name then t else { t with exchanges := t.exchanges ++ [e] }

/-- With the queue. -/
def queue (t : Topology) (q : Queue) : Topology := { t with queues := t.queues ++ [q] }

/-- With the binding. -/
def bind (t : Topology) (b : Binding) : Topology := { t with bindings := t.bindings ++ [b] }

/-- What every bus has: the exchange of error reports, and the exchange and the queue of dead letters. -/
def defaults : Topology :=
  let deadLetters := (((Queue.named deadLetterQueue).lasting.onDisk).holding 1000).living 86400000
  (((empty.exchange (Exchange.named Report.typeName).lasting).exchange
    (Exchange.named deadLetterExchange).lasting).queue deadLetters).bind
    (.between deadLetterQueue deadLetterExchange)

/-- The exchange of a message type: durable, and deleting itself if the publisher wants it so; the one of error reports
never does. -/
def messageExchange (messageType : String) (p : Settings.Publisher) : Exchange :=
  (Exchange.named messageType).lasting.deleting (p.autoDeleteExchanges && messageType ≠ Report.typeName)

/-- The types that are published or subscribed to, sorted, each once, without the one of error reports. -/
def messageTypes (b : Settings.Bus) : List String :=
  let all := b.publisher.announcedTypes ++ b.consumers.flatMap (·.subscribedTypes)
  (SortedMap.ofList ((all.filter (· ≠ Report.typeName)).map (·, ()))).keys

/-- One exchange for each message type. -/
def messageExchanges (b : Settings.Bus) : Topology :=
  (messageTypes b).foldl (fun t messageType => t.exchange (messageExchange messageType b.publisher)) empty

/-- A queue of a consumer: its lifetime in whole milliseconds and its length are limited only if the settings say so,
and its rejected messages go to the dead letters. -/
def consumerQueue (name : String) (c : Settings.Consumer) : Queue :=
  let q := ((Queue.named name).lasting.onDisk.deleting c.autoDelete).deadLettering deadLetterExchange deadLetterQueue
  let q := if c.messageTtl = .zero then q else q.living (min c.messageTtl.millis 0xffffffff)
  if c.maxMessageCount = 0 then q else q.holding c.maxMessageCount.toNat

/-- The queues of a consumer. Only the main one is bound; the other is fed directly. -/
def consumerQueues (c : Settings.Consumer) : Topology :=
  let t := (empty.queue (consumerQueue c.queueName c)).queue (consumerQueue c.retryQueueName c)
  c.subscribedTypes.foldl (fun t messageType => t.bind (.between c.queueName messageType)) t

end Topology

end MessageBus
