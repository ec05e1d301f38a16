import MessageBus.Program.Request
/-!
# A broker in memory

Fanout exchanges, queues that are reached by name through the exchange without one, subscriptions that take turns, and
rejected deliveries that go where their queue sends dead letters. The number of deliveries out at a time is not limited.
-/

namespace MessageBus.Rehearsal

/-- A queue, with what waits in it and the tags of the subscriptions to it. -/
structure QueueState where
  definition : Queue
  ready : List Delivery
  subscribers : List String
  /-- How many deliveries were offered; the subscriptions take turns. -/
  turn : Nat

/-- What a subscription has been given and not yet taken. -/
structure Line where
  inbox : List Delivery
  /-- Whether nothing more will come. -/
  closed : Bool
  /-- Whether nobody listens any more. -/
  left : Bool

/-- The streams of the subscriptions. -/
abbrev Lines := List (StreamId × Line)

namespace Lines

/-- The line of a stream. -/
def get? (ls : Lines) (s : StreamId) : Option Line := (ls.find? fun e => e.1 = s).map (·.2)

/-- Changes the line of a stream. -/
def update (ls : Lines) (s : StreamId) (f : Line → Line) : Lines :=
  ls.map fun e => if e.1 = s then (e.1, f e.2) else e

/-- Whether somebody listens to the stream. -/
def isHeard (ls : Lines) (s : StreamId) : Bool := (ls.get? s).any fun l => !l.left

end Lines

/-- A broker in memory. -/
structure Broker where
  exchanges : SortedMap Exchange
  queues : SortedMap QueueState
  /-- The bindings, each once, in the order in which they were made. -/
  bindings : List Binding
  /-- The streams of the subscriptions, by tag. -/
  streams : SortedMap StreamId
  lines : Lines
  /-- What was handed out and not settled, with the queue it came from. -/
  unacked : List (String × Delivery)
  published : List Outbound
  acked : Nat
  rejected : Nat
  /-- The tag of the latest delivery. -/
  lastTag : Nat
  channelsCreated : Nat
  openChannels : Nat
  isShutDown : Bool

namespace Broker

/-- A broker without anything; one channel to it is open beside those that the bus creates. -/
def start : Broker := ⟨.empty, .empty, [], .empty, [], [], [], 0, 0, 0, 1, 1, false⟩

/-- What handing out the deliveries of a queue comes to. -/
structure Handout where
  /-- The deliveries that stay. -/
  ready : List Delivery
  subscribers : List String
  turn : Nat
  lines : Lines
  /-- The deliveries handed out, in order. -/
  out : List Delivery
  /-- The streams that were given something. -/
  woken : List StreamId

/-- Hands out what is ready, as long as there are subscriptions; one that nobody listens to any more is dropped. -/
def handOut (streams : SortedMap StreamId) (turn : Nat) (lines : Lines) : List Delivery → List String → Handout
  | [], subscribers => ⟨[], subscribers, turn, lines, [], []⟩
  | ready, [] => ⟨ready, [], turn, lines, [], []⟩
  | d :: rest, first :: others =>
    let tag := ((first :: others)[turn % (first :: others).length]?).getD first
    match (streams.get? tag).filter lines.isHeard with
    | some s =>
      let h := handOut streams (turn + 1) (lines.update s fun l => { l with inbox := l.inbox ++ [d] }) rest
        (first :: others)
      { h with out := d :: h.out, woken := s :: h.woken }
    | none => handOut streams (turn + 1) lines (d :: rest) ((first :: others).filter (· ≠ tag))
termination_by ready subscribers => subscribers.length + ready.length
decreasing_by
  · simp
  · have hm : tag ∈ first :: others := by
      have hlt : turn % (first :: others).length < (first :: others).length := Nat.mod_lt _ (by simp)
      show ((first :: others)[turn % (first :: others).length]?).getD first ∈ first :: others
      rw [List.getElem?_eq_getElem hlt]
      exact List.getElem_mem hlt
    have hlt : ((first :: others).filter (· ≠ tag)).length < (first :: others).length :=
      List.length_filter_lt_length_iff_exists.2 ⟨tag, hm, by simp⟩
    exact Nat.add_lt_add_right hlt _

/-- Hands out the deliveries of a queue. -/
def dispatch (b : Broker) (name : String) : Broker × List StreamId :=
  match b.queues.get? name with
  | none => (b, [])
  | some q =>
    let h := handOut b.streams q.turn b.lines q.ready q.subscribers
    ({ b with
        queues := b.queues.insert name ⟨q.definition, h.ready, h.subscribers, h.turn⟩
        lines := h.lines
        unacked := b.unacked ++ h.out.map fun d => (name, d) }, h.woken)

/-- Puts a message into a queue, under the next tag. -/
def enqueue (b : Broker) (name : String) (properties : Properties) (payload : Bytes) : Broker × List StreamId :=
  let tag := b.lastTag + 1
  let d : Delivery := ⟨tag, properties, payload⟩
  let queues := match b.queues.get? name with
    | none => b.queues
    | some q => b.queues.insert name { q with ready := q.ready ++ [d] }
  dispatch { b with lastTag := tag, queues } name

/-- Puts a message into several queues. -/
def enqueueAll (b : Broker) (properties : Properties) (payload : Bytes) : List String → Broker × List StreamId
  | [] => (b, [])
  | name :: names =>
    let (b, woken) := b.enqueue name properties payload
    let (b, more) := enqueueAll b properties payload names
    (b, woken ++ more)

/-- Routes a message; none if there is no such exchange. -/
def route? (b : Broker) (exchange routingKey : String) (properties : Properties) (payload : Bytes) :
    Option (Broker × List StreamId) :=
  if exchange = "" then
    some (if b.queues.contains routingKey then b.enqueue routingKey properties payload else (b, []))
  else if b.exchanges.contains exchange then
    let targets := (b.bindings.filter fun x => x.exchange = exchange).map (·.queue)
    some (b.enqueueAll properties payload targets)
  else none

/-- Declares an exchange; one that exists must be equal. -/
def declareExchange (b : Broker) (e : Exchange) : Except Fault Broker :=
  match b.exchanges.get? e.name with
  | none => .ok { b with exchanges := b.exchanges.insert e.name e }
  | some x => if x = e then .ok b else .error (.declareExchange e.name)

/-- Declares a queue; one that exists must be equal. -/
def declareQueue (b : Broker) (q : Queue) : Except Fault Broker :=
  match b.queues.get? q.name with
  | none => .ok { b with queues := b.queues.insert q.name ⟨q, [], [], 0⟩ }
  | some x => if x.definition = q then .ok b else .error (.declareQueue q.name)

/-- Binds a queue; both ends must exist. -/
def bindQueue (b : Broker) (x : Binding) : Except Fault Broker :=
  if b.exchanges.contains x.exchange && b.queues.contains x.queue then
    .ok (if x ∈ b.bindings then b else { b with bindings := b.bindings ++ [x] })
  else .error (.bindQueue x.queue x.exchange)

/-- Ends the subscription with the tag. -/
def cancel (b : Broker) (tag : String) : Broker × List StreamId :=
  let drop (q : QueueState) : QueueState := { q with subscribers := q.subscribers.filter (· ≠ tag) }
  let stream := b.streams.get? tag
  ({ b with
      streams := b.streams.erase tag
      queues := b.queues.filterMap fun _ q => some (drop q)
      lines := match stream with
        | some s => b.lines.update s fun l => { l with closed := true }
        | none => b.lines }, stream.toList)

/-- Publishes a message; it counts as published even if there is no such exchange. -/
def publish (b : Broker) (m : Outbound) : (Broker × List StreamId) × Except Fault Unit :=
  let b := { b with published := b.published ++ [m] }
  match b.route? m.exchange m.routingKey m.properties m.payload with
  | some r => (r, .ok ())
  | none => ((b, []), .error (.publish m.properties.messageType ("no exchange `" ++ m.exchange ++ "`")))

/-- What was handed out under a tag, and the rest. -/
def takeUnacked? (b : Broker) (tag : Nat) : Option ((String × Delivery) × Broker) :=
  (b.unacked.find? fun e => e.2.tag = tag).map fun e =>
    (e, { b with unacked := b.unacked.filter fun e => e.2.tag ≠ tag })

/-- Settles a delivery for good. -/
def ack (b : Broker) (tag : Nat) : Except Fault Broker :=
  match b.takeUnacked? tag with
  | none => .error (.ack tag)
  | some (_, b) => .ok { b with acked := b.acked + 1 }

/-- Takes a delivery back and sends its message where its queue sends dead letters. -/
def reject (b : Broker) (tag : Nat) : Except Fault (Broker × List StreamId) :=
  match b.takeUnacked? tag with
  | none => .error (.reject tag)
  | some ((name, d), b) =>
    let b := { b with rejected := b.rejected + 1 }
    let definition := (b.queues.get? name).map (·.definition)
    .ok (((definition.bind (·.deadLetterExchange)).bind fun exchange =>
      b.route? exchange ((definition.bind (·.deadLetterRoutingKey)).getD "") d.properties d.payload).getD (b, []))

/-- Does what is asked on a channel; also the streams that were given something. -/
def perform (b : Broker) (isOpen : Bool) : Call → (Broker × List StreamId) × Except Fault Unit
  | .declareExchange e => still (b.declareExchange e)
  | .declareQueue q => still (b.declareQueue q)
  | .bindQueue x => still (b.bindQueue x)
  | .setPrefetch _ => ((b, []), .ok ())
  | .cancel tag => (b.cancel tag, .ok ())
  | .publish m => b.publish m
  | .ack tag => still (b.ack tag)
  | .reject tag => match b.reject tag with
    | .ok r => (r, .ok ())
    | .error f => ((b, []), .error f)
  | .close => (({ b with openChannels := if isOpen then b.openChannels - 1 else b.openChannels }, []), .ok ())
where
  /-- A change that gives nothing to any stream. -/
  still : Except Fault Broker → (Broker × List StreamId) × Except Fault Unit
    | .ok b => ((b, []), .ok ())
    | .error f => ((b, []), .error f)

/-- Subscribes to a queue. -/
def consume (b : Broker) (queue tag : String) (s : StreamId) : Except Fault (Broker × List StreamId) :=
  match b.queues.get? queue with
  | none => .error (.consumer queue)
  | some q =>
    let q := { q with subscribers := q.subscribers ++ [tag] }
    .ok (dispatch { b with
      queues := b.queues.insert queue q
      streams := b.streams.insert tag s
      lines := b.lines ++ [(s, ⟨[], false, false⟩)] } queue)

/-- How many messages were published to an exchange, or to a queue by name. -/
def publishedTo (b : Broker) (target : String) : Nat :=
  (b.published.filter fun m => m.exchange = target || (m.exchange = "" && m.routingKey = target)).length

end Broker

end MessageBus.Rehearsal
