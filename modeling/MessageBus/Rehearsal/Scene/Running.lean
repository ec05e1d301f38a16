import MessageBus.Rehearsal.Scene.Publishing
/-!
# Rehearsing the whole bus

The bus runs over a broker in memory, which can also be looked at and used directly.
-/

namespace MessageBus.Rehearsal

/-- A step of rehearsing the bus. -/
inductive BusStep where
  | start
  | stop
  | isRunning
  /-- Whether the token of the bus is cancelled. -/
  | isCancelled
  | cancelBus
  | configuration
  | wait (millis : Nat)
  /-- The token of later publications is cancelled. -/
  | cancel
  | loseChannel (c : ChannelId)
  | publish (m : Publication)
  /-- Something is asked of the broker from elsewhere. -/
  | direct (x : Call)
  | queue (name : String)
  | exchange (name : String)
  | broker

/-- A queue as it is seen. -/
structure QueueView where
  definition : Option Queue
  ready : List Delivery
  subscribers : Nat
  published : Nat

/-- What a step of rehearsing the bus answers. -/
inductive BusAnswer where
  | result (r : Except Fault Unit)
  | flag (b : Bool)
  | configuration (connectionString : String) (consumers : Nat)
  | queue (v : QueueView)
  | exchange (e : Option Exchange)
  | broker (b : Broker)

/-- The token of publications. -/
def publicationToken : TokenId := ⟨1⟩

namespace Broker

/-- A queue as it is seen. -/
def view (b : Broker) (name : String) : QueueView :=
  let q := b.queues.get? name
  ⟨q.map (·.definition), (q.map (·.ready)).getD [], (q.map (·.subscribers.length)).getD 0, b.publishedTo name⟩

end Broker

namespace World

/-- Asks the broker from elsewhere. -/
def performDirectly (w : World) (x : Call) : World × Except Fault Unit :=
  match w.broker with
  | none => (w, .ok ())
  | some b =>
    let (r, result) := b.perform true x
    (w.afterBroker r, result)

end World

/-- Looks at the broker. -/
def look (f : Broker → BusAnswer) : Act Unit BusAnswer :=
  .change fun w => (w, f (w.broker.getD .start))

/-- The act of a step. -/
def BusStep.act (b : Bus) : BusStep → Act Unit BusAnswer
  | start => .alone (BusAnswer.result <$> b.start.run)
  | stop => .alone (do
    b.stop
    return .result (.ok ()))
  | isRunning => .alone (BusAnswer.flag <$> Bus.isRunning)
  | isCancelled => .change fun w => (w, .flag (w.isCancelled b.token))
  | cancelBus => .changing (·.cancel b.token) (.result (.ok ()))
  | configuration => .changing id (.configuration b.settings.connectionString b.settings.consumers.length)
  | wait millis => .waiting millis (.result (.ok ()))
  | cancel => .changing (·.cancel publicationToken) (.result (.ok ()))
  | loseChannel c => .changing (·.lose c) (.result (.ok ()))
  | publish m => .alone (BusAnswer.result <$> m.program b.publisher publicationToken)
  | direct x => .change fun w =>
    let (w, r) := w.performDirectly x
    (w, .result r)
  | queue name => look fun x => .queue (x.view name)
  | exchange name => look fun x => .exchange (x.exchanges.get? name)
  | broker => look .broker

/-- Runs the bus step by step. -/
def running (c : Conditions) (s : Settings.Bus) (steps : List BusStep) : Rehearsed (List (List BusAnswer)) :=
  let w := { c.world 0 2 with broker := some .start }
  play w () (Act.numbered (steps.map (BusStep.act ⟨s, .direct, firstToken⟩)))

end MessageBus.Rehearsal
