import MessageBus.Intake
import MessageBus.Publishing.Publisher
import MessageBus.Topology.Install
/-!
# The life of the bus

The bus is idle, then running, then stopped, and never goes back. Starting it declares the topology and starts every
consumer; a start that fails gives up the consumers it has made and leaves the bus idle, so that it can be tried again.
Stopping it disposes of the consumers, cancels the token of the bus, and closes the publisher and the channel source.

The stage is locked while the bus starts or stops, so that these happen one after another.
-/

namespace MessageBus

/-- A bus: its settings, where its channels come from, and the token that is cancelled when it stops. -/
structure Bus where
  settings : Settings.Bus
  source : ChannelSource
  token : TokenId

namespace Bus

/-- The fault of starting a bus that runs. -/
def startedFault : Fault := .configuration "messaging runtime already started"

/-- The fault of starting a bus that was stopped. -/
def stoppedFault : Fault := .configuration "messaging runtime was stopped"

/-- The publisher of the bus. -/
def publisher (b : Bus) : Publisher := ⟨b.settings.publisher, .json, b.source⟩

/-- Whether the bus is running. -/
def isRunning : Program Bool := do
  let stage ← Program.request (.lock .stage)
  Program.request (.unlock .stage)
  return stage.isRunning

/-- Declares what every bus has and the exchanges of the message types, over a channel that is closed again. -/
def provision (b : Bus) : Attempt Unit := do
  let c ← b.source.create
  let result ← Attempt.result do
    Topology.defaults.install c
    (Topology.messageExchanges b.settings).install c
  let _ ← (Attempt.call c .close).result
  .ofProgram (return result)

/-- Makes the consumers of the settings, each on a new channel over which its queues are declared. The consumers made
are given back even if one fails. -/
def prepareAll (source : ChannelSource) (made : List Intake) :
    List Settings.Consumer → Program (List Intake × Except Fault Unit)
  | [] => return (made, .ok ())
  | s :: rest => do
    match ← source.create.run with
    | .error f => return (made, .error f)
    | .ok c =>
      let made := made ++ [Intake.idle s c]
      match ← ((Topology.consumerQueues s).install c).run with
      | .error f => return (made, .error f)
      | .ok () => prepareAll source made rest

/-- Starts the consumers in order, up to the first that fails. -/
def startAll (token : TokenId) (started : List Intake) : List Intake → Program (List Intake × Except Fault Unit)
  | [] => return (started, .ok ())
  | i :: rest => do
    match ← (Intake.start token).run.run i with
    | (.error f, i) => return (started ++ i :: rest, .error f)
    | (.ok (), i) => startAll token (started ++ [i]) rest

/-- Disposes of the consumers in order. -/
def disposeAll : List Intake → Program Unit
  | [] => return ()
  | i :: rest => do
    let _ ← i.dispose
    disposeAll rest

/-- Makes and starts the consumers of the bus. -/
def startConsumers (b : Bus) : Program (List Intake × Except Fault Unit) := do
  match ← prepareAll b.source [] b.settings.consumers with
  | (made, .error f) => return (made, .error f)
  | (made, .ok ()) => startAll b.token [] made

/-- Starts an idle bus, whose stage is held. -/
def startIdle (b : Bus) : Attempt Unit := do
  b.provision
  match ← Attempt.lift b.startConsumers with
  | (made, .error f) =>
    Attempt.lift (disposeAll made)
    throw f
  | (made, .ok ()) => Attempt.lift (Program.request (.put .stage (.running made)))

/-- Starts the bus. -/
def start (b : Bus) : Attempt Unit := .ofProgram do
  let stage ← Program.request (.lock .stage)
  let result ← match stage with
    | .running _ => pure (.error startedFault)
    | .stopped => pure (.error stoppedFault)
    | .idle => b.startIdle.run
  Program.request (.unlock .stage)
  return result

/-- Stops the bus for good. -/
def stop (b : Bus) : Program Unit := do
  let stage ← Program.request (.lock .stage)
  Program.request (.put .stage .stopped)
  disposeAll stage.intakes
  Program.request (.cancel b.token)
  Publisher.close
  b.source.release
  Program.request (.unlock .stage)

end Bus

end MessageBus
