import MessageBus.Rehearsal.Scene.Publishing
import MessageBus.Address.Basic
/-!
# Rehearsing without a network

The bus and a pool of its own are used where no broker can be reached: an attempt to connect ends with the flaw of the
address, or finds the network out of reach. So there is never a connection, and never a channel or a stream to use.
-/

namespace MessageBus.Rehearsal

/-- A step of rehearsing without a network. -/
inductive StrandedStep where
  /-- A connection is asked of the pool. -/
  | acquire
  /-- A channel is asked of the pool. -/
  | createChannel
  | dispose
  | start
  | stop
  | publish (m : Publication)
  /-- Something is done with a connection. -/
  | useConnection
  /-- Something is expected from the broker; whether it has happened already. -/
  | expect (happened : Bool)
  | useChannel
  | useStream

/-- What a step answers. -/
inductive StrandedAnswer where
  | result (r : Except Fault Unit)
  | flag (b : Bool)
  | noChannel
  | noStream

/-- How an attempt to connect ends. -/
def refusalAt (address : String) : Fault :=
  match Address.read address with
  | .error f => .connection f.message
  | .ok _ => .connection "IO error: Network is unreachable (os error 101)"

/-- The world without a network. -/
def strandedWorld (address : String) : World := { World.start 0 2 #[] with refusal := some (refusalAt address) }

/-- A program whose value is of no interest. -/
def Act.ofAttempt {α : Type} (a : Attempt α) : Act Unit (Except Fault Unit) :=
  .alone (a *> return ()).run

/-- What a step does to the pool. -/
def StrandedStep.poolAct? (size : Nat) : StrandedStep → Option (Act Unit (Except Fault Unit))
  | acquire => some (.ofAttempt (Pool.acquire size))
  | createChannel => some (.ofAttempt (ChannelSource.pooled size).create)
  | dispose => some (.alone (.ok <$> Pool.dispose))
  | _ => none

/-- What a step does to the bus. -/
def StrandedStep.busAct? (b : Bus) : StrandedStep → Option (Act Unit (Except Fault Unit))
  | start => some (.ofAttempt b.start)
  | stop => some (.alone (.ok <$> b.stop))
  | publish m => some (.alone (m.program b.publisher ⟨1⟩))
  | _ => none

/-- The answers of the steps, of which those to the pool and to the bus are given. -/
def StrandedStep.answers : List StrandedStep → List (Except Fault Unit) → List (Except Fault Unit) → List StrandedAnswer
  | [], _, _ => []
  | s :: rest, pool, bus =>
    match s with
    | acquire | createChannel | dispose => .result (pool.head?.getD (.ok ())) :: answers rest pool.tail bus
    | start | stop | publish _ => .result (bus.head?.getD (.ok ())) :: answers rest pool bus.tail
    | useConnection => .result (.ok ()) :: answers rest pool bus
    | expect happened => .flag happened :: answers rest pool bus
    | useChannel => .noChannel :: answers rest pool bus
    | useStream => .noStream :: answers rest pool bus

/-- Uses a pool at one address, and a bus at the address of its settings, step by step. -/
def stranded (address : String) (size : Nat) (settings : Settings.Bus) (steps : List StrandedStep) :
    Except Halt (List StrandedAnswer) := do
  let bus : Bus := ⟨settings, .pooled (settings.connectionPoolSize.getD 1), firstToken⟩
  let (_, pool) ← play (strandedWorld address) () (steps.filterMap (StrandedStep.poolAct? size))
  let (_, used) ← play (strandedWorld settings.connectionString) () (steps.filterMap (StrandedStep.busAct? bus))
  return StrandedStep.answers steps pool.flatten used.flatten

end MessageBus.Rehearsal
