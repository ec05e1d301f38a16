import MessageBus.Program.Basic
import MessageBus.Topology.Plan
/-!
# Installing a topology

A topology is declared over one channel: first the exchanges, then the queues, then the bindings, each group in order,
up to the first fault.
-/

namespace MessageBus.Topology

/-- The calls that declare the topology, in order. -/
def calls (t : Topology) : List Call :=
  t.exchanges.map .declareExchange ++ t.queues.map .declareQueue ++ t.bindings.map .bindQueue

/-- Makes the calls one after another, up to the first fault. -/
def callAll (c : ChannelId) : List Call → Attempt Unit
  | [] => return ()
  | x :: xs => do
    Attempt.call c x
    callAll c xs

/-- Declares the topology. -/
def install (t : Topology) (c : ChannelId) : Attempt Unit := callAll c t.calls

end MessageBus.Topology
