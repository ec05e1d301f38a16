import MessageBus.Rehearsal.Scene.Conditions
/-!
# Rehearsing deliveries

Deliveries are processed one after another, one is put back for another attempt, an error is reported, or payloads are
read and given to a handler.
-/

namespace MessageBus.Rehearsal

/-- Processes deliveries one after another, on one channel and with one token. -/
def settling (c : Conditions) (cancelAfter : Option Nat) (s : Settings.Consumer) (ds : List Delivery) :
    Rehearsed (List (List (Except Fault Disposition))) :=
  let acts : List (Act Unit _) := Act.numbered (ds.map fun d => .alone (d.process s firstChannel firstToken))
  play ((c.world 1 1).cancellingAfter cancelAfter) () (acts ++ [.note .returned])

/-- Puts a delivery back for another attempt. -/
def retrying (c : Conditions) (cancelAfter : Option Nat) (s : Settings.Consumer) (d : Delivery) :
    Rehearsed (List (List (Except Fault Unit))) :=
  let acts : List (Act Unit _) := [.alone (d.retry s firstChannel firstToken).run, .note .returned]
  play ((c.world 1 1).cancellingWithin cancelAfter) () acts

/-- Reports an error. -/
def reporting (c : Conditions) (cancelAfter : Option Nat) (serializer : Serializer) (origin : String)
    (e : HandlerError) : Rehearsed (List (List Unit)) :=
  let acts : List (Act Unit _) :=
    [.alone (Report.publish serializer origin e firstChannel firstToken), .note .returned]
  play ((c.world 1 1).cancellingAfter cancelAfter) () acts

/-- What came of a payload. -/
inductive Reading where
  | unreadable (f : CodecFault)
  | handled (r : Except HandlerError Unit)

/-- Reads payloads and gives the messages to a handler. -/
def reading (c : Conditions) (s : Settings.Subscription) (payloads : List Bytes) :
    Rehearsed (List (List Reading)) :=
  let acts : List (Act Unit Reading) := payloads.flatMap fun b =>
    match s.decode b with
    | .error f => [.changing id (.unreadable f)]
    | .ok message =>
      [.note .decoded, .alone (Reading.handled <$> Program.request (.handle s message firstToken))]
  play (c.world 0 1) () acts

/-- Declares a topology. -/
def installing (c : Conditions) (t : Topology) : Rehearsed (List (List (Except Fault Unit))) :=
  let acts : List (Act Unit _) := [.alone (t.install firstChannel).run]
  play (c.world 1 1) () acts

/-- A step of declaring what the settings ask for. -/
inductive ProvisionStep where
  | defaults
  | exchanges
  | queues (consumer : String)

/-- What a step of declaring declares. -/
def ProvisionStep.topology (b : Settings.Bus) : ProvisionStep → Topology
  | defaults => .defaults
  | exchanges => .messageExchanges b
  | queues consumer => ((b.consumer? consumer).map .consumerQueues).getD .empty

/-- Declares step by step what the settings ask for. -/
def provisioning (c : Conditions) (b : Settings.Bus) (steps : List ProvisionStep) :
    Rehearsed (List (List (Except Fault Unit))) :=
  let acts : List (Act Unit _) := steps.map fun s => .alone ((s.topology b).install firstChannel).run
  play (c.world 1 1) () (Act.numbered acts)

end MessageBus.Rehearsal
