import MessageBus.Rehearsal.Scene.Conditions
/-!
# Rehearsing the publisher
-/

namespace MessageBus.Rehearsal

/-- A message to publish. -/
inductive Publication where
  | broadcast (messageType : String) (message : Json)
  | send (destination messageType : String) (message : Json)

/-- Publishes a message. -/
def Publication.program (p : Publisher) (token : TokenId) : Publication → Program (Except Fault Unit)
  | broadcast messageType message => (p.broadcast messageType message token).run
  | send destination messageType message => (p.send destination messageType message token).run

/-- A step of rehearsing the publisher. -/
inductive PublishStep where
  | publish (m : Publication)
  /-- Messages to publish side by side. -/
  | together (ms : List Publication)
  | close
  /-- The newest channel can no longer be used. -/
  | loseChannel
  /-- The token is cancelled. -/
  | cancel
  | cancelAfter (millis : Nat)
  /-- From now on there is another token. -/
  | newToken
  | trace (t : Option Trace)
  | wait (millis : Nat)

namespace World

/-- The newest channel can no longer be used. -/
def loseNewest (w : World) : World :=
  w.lose ⟨w.channels - 1⟩

end World

/-- The acts of the steps, while the token with the number is in use. -/
def PublishStep.acts (p : Publisher) : Nat → List PublishStep → List (Act Unit (Except Fault Unit))
  | _, [] => []
  | n, s :: rest =>
    match s with
    | publish m => .alone (m.program p ⟨n⟩) :: acts p n rest
    | together ms => .together (ms.map fun m => m.program p ⟨n⟩) :: acts p n rest
    | close => .alone (.ok <$> Publisher.close) :: acts p n rest
    | loseChannel => .changing (·.loseNewest) (.ok ()) :: acts p n rest
    | cancel => .changing (·.cancel ⟨n⟩) (.ok ()) :: acts p n rest
    | cancelAfter millis =>
      .changing (fun w => (w.spawn (.cancelAfter (.ofMillis millis) ⟨n⟩)).1) (.ok ()) :: acts p n rest
    | newToken => .changing id (.ok ()) :: acts p (n + 1) rest
    | trace t => .changing (fun w => { w with trace := t }) (.ok ()) :: acts p n rest
    | wait millis => .waiting millis (.ok ()) :: acts p n rest

/-- Uses a publisher step by step, over a broker in memory or one that takes everything. -/
def publishing (c : Conditions) (inMemory : Bool) (settings : Settings.Publisher) (serializer : Serializer)
    (steps : List PublishStep) : Rehearsed (List (List (Except Fault Unit))) :=
  let w := { c.world 0 (steps.length + 1) with broker := if inMemory then some .start else none }
  play w () (Act.numbered (PublishStep.acts ⟨settings, serializer, .direct⟩ 0 steps))

end MessageBus.Rehearsal
