import MessageBus.Rehearsal.Scene.Conditions
/-!
# Rehearsing the pool
-/

namespace MessageBus.Rehearsal

/-- A step of rehearsing the pool. -/
inductive PoolStep where
  /-- So many requests for a connection, side by side. -/
  | acquire (n : Nat)
  /-- A connection can no longer be used. -/
  | kill (k : ConnectionId)
  | dispose
  | capacity

/-- What a step of rehearsing the pool answers. -/
inductive PoolAnswer where
  | connection (r : Except Fault ConnectionId)
  | done
  | capacity (n : Nat)

/-- The act of a step. -/
def PoolStep.act (size : Nat) : PoolStep → Act Unit PoolAnswer
  | acquire n => .together (List.replicate n (PoolAnswer.connection <$> (Pool.acquire size).run))
  | kill k => .changing (fun w => if k.number < w.connections then w.disconnect k else w) .done
  | dispose => .alone (do
    Pool.dispose
    return .done)
  | capacity => .changing id (.capacity (Pool.capacity size))

/-- Uses a pool step by step. -/
def pooling (c : Conditions) (size : Nat) (steps : List PoolStep) : Rehearsed (List (List PoolAnswer)) :=
  play (c.world 0 1) () (Act.numbered (steps.map (PoolStep.act size)))

end MessageBus.Rehearsal
