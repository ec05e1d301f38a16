import MessageBus.Topology.Basic
import MessageBus.Settings.Consumer
/-!
# What the parts of the bus keep and share

The things of the outside that the bus knows by number, and the cells that its parts share. A part locks a cell, sees
what it holds, changes it, and unlocks it.
-/

namespace MessageBus

/-- A channel to the broker. -/
structure ChannelId where
  number : Nat
  deriving DecidableEq, Repr, Inhabited

/-- A connection to the broker. -/
structure ConnectionId where
  number : Nat
  deriving DecidableEq, Repr, Inhabited

/-- The stream of deliveries of one subscription. -/
structure StreamId where
  number : Nat
  deriving DecidableEq, Repr, Inhabited

/-- A signal that can be raised once and then stays raised. -/
structure TokenId where
  number : Nat
  deriving DecidableEq, Repr, Inhabited

/-- A task that runs beside others. -/
structure TaskId where
  number : Nat
  deriving DecidableEq, Repr, Inhabited

/-- The connections that are open for use, the one handed out longest ago first. -/
structure Pool where
  connections : List ConnectionId
  /-- Whether the pool has been given up; it then opens no connection any more. -/
  disposed : Bool
  deriving DecidableEq, Repr

/-- A pool without connections. -/
def Pool.empty : Pool := ⟨[], false⟩

/-- A consumer that takes messages: its settings, a channel of its own, the token it listens to, and the subscriptions
it made, each with its tag and the task that takes the messages in. -/
structure Intake where
  settings : Settings.Consumer
  channel : ChannelId
  token : Option TokenId
  subscriptions : List (String × TaskId)

/-- A consumer that has not started. -/
def Intake.idle (settings : Settings.Consumer) (channel : ChannelId) : Intake := ⟨settings, channel, none, []⟩

/-- Where the bus stands in its life. -/
inductive Stage where
  | idle
  | running (intakes : List Intake)
  | stopped

namespace Stage

/-- The consumers that a running bus has. -/
def intakes : Stage → List Intake
  | running intakes => intakes
  | _ => []

/-- Whether the stage is that of a running bus. -/
def isRunning : Stage → Bool
  | running _ => true
  | _ => false

end Stage

/-- What is shared between parts of the bus that run side by side. -/
inductive Cell where
  /-- The pool of connections. -/
  | pool
  /-- The channel that the publisher holds. -/
  | outlet
  /-- The message types whose exchanges the publisher has declared. -/
  | declared
  /-- The stage of the bus. -/
  | stage
  deriving DecidableEq, Repr

/-- What a cell holds. -/
@[reducible] def Cell.Content : Cell → Type
  | pool => Pool
  | outlet => Option ChannelId
  | declared => List String
  | stage => Stage

end MessageBus
