import MessageBus.Message.Kind
import MessageBus.SortedMap
/-!
# Settings of the publisher
-/

namespace MessageBus.Settings

/-- What happens when a message cannot be written. -/
inductive UnwritablePolicy where
  /-- It is dropped. -/
  | ignore
  /-- The fault is given back. -/
  | fail
  deriving DecidableEq, Repr

/-- The settings of the publisher. -/
structure Publisher where
  unwritable : UnwritablePolicy
  /-- Whether the exchanges of message types delete themselves with their last binding. -/
  autoDeleteExchanges : Bool
  /-- The types that are announced, sorted. -/
  types : SortedMap Unit

/-- A step in setting up the publisher. -/
inductive PublisherStep where
  | onUnwritable (p : UnwritablePolicy)
  | autoDelete
  | publishes (messageType : String)
  deriving DecidableEq

namespace Publisher

/-- The settings that the publisher has from the start. -/
def start : Publisher := ⟨.ignore, false, .empty⟩

/-- The settings after a step. -/
def apply (p : Publisher) : PublisherStep → Publisher
  | .onUnwritable policy => { p with unwritable := policy }
  | .autoDelete => { p with autoDeleteExchanges := true }
  | .publishes messageType => { p with types := p.types.insert messageType () }

/-- The settings after all steps. -/
def ofSteps (steps : List PublisherStep) : Publisher :=
  steps.foldl apply start

/-- The types that are announced, sorted. -/
def announcedTypes (p : Publisher) : List String := p.types.keys

end Publisher

end MessageBus.Settings
