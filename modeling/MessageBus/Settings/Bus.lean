import MessageBus.Settings.Consumer
import MessageBus.Settings.Publisher
/-!
# Settings of the whole bus

One connection string, one publisher and any number of consumers, whose names differ.
-/

namespace MessageBus.Settings

/-- The settings of the bus; without a pool size the machine decides. -/
structure Bus where
  connectionString : String
  connectionPoolSize : Option Nat
  publisher : Publisher
  consumers : List Consumer

namespace Bus

/-- The settings of a consumer. -/
def consumer? (b : Bus) (name : String) : Option Consumer :=
  b.consumers.find? fun c => c.name = name

end Bus

/-- A step in setting up the bus. -/
inductive BusStep where
  | connectionString (s : String)
  | connectionPoolSize (n : Nat)
  | endpoint (e : Endpoint)
  | publisher (p : Publisher)
  | consumer (c : Consumer)

/-- Settings on the way. -/
structure BusDraft where
  connectionString : Option String
  connectionPoolSize : Option Nat
  publisher : Publisher
  consumers : List Consumer

namespace BusDraft

/-- The draft from which settings start. -/
def start : BusDraft := ⟨none, none, .start, []⟩

/-- The draft after a step. -/
def apply (d : BusDraft) : BusStep → BusDraft
  | .connectionString s => { d with connectionString := some s }
  | .connectionPoolSize n => { d with connectionPoolSize := some n }
  | .endpoint e =>
    { d with
      connectionString := some e.connectionString
      connectionPoolSize := e.connectionPoolSize <|> d.connectionPoolSize }
  | .publisher p => { d with publisher := p }
  | .consumer c => { d with consumers := d.consumers ++ [c] }

/-- The draft after all steps. -/
def ofSteps (steps : List BusStep) : BusDraft :=
  steps.foldl apply start

/-- The first name that comes a second time. -/
def repeated? : List String → List String → Option String
  | _, [] => none
  | seen, name :: names => if name ∈ seen then some name else repeated? (name :: seen) names

/-- The settings, if the draft keeps all rules; else the first rule that it breaks. -/
def build (d : BusDraft) : Except Fault Bus :=
  match d.connectionString.filter fun s => !Text.isBlank s with
  | none => .error Flaw.noConnectionString.toFault
  | some s =>
    if d.connectionPoolSize = some 0 then .error Flaw.emptyPool.toFault
    else match repeated? [] (d.consumers.map (·.name)) with
      | some name => .error (Flaw.consumerTwice name).toFault
      | none => .ok ⟨s, d.connectionPoolSize, d.publisher, d.consumers⟩

end BusDraft

end MessageBus.Settings
