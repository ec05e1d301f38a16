/-!
# Exchanges, queues and bindings

What is declared on the broker, and the arguments with which a queue is declared.
-/

namespace MessageBus

/-- A fanout exchange. -/
structure Exchange where
  name : String
  autoDelete : Bool
  durable : Bool
  deriving DecidableEq, Repr

namespace Exchange

/-- An exchange that neither survives a restart nor deletes itself. -/
def named (name : String) : Exchange := ⟨name, false, false⟩

/-- The exchange, surviving a restart of the broker. -/
def lasting (e : Exchange) : Exchange := { e with durable := true }

/-- The exchange, deleted with its last binding or not. -/
def deleting (e : Exchange) (b : Bool) : Exchange := { e with autoDelete := b }

end Exchange

/-- A queue. -/
structure Queue where
  name : String
  durable : Bool
  autoDelete : Bool
  /-- Whether the broker keeps the messages on disk. -/
  paged : Bool
  /-- The milliseconds that a message lives. -/
  messageTtl : Option Nat
  maxLength : Option Nat
  deadLetterExchange : Option String
  deadLetterRoutingKey : Option String
  deriving DecidableEq, Repr

namespace Queue

/-- A queue without any property. -/
def named (name : String) : Queue := ⟨name, false, false, false, none, none, none, none⟩

/-- The queue, surviving a restart of the broker. -/
def lasting (q : Queue) : Queue := { q with durable := true }

/-- The queue, deleted with its last consumer or not. -/
def deleting (q : Queue) (b : Bool) : Queue := { q with autoDelete := b }

/-- The queue, with its messages kept on disk. -/
def onDisk (q : Queue) : Queue := { q with paged := true }

/-- The queue, with a lifetime in milliseconds for its messages. -/
def living (q : Queue) (millis : Nat) : Queue := { q with messageTtl := some millis }

/-- The queue, with a limit on its length. -/
def holding (q : Queue) (n : Nat) : Queue := { q with maxLength := some n }

/-- The queue, with a place where rejected and expired messages go. -/
def deadLettering (q : Queue) (exchange routingKey : String) : Queue :=
  { q with deadLetterExchange := some exchange, deadLetterRoutingKey := some routingKey }

/-- The value of an argument with which a queue is declared. -/
inductive Argument where
  | text (s : String)
  | number (n : Nat)
  deriving DecidableEq, Repr

/-- The greatest number that an argument holds. -/
def maxArgument : Nat := 0x7fffffff

/-- The arguments with which the queue is declared. -/
def arguments (q : Queue) : List (String × Argument) :=
  [ q.deadLetterExchange.map fun e => ("x-dead-letter-exchange", .text e),
    q.deadLetterRoutingKey.map fun k => ("x-dead-letter-routing-key", .text k),
    q.messageTtl.map fun n => ("x-message-ttl", .number (min n maxArgument)),
    q.maxLength.map fun n => ("x-max-length", .number (min n maxArgument)),
    if q.paged then some ("x-queue-mode", .text "lazy") else none ].filterMap id

end Queue

/-- A binding of a queue to an exchange. -/
structure Binding where
  queue : String
  exchange : String
  routingKey : String
  deriving DecidableEq, Repr

namespace Binding

/-- A binding of the queue to the exchange, under the empty routing key. -/
def between (queue exchange : String) : Binding := ⟨queue, exchange, ""⟩

end Binding

end MessageBus
