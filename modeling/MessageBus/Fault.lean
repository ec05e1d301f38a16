import MessageBus.Text.Quoted
/-!
# What can go wrong

The faults of the bus with their two texts: `message` says in words what failed, `detail` shows the fault with all it
carries.
-/

namespace MessageBus

/-- A payload could not be written or read. -/
inductive CodecFault where
  | serialize (reason : String)
  | deserialize (reason : String)
  deriving DecidableEq, Repr

namespace CodecFault

/-- The fault in words. -/
def message : CodecFault → String
  | serialize reason => "failure to serialize payload: " ++ reason
  | deserialize reason => "failure to deserialize payload: " ++ reason

/-- The fault with what it carries. -/
def detail : CodecFault → String
  | serialize reason => "Serialize(" ++ Text.quoted reason ++ ")"
  | deserialize reason => "Deserialize(" ++ Text.quoted reason ++ ")"

end CodecFault

/-- An operation of the bus failed. -/
inductive Fault where
  | configuration (reason : String)
  | connection (reason : String)
  | channel (reason : String)
  | declareExchange (name : String)
  | declareQueue (name : String)
  | bindQueue (queue exchange : String)
  | qos (reason : String)
  | consumer (name : String)
  | publish (messageType reason : String)
  | ack (tag : Nat)
  | reject (tag : Nat)
  | codec (fault : CodecFault)
  | cancelled
  deriving DecidableEq, Repr

namespace Fault

/-- The fault in words. -/
def message : Fault → String
  | configuration reason => "invalid configuration: " ++ reason
  | connection reason => "failure to connect: " ++ reason
  | channel reason => "failure to create a channel: " ++ reason
  | declareExchange name => "failure to declare an exchange `" ++ name ++ "`"
  | declareQueue name => "failure to declare a queue `" ++ name ++ "`"
  | bindQueue queue exchange => "failure to bind queue `" ++ queue ++ "` to exchange `" ++ exchange ++ "`"
  | qos reason => "failure to configure qos `" ++ reason ++ "`"
  | consumer name => "failure to consume from `" ++ name ++ "`"
  | publish messageType reason => "failure to publish message of type `" ++ messageType ++ "`: " ++ reason
  | ack tag => "failure to ack delivery `" ++ toString tag ++ "`"
  | reject tag => "failure to reject delivery `" ++ toString tag ++ "`"
  | codec fault => fault.message
  | cancelled => "operation cancelled"

/-- The fault with what it carries. -/
def detail : Fault → String
  | configuration reason => "Configuration(" ++ Text.quoted reason ++ ")"
  | connection reason => "Connection(" ++ Text.quoted reason ++ ")"
  | channel reason => "Channel(" ++ Text.quoted reason ++ ")"
  | declareExchange name => "DeclareExchange(" ++ Text.quoted name ++ ")"
  | declareQueue name => "DeclareQueue(" ++ Text.quoted name ++ ")"
  | bindQueue queue exchange =>
    "BindQueue \x7b queue: " ++ Text.quoted queue ++ ", exchange: " ++ Text.quoted exchange ++ " \x7d"
  | qos reason => "QoS(" ++ Text.quoted reason ++ ")"
  | consumer name => "Consumer(" ++ Text.quoted name ++ ")"
  | publish messageType reason =>
    "Publish \x7b message_type: " ++ Text.quoted messageType ++ ", reason: " ++ Text.quoted reason ++ " \x7d"
  | ack tag => "Ack(" ++ toString tag ++ ")"
  | reject tag => "Reject(" ++ toString tag ++ ")"
  | codec fault => "Serialization(" ++ fault.detail ++ ")"
  | cancelled => "Cancelled"

/-- The kind of fault. -/
def kind : Fault → String
  | configuration _ => "Configuration"
  | connection _ => "Connection"
  | channel _ => "Channel"
  | declareExchange _ => "DeclareExchange"
  | declareQueue _ => "DeclareQueue"
  | bindQueue _ _ => "BindQueue"
  | qos _ => "QoS"
  | consumer _ => "Consumer"
  | publish _ _ => "Publish"
  | ack _ => "Ack"
  | reject _ => "Reject"
  | codec (.serialize _) => "Serialization.Serialize"
  | codec (.deserialize _) => "Serialization.Deserialize"
  | cancelled => "Cancelled"

end Fault

/-- The two texts of an error that user code gives back. -/
structure Trouble where
  message : String
  detail : String
  deriving DecidableEq, Repr, Inhabited

/-- An error of a handler: what it says itself, and the causes behind it, the nearest first. -/
structure HandlerError where
  outer : Trouble
  causes : List Trouble
  deriving DecidableEq, Repr, Inhabited

/-- A fault as a handler's error: it has no cause behind it. -/
def HandlerError.ofFault (f : Fault) : HandlerError := ⟨⟨f.message, f.detail⟩, []⟩

end MessageBus
