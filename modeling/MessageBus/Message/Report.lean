import MessageBus.Message.Kind
/-!
# Error reports

When a handler fails, its error is published as a message of its own type: one record for the error itself, and inside
it one for each cause, down to the first.
-/

namespace MessageBus

/-- An error, or one of its causes, as it is reported. -/
inductive Report where
  | mk (origin message stackTrace : String) (inner : Option Report)
  deriving Inhabited

namespace Report

/-- The message type of reports. -/
def typeName : String := "messaging.TransportError"

/-- The shape of a report. -/
def shape : Json.Shape :=
  .record "struct TransportError"
    [("origin", .text), ("message", .text), ("stackTrace", .text), ("innerError", .optional .again)]

/-- The message type of reports, with its shape. -/
def kind : MessageKind := ⟨typeName, shape⟩

/-- The report of an error and the causes behind it. -/
def ofTroubles (origin : String) (outer : Trouble) : List Trouble → Report
  | [] => .mk origin outer.message outer.detail none
  | cause :: causes => .mk origin outer.message outer.detail (some (ofTroubles origin cause causes))

/-- The report of a handler's error. -/
def ofError (origin : String) (e : HandlerError) : Report :=
  ofTroubles origin e.outer e.causes

/-- The levels of a report, the outermost first: origin, message and stack trace of each. -/
def levels : Report → List (String × String × String)
  | .mk origin message stackTrace none => [(origin, message, stackTrace)]
  | .mk origin message stackTrace (some inner) => (origin, message, stackTrace) :: inner.levels

/-- The report as a message. -/
def toJson : Report → Json
  | .mk origin message stackTrace none => fields origin message stackTrace .null
  | .mk origin message stackTrace (some inner) => fields origin message stackTrace inner.toJson
where
  /-- The members of a report's object, in order. -/
  fields (origin message stackTrace : String) (inner : Json) : Json :=
    .object [("origin", .text origin), ("message", .text message), ("stackTrace", .text stackTrace),
      ("innerError", inner)]

end Report

end MessageBus
