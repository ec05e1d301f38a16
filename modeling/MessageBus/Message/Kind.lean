import MessageBus.Fault
import MessageBus.Json.Shape
/-!
# Message types and serializers

A message type has a name, which is also the name of its exchange, and a shape. A message is a JSON value of that shape;
a serializer says how it is written into a payload and read back.
-/

namespace MessageBus

/-- A message type. -/
structure MessageKind where
  name : String
  shape : Json.Shape

/-- How messages become payloads and payloads messages. -/
structure Serializer where
  write : Json → Except CodecFault Bytes
  read : Json.Shape → Bytes → Except CodecFault Json

namespace Serializer

/-- Reads a payload as the compact text of a value of the shape. -/
def readJson (shape : Json.Shape) (payload : Bytes) : Except CodecFault Json :=
  (shape.read payload).mapError fun f => .deserialize (f.message payload)

/-- Compact JSON. -/
def json : Serializer where
  write v := .ok v.bytes
  read := readJson

/-- Compact JSON behind a mark. -/
def marked (mark : String) : Serializer where
  write v := .ok (Bytes.ofText mark ++ v.bytes)
  read shape payload :=
    let mark := Bytes.ofText mark
    if mark.isPrefixOf payload then readJson shape (payload.drop mark.length)
    else .error (.deserialize "no prefix")

/-- A serializer that cannot do either. -/
def failing (reason : String) : Serializer where
  write _ := .error (.serialize reason)
  read _ _ := .error (.deserialize reason)

end Serializer

end MessageBus
