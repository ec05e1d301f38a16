import MessageBus.Message.Basic
/-!
# Message properties on the wire

The properties travel as AMQP basic properties: the trace headers and the retry count share the header table, the count
under a key of its own. Reading is total: what a header does not say plainly counts as not said.
-/

namespace MessageBus.Wire

/-- A value in a header table. -/
inductive Field where
  | boolean (b : Bool)
  | shortShortInt (n : Int8)
  | shortShortUInt (n : UInt8)
  | shortInt (n : Int16)
  | shortUInt (n : UInt16)
  | longInt (n : Int32)
  | longUInt (n : UInt32)
  | longLongInt (n : Int64)
  | shortString (s : String)
  | longString (b : Bytes)
  /-- Any value of a type that is never read: a float, a decimal, a time, a list, a table, bytes or nothing. -/
  | other (type : String)
  deriving DecidableEq

/-- The basic properties of a message, as far as they are used. -/
structure BasicProperties where
  contentType : Option String
  type : Option String
  deliveryMode : Option UInt8
  messageId : Option String
  headers : Option (SortedMap Field)
  deriving DecidableEq

/-- The header that holds the retry count. -/
def retryHeader : String := "x-retry-count"

/-- The content type of every payload. -/
def jsonContentType : String := "application/json"

/-- The delivery mode of a persistent message. -/
def persistentMode : UInt8 := 2

/-- The delivery mode of a transient message. -/
def transientMode : UInt8 := 1

/-- The greatest count that the retry header holds. -/
def maxHeaderCount : Nat := 0x7fffffff

/-- The retry count as a header: a signed integer of 32 bits, larger counts cut off. -/
def countField (n : UInt32) : Field :=
  .longInt (Int32.ofNat (min n.toNat maxHeaderCount))

/-- The integer in a header, whatever its width. -/
def Field.integer? : Field → Option Int
  | shortShortInt n => some n.toInt
  | shortShortUInt n => some n.toNat
  | shortInt n => some n.toInt
  | shortUInt n => some n.toNat
  | longInt n => some n.toInt
  | longUInt n => some n.toNat
  | longLongInt n => some n.toInt
  | _ => none

/-- The retry count in a header: below zero counts as zero, and what 32 bits do not hold counts as not said. -/
def Field.count? (f : Field) : Option UInt32 :=
  f.integer?.bind fun n => if n.toNat ≤ 0xffffffff then some (UInt32.ofNat n.toNat) else none

/-- The text in a header, if it is a long string of UTF-8. -/
def Field.text? : Field → Option String
  | longString b => Bytes.toText? b
  | _ => none

end Wire

namespace Properties

open Wire

/-- The headers of a message: its trace headers, and the retry count if there is one, in the stead of a trace header of
that name. -/
def headers (p : Properties) : SortedMap Field :=
  let trace := p.traceHeaders.filterMap fun _ v => some (Field.longString (Bytes.ofText v))
  if 0 < p.retryCount then trace.insert retryHeader (countField p.retryCount) else trace

/-- The properties as they are sent; a message without an id gets the fresh one. -/
def toWire (p : Properties) (freshId : String) : BasicProperties where
  contentType := some jsonContentType
  type := some p.messageType
  deliveryMode := some (if p.persistent then persistentMode else transientMode)
  messageId := some (p.messageId.getD freshId)
  headers := some p.headers

/-- The properties of a message that came in. -/
def ofWire (w : BasicProperties) : Properties :=
  let headers := w.headers.getD .empty
  { messageType := w.type.getD ""
    persistent := w.deliveryMode == some persistentMode
    retryCount := ((headers.get? retryHeader).bind Field.count?).getD 0
    messageId := w.messageId
    traceHeaders := (headers.erase retryHeader).filterMap fun _ f => f.text? }

end Properties

/-- The delivery of an incoming message. -/
def Delivery.ofWire (tag : Nat) (w : Wire.BasicProperties) (payload : Bytes) : Delivery :=
  ⟨tag, Properties.ofWire w, payload⟩

end MessageBus
