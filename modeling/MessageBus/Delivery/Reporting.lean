import MessageBus.Publishing.Fresh
import MessageBus.Message.Report
/-!
# Reporting a handler's error

The report is published to the exchange of reports. Nothing follows from how that ends: a report that cannot be written
is dropped, a fault of the broker is passed over, and the wait for the broker ends when the token is cancelled.
-/

namespace MessageBus.Report

/-- The report of an error on its way out. -/
def outbound (payload : Bytes) (properties : Properties) : Outbound :=
  .broadcast typeName payload properties

/-- Reports an error on behalf of its origin. -/
def publish (serializer : Serializer) (origin : String) (e : HandlerError) (c : ChannelId) (token : TokenId) :
    Program Unit :=
  match serializer.write (ofError origin e).toJson with
  | .error _ => return ()
  | .ok payload => do
    let properties ← Properties.fresh typeName
    let _ ← Program.orCancelled token (.call c (.publish (outbound payload properties)))
    return ()

end MessageBus.Report
