import MessageBus.Program.Basic
/-!
# New messages

A new message has an id of its own and carries the trace context of whoever publishes it.
-/

namespace MessageBus

/-- The properties of a new message of the type. -/
def Properties.fresh (messageType : String) : Program Properties := do
  let id ← Program.request .freshId
  let context ← Program.request .traceContext
  return (Properties.persistentOf messageType id).withTrace context

end MessageBus
