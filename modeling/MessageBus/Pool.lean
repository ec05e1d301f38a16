import MessageBus.Program.Basic
/-!
# The pool of connections

Until the pool is full each request opens a new connection. After that the connection that was handed out longest ago is
handed out again, or replaced if it can no longer be used. A pool that was disposed of opens no connection.
-/

namespace MessageBus

/-- Where the bus gets its channels from. -/
structure ChannelSource where
  /-- A new channel. -/
  create : Attempt ChannelId
  /-- Lets go of all channels. -/
  release : Program Unit

/-- A source that gives channels itself. -/
def ChannelSource.direct : ChannelSource where
  create := .ofProgram (Program.request .createChannel)
  release := Program.request .shutdown

namespace Pool

/-- How many connections a pool of the wanted size holds. -/
def capacity (size : Nat) : Nat := max size 1

/-- The fault of a pool that was disposed of. -/
def disposedFault : Fault := .connection "connection pool was disposed"

/-- Opens a connection and adds it to those of the pool, which is held. -/
def openInto (connections : List ConnectionId) : Attempt ConnectionId := do
  match ← Attempt.result (.ofProgram (Program.request .connect)) with
  | .error f =>
    Program.request (.unlock .pool)
    throw f
  | .ok k =>
    Program.request (.put .pool ⟨connections ++ [k], false⟩)
    Program.request (.unlock .pool)
    return k

/-- A connection that can be used. -/
def acquire (size : Nat) : Attempt ConnectionId := do
  let p ← Program.request (.lock .pool)
  if p.disposed then
    Program.request (.unlock .pool)
    throw disposedFault
  else match p.connections with
    | [] => openInto []
    | oldest :: rest =>
      if p.connections.length < capacity size then openInto p.connections
      else if ← Program.request (.isConnected oldest) then
        Program.request (.put .pool ⟨rest ++ [oldest], false⟩)
        Program.request (.unlock .pool)
        return oldest
      else
        Program.request (.put .pool ⟨rest, false⟩)
        Program.request (.disconnect oldest)
        openInto rest

/-- Takes the connections out of the pool, which is held and disposed of, and closes them one by one. -/
def closeAll : List ConnectionId → Program Unit
  | [] => return ()
  | k :: rest => do
    Program.request (.put .pool ⟨rest, true⟩)
    Program.request (.disconnect k)
    closeAll rest

/-- Gives the pool up and closes its connections. -/
def dispose : Program Unit := do
  let p ← Program.request (.lock .pool)
  Program.request (.put .pool ⟨p.connections, true⟩)
  closeAll p.connections
  Program.request (.unlock .pool)

end Pool

/-- A source that opens its channels on the connections of a pool. -/
def ChannelSource.pooled (size : Nat) : ChannelSource where
  create := do
    let k ← Pool.acquire size
    .ofProgram (Program.request (.openChannel k))
  release := Pool.dispose

end MessageBus
