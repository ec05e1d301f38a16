import MessageBus.Settings.Flaw
import MessageBus.Duration
import MessageBus.Text.Blank
import MessageBus.Text.Bytes
/-!
# Settings from the environment

The variables form families: one for the broker's address, one for the pool, and one for each consumer, told apart by
the consumer's name in capitals. A variable that is not UTF-8 counts as unset.
-/

namespace MessageBus.Settings

/-- The variables that are set. -/
abbrev Environment := String → Option String

namespace Environment

/-- The environment of a list of variables, of which the first with a name counts. -/
def ofList (vars : List (String × Bytes)) : Environment :=
  fun key => ((vars.find? fun v => v.1 = key).map (·.2)).bind Bytes.toText?

/-- A variable that must be set and not blank. -/
def required (env : Environment) (key : String) : Except Flaw String :=
  match env key with
  | some value => if Text.isBlank value then .error (.missingVariable key) else .ok value
  | none => .error (.missingVariable key)

/-- A variable that holds a natural number up to a bound, with white space around it at most, if it is set. -/
def natural? (env : Environment) (key : String) (bound : Nat) : Except Flaw (Option Nat) :=
  match env key with
  | none => .ok none
  | some raw => ((Text.readNatural bound (Text.trimmed raw)).map some).mapError (.badVariable key)

/-- A variable that counts as unset if it is blank. -/
def filled? (env : Environment) (key : String) : Option String :=
  (env key).filter fun value => !Text.isBlank value

end Environment

/-! ## The address of the broker -/

/-- Where the broker is, and how many connections to keep to it. -/
structure Endpoint where
  connectionString : String
  connectionPoolSize : Option Nat
  deriving DecidableEq, Repr

/-- A virtual host as a path segment: the percent sign and the slash are escaped. -/
def encodeVhost (vhost : String) : String :=
  String.ofList (vhost.toList.flatMap fun c =>
    if c = '%' then ['%', '2', '5'] else if c = '/' then ['%', '2', 'f'] else [c])

/-- The address that the parts of it make up. -/
def composeAddress (user password host : String) (port : Nat) (vhost : String) : String :=
  "amqp://" ++ user ++ ":" ++ password ++ "@" ++ host ++ ":" ++ toString port ++ "/" ++ encodeVhost vhost

/-- The port of a broker that is not told another. -/
def defaultPort : Nat := 5672

/-- The address in the environment: whole if it is there, else from its parts. -/
def addressFrom (env : Environment) : Except Flaw String := do
  match env.filled? "RABBITMQ_URL" with
  | some url => return url
  | none =>
    let host ← env.required "RABBITMQ_HOST"
    let port ← env.natural? "RABBITMQ_PORT" 0xffff
    let user := (env "RABBITMQ_USER").getD "guest"
    let password := (env "RABBITMQ_PASSWORD").getD "guest"
    let vhost := (env "RABBITMQ_VHOST").getD "/"
    return composeAddress user password host (port.getD defaultPort) vhost

/-- The endpoint in the environment. -/
def Endpoint.fromEnvironment (env : Environment) : Except Flaw Endpoint := do
  let address ← addressFrom env
  let size ← env.natural? "MESSAGING_CONNECTION_POOL_SIZE" 0xffffffffffffffff
  return ⟨address, size⟩

/-! ## The settings of a consumer -/

/-- The settings of a consumer that the environment can change; only those present do. -/
structure Overrides where
  queue : Option String
  messageTtlMillis : Option Nat
  maxMessageCount : Option UInt32
  maxConcurrency : Option UInt16
  maxRetryCount : Option UInt32
  retryDelayMillis : Option Nat
  deriving DecidableEq, Repr

/-- A consumer's name as part of a variable's name: ASCII letters in capitals, and an underscore in the place of all
that is neither an ASCII letter nor a digit. -/
def normalizedName (consumer : String) : String :=
  String.ofList (consumer.toList.map fun c => if c.isAlphanum then c.toUpper else '_')

/-- The name of a consumer's variable. -/
def consumerKey (consumer field : String) : String :=
  "MESSAGING_" ++ normalizedName consumer ++ "_" ++ field

/-- The settings in the environment for a consumer. -/
def Overrides.fromEnvironment (env : Environment) (consumer : String) : Except Flaw Overrides := do
  let queue := env.filled? (consumerKey consumer "QUEUE")
  let ttl ← env.natural? (consumerKey consumer "MESSAGE_TTL_MS") 0xffffffffffffffff
  let count ← env.natural? (consumerKey consumer "MAX_MESSAGE_COUNT") 0xffffffff
  let concurrency ← env.natural? (consumerKey consumer "MAX_CONCURRENCY") 0xffff
  let retries ← env.natural? (consumerKey consumer "MAX_RETRY_COUNT") 0xffffffff
  let delay ← env.natural? (consumerKey consumer "RETRY_DELAY_MS") 0xffffffffffffffff
  return ⟨queue, ttl, count.map UInt32.ofNat, concurrency.map UInt16.ofNat, retries.map UInt32.ofNat, delay⟩

end MessageBus.Settings
