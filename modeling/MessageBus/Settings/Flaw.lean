import MessageBus.Fault
import MessageBus.Text.Natural
/-!
# What can be wrong with settings

One cause for each rule that settings have to keep, and for each way in which an environment can fail to give them.
-/

namespace MessageBus.Settings

/-- Why settings are refused. -/
inductive Flaw where
  | blankConsumerName
  | subscribedTwice (consumer messageType : String)
  | blankQueueName (consumer : String)
  | noConcurrency (consumer : String)
  | noRetryDelay (consumer : String)
  | noConnectionString
  | emptyPool
  | consumerTwice (consumer : String)
  | missingVariable (key : String)
  | badVariable (key : String) (flaw : Text.NumberFlaw)
  deriving DecidableEq, Repr

namespace Flaw

/-- The flaw in words. -/
def message : Flaw → String
  | blankConsumerName => "consumer name must not be empty"
  | subscribedTwice consumer messageType =>
    "consumer `" ++ consumer ++ "` is already subscribed to message type `" ++ messageType ++ "`"
  | blankQueueName consumer => "consumer `" ++ consumer ++ "` has an empty queue name"
  | noConcurrency consumer => "consumer `" ++ consumer ++ "` must allow at least one concurrent delivery"
  | noRetryDelay consumer => "consumer `" ++ consumer ++ "` retries messages and needs a positive retry delay"
  | noConnectionString => "connection string is required"
  | emptyPool => "connection pool size must be at least 1"
  | consumerTwice consumer => "consumer `" ++ consumer ++ "` is configured more than once"
  | missingVariable key => "missing environment variable `" ++ key ++ "`"
  | badVariable key flaw => "invalid value for `" ++ key ++ "`: " ++ flaw.message

/-- The flaw as a fault of the bus. -/
def toFault (f : Flaw) : Fault := .configuration f.message

end Flaw

end MessageBus.Settings
