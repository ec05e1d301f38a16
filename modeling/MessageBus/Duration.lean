/-!
# Durations

A duration is a number of nanoseconds. Settings and the broker count in milliseconds.
-/

namespace MessageBus

/-- A length of time. -/
structure Duration where
  nanos : Nat
  deriving DecidableEq, Repr, Inhabited

namespace Duration

/-- No time at all. -/
def zero : Duration := ⟨0⟩

/-- So many microseconds. -/
def ofMicros (n : Nat) : Duration := ⟨n * 1000⟩

/-- So many milliseconds. -/
def ofMillis (n : Nat) : Duration := ofMicros (n * 1000)

/-- So many seconds. -/
def ofSeconds (n : Nat) : Duration := ofMillis (n * 1000)

/-- The whole milliseconds of the duration. -/
def millis (d : Duration) : Nat := d.nanos / 1000000

/-- The whole microseconds beyond the whole milliseconds. -/
def restMicros (d : Duration) : Nat := d.nanos / 1000 % 1000

/-- The milliseconds after which a clock that ticks in milliseconds has seen the duration pass. -/
def ticks (d : Duration) : Nat := (d.nanos + 999999) / 1000000

end Duration

end MessageBus
