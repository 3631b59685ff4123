/-!
# Time

Clock readings and spans of time are counted in nanoseconds.  Lifetimes of
records come in whole seconds.
-/

namespace DnsForwarder

/-- A span of time in nanoseconds. -/
abbrev Duration := Nat

/-- A reading of the clock, in nanoseconds since it was started. -/
abbrev Instant := Nat

def nanosecondsPerSecond : Nat := 1000000000

def seconds (count : Nat) : Duration := count * nanosecondsPerSecond

/-- The seconds that have passed in full. -/
def wholeSeconds (span : Duration) : Nat := span / nanosecondsPerSecond

theorem wholeSeconds_seconds (count : Nat) : wholeSeconds (seconds count) = count :=
  Nat.mul_div_cancel count (by decide)

end DnsForwarder
