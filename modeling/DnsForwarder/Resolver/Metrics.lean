/-!
# Counters

What the resolver has done so far, in counters of 64 bits that wrap around.
-/

namespace DnsForwarder

inductive Counter
  | received
  | sent
  | cacheHit
  | cacheMiss
  | remoteError
  | malformed
  | refusal
  | truncated
deriving DecidableEq, Repr

structure Metrics where
  requestsReceived : UInt64 := 0
  responsesSent : UInt64 := 0
  cacheHits : UInt64 := 0
  cacheMisses : UInt64 := 0
  remoteErrors : UInt64 := 0
  malformedRequests : UInt64 := 0
  refusalsSent : UInt64 := 0
  truncatedResponses : UInt64 := 0
deriving DecidableEq, Repr

namespace Metrics

def zero : Metrics := {}

def count (metrics : Metrics) : Counter → Metrics
  | .received => { metrics with requestsReceived := metrics.requestsReceived + 1 }
  | .sent => { metrics with responsesSent := metrics.responsesSent + 1 }
  | .cacheHit => { metrics with cacheHits := metrics.cacheHits + 1 }
  | .cacheMiss => { metrics with cacheMisses := metrics.cacheMisses + 1 }
  | .remoteError => { metrics with remoteErrors := metrics.remoteErrors + 1 }
  | .malformed => { metrics with malformedRequests := metrics.malformedRequests + 1 }
  | .refusal => { metrics with refusalsSent := metrics.refusalsSent + 1 }
  | .truncated => { metrics with truncatedResponses := metrics.truncatedResponses + 1 }

/-- Counting commutes, so the order in which requests count does not show. -/
theorem count_comm (metrics : Metrics) (first second : Counter) :
    (metrics.count first).count second = (metrics.count second).count first := by
  cases first <;> cases second <;> rfl

end Metrics

end DnsForwarder
