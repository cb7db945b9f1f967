import Northbound.Http.Exchange

/-!
# What a session talks to

A session talks to a server and reads a clock. Both are functions of the past: an answer may depend
on all requests sent before, and a reading on how many there were before it. What happened so far is
recorded as the requests sent, in order, and the number of readings.
-/

namespace Northbound

open Http

/-- What has passed between a session and its surroundings. -/
structure Traffic where
  sent : List Request := []
  readings : Nat := 0
deriving DecidableEq, Repr

/-- A server and a clock. -/
structure Surroundings where
  /-- The answer to a request that follows others. -/
  answer : List Request → Request → Except TransportError Response
  /-- The Unix time at a reading, by its number. -/
  clock : Nat → Binary64

namespace Surroundings

/-- Sends a request, and records it. -/
def transport (env : Surroundings) : Transport Traffic := fun request t =>
  (env.answer t.sent request, { t with sent := t.sent ++ [request] })

/-- Reads the clock, and records that. -/
def now (env : Surroundings) (t : Traffic) : Binary64 × Traffic :=
  (env.clock t.readings, { t with readings := t.readings + 1 })

end Surroundings

end Northbound
