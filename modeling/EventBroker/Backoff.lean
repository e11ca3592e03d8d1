/-!
Delays that double up to a bound.
-/

namespace EventBroker.Backoff

/-- Milliseconds before the next receive after `k + 1` failures in a row have been waited out. -/
def receive (k : Nat) : Nat := min (10 * Nat.pow 2 k) 1000

/-- The least delay before pass `k` of a run of passes that did not come out clean. The actual
one may be up to twice as long. -/
def reconcile (k : Nat) : Nat := min (100 * Nat.pow 2 k) 30000

/-- A delay of the schedule lengthened by a jitter of at most itself. -/
def reconcileWithin (k delay : Nat) : Bool := reconcile k ≤ delay && delay ≤ 2 * reconcile k

end EventBroker.Backoff
