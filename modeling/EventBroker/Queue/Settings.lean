/-!
Limits for publishers.
-/

namespace EventBroker

/-- How much may be published and in which batches. A limit of zero is none. -/
structure PublishSettings where
  maxMessages : Nat := 10000
  maxBytes : Nat := 104857600
  /-- Milliseconds that a publisher waits to fill a batch. -/
  flushInterval : Nat := 100
  bundleSize : Nat := 100
deriving DecidableEq, Repr, Inhabited

end EventBroker
