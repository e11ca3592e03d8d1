import EventBroker.Config.Load
import EventBroker.Plane

/-!
Starting and stopping the broker: its settings, its queue service, the parts that run, and how they
have ended.
-/

namespace EventBroker.Boot

inductive Error
  | config (e : Config.Error)
  | queue (e : QueueError)
deriving DecidableEq, Repr

def Error.message : Error → String
  | config e => e.message?.getD "The configuration cannot be loaded"
  | queue e => e.message

def start (files : TextMap Bytes) (path : Option String) (environment : TextMap String) :
    Except Error (Config × Queue) := do
  let config ← (Config.load files path environment).mapError .config
  let queue ← config.queue.open.mapError .queue
  return (config, queue)

/-- A broker that runs: a pool of each flavor, and a loader that tells both about new snapshots. -/
def assemble (c : Config) (queue : Queue) : Plane :=
  let (fanout, pipeline) := Pool.ofSettings .fanout c.fanout {}
  let (retry, pipeline) := Pool.ofSettings .retry c.retry pipeline
  let loader : Loader := { signals := [.pool 0, .pool 1], interval := c.source.pollInterval }
  { site := { queue, pipeline }
    pools := [fanout.run, retry.run]
    loaders := [loader.run 0] }

def shutDown (p : Plane) : Plane :=
  Plane.rest { p with pools := p.pools.map Pool.cancel, loaders := p.loaders.map Loader.cancel }

def isDown (p : Plane) : Bool :=
  p.pools.all (·.loop.state = .ended) && p.loaders.all (·.nextTick.isNone)

/-- How a task ended. -/
inductive TaskEnd
  | finished
  | panicked
  | aborted
deriving DecidableEq, Repr

/-- The number of tasks that did not come to their own end. -/
def failedTasks (ends : List TaskEnd) : Nat := ends.countP (· ≠ .finished)

end EventBroker.Boot
