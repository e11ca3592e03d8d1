import EventBroker.Boot

/-!
The broker as a program. It takes the name of a settings file, and runs until it is interrupted.
-/

namespace EventBroker

def readFile? (name : String) : IO (Option Bytes) := do
  try
    return some (← IO.FS.readBinFile name).data.toList
  catch _ => return none

def readEnvironment : IO (TextMap String) := do
  let bytes := (← readFile? "/proc/self/environ").getD []
  let lines := (bytes.splitOn 0).filterMap Bytes.text?
  return .ofList (lines.map fun line =>
    let cs := line.toList
    (String.ofList (cs.takeWhile (· ≠ '=')), String.ofList ((cs.dropWhile (· ≠ '=')).drop 1)))

def readFiles (names : List String) : IO (TextMap Bytes) := do
  let mut files := ∅
  for name in names do
    if let some b ← readFile? name then
      files := files.insert name b
  return files

/-- Follows the clock for ever, and looks at the file before each move. -/
partial def follow (c : Config) (start : Nat) (p : Plane) : IO Unit := do
  let now := (← IO.monoMsNow) - start
  let p := { p with file := ← readFile? c.source.path }.advance (now - p.site.now)
  let pause := match p.wake? with
    | some time => min (time - p.site.now) c.source.pollInterval
    | none => c.source.pollInterval
  IO.sleep (UInt32.ofNat (max pause 1))
  follow c start p

end EventBroker

open EventBroker

def main (args : List String) : IO UInt32 := do
  let environment ← readEnvironment
  let path := args.head?
  let files ← readFiles (Config.candidates path environment)
  match Boot.start files path environment with
  | .error e =>
    IO.eprintln ("Error: " ++ e.message)
    return 1
  | .ok (config, queue) =>
    IO.println "cellbroker started"
    (← IO.getStdout).flush
    follow config (← IO.monoMsNow) (Boot.assemble config queue)
    return 0
