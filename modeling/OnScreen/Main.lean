import OnScreen.Demo

/-!
# The program

Runs the demo on the files, the environment and the clock of the machine.
-/

namespace OnScreen.Program

/-- The contents of a file of the machine. -/
def contentsOf (path : String) : IO (Except FileFault ByteArray) := do
  try
    return .ok (← IO.FS.readBinFile path)
  catch e =>
    return .error <|
      match e with
      | .noFileOrDirectory .. => .notFound
      | .inappropriateType _ code _ => if code = 21 then .isDirectory else .notDirectory
      | .invalidArgument _ 36 _ => .nameTooLong
      | e => .other (toString e)

/-- Ends the program because of an error. -/
def failWith (message : String) (status : UInt32) : IO UInt32 := do
  IO.eprintln ("error: " ++ message)
  return status

/-- The reading of a clock that was started at a given time. -/
def readingSince (start : Nat) : IO Reading := do
  return UInt64.ofNat ((← IO.monoMsNow) - start)

/-- Waits for some milliseconds. -/
def pause (interval : UInt64) : IO Unit :=
  IO.sleep (UInt32.ofNat (min interval.toNat 4294967295))

/-- Draws the frames of a run and prints where the messages went. -/
def runFrames (options : Demo.Options) (config : Config) (icon : Option Icon) : IO Unit := do
  let start ← IO.monoMsNow
  let mut state := Demo.start options config icon (← readingSince start)
  let frames := options.frames.toNat
  for number in [0:frames] do
    let (next, report) := Demo.frame options number (← readingSince start) state
    state := next
    for line in Demo.reportLines number report do
      IO.println line
    pause options.interval
  for number in [frames:Demo.producerFrames options.producers.toNat] do
    state := Demo.produce options number (← readingSince start) state
    pause options.interval
  let _ := Demo.finish (← readingSince start) state

/-- Reads the files that the options name, and runs the demo. -/
def runOptions (options : Demo.Options) : IO UInt32 := do
  let environment : Environment :=
    { dataHome := ← IO.getEnv "XDG_DATA_HOME"
      home := (← IO.getEnv "HOME").getD "" }
  let path := options.configPath environment
  match options.configOf path (← contentsOf path) with
  | .error e => failWith e.message Demo.failureStatus
  | .ok config =>
    match options.icon with
    | none => runFrames options config none; return 0
    | some path =>
      match Icon.ofFile path (← contentsOf path) with
      | .error e => failWith e.message Demo.failureStatus
      | .ok icon => runFrames options config (some icon); return 0

/-- Does what the arguments of the command line ask for. -/
def runArguments (arguments : List String) : IO UInt32 := do
  match Demo.Command.ofArguments arguments with
  | .error fault => failWith fault.message Demo.usageStatus
  | .ok .help =>
    for line in Demo.helpLines do
      IO.println line
    return 0
  | .ok (.run options) => runOptions options

end OnScreen.Program

/-- The demo on the command line. -/
def main (arguments : List String) : IO UInt32 :=
  OnScreen.Program.runArguments arguments
