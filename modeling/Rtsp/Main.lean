import Rtsp.CommandLine

/-!
The program: it follows its command line, and pulls until a line is entered. No network is attached
to it, so that the source waits for one until it is stopped.
-/
namespace Rtsp.Program

/-- The owner always wants another attempt after the usual pause. -/
def patient : Pull.Policies := fun _ _ usual => some usual

def leave (code : UInt32) (output : Text) : IO UInt32 := do
  let stream ← if code = 0 then IO.getStdout else IO.getStderr
  stream.putStrLn (String.ofList output)
  pure code

def pull (settings : Settings) : IO UInt32 := do
  match (Pull.Source.make settings).start with
  | .error f => leave 1 ("Failed to start source: ".toList ++ f.message)
  | .ok worker =>
    IO.println (String.ofList (CommandLine.greeting settings))
    let _ ← (← IO.getStdin).getLine
    IO.println (String.ofList (CommandLine.farewell (worker.run patient [])))
    pure 0

end Rtsp.Program

def main (words : List String) : IO UInt32 :=
  match Rtsp.CommandLine.action (words.map String.toList) with
  | .leave code output => Rtsp.Program.leave code output
  | .pull settings => Rtsp.Program.pull settings
