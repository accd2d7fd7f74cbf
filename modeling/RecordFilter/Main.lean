import RecordFilter.Command.Run

/-! The command: reads its file or its standard input, runs the query,
and writes what comes of it. -/

namespace RecordFilter

/-- What is found at a path of the file system. -/
def readState (path : String) : IO FileState := do
  match ← (IO.FS.readBinFile path).toBaseIO with
  | .ok bytes => return .content bytes
  | .error (.noFileOrDirectory ..) => return .missing
  -- A path that goes on behind a file leads nowhere.
  | .error (.inappropriateType _ 20 _) => return .missing
  | .error _ => return .unreadable

/-- The path of the document that arguments ask for. -/
def inputPath? (arguments : List String) : Option String :=
  match Arguments.parse arguments with
  | .ok (.query invocation) => invocation.input
  | _ => none

/-- Whether a run with some arguments reads its standard input. -/
def readsInput (arguments : List String) : Bool :=
  match Arguments.parse arguments with
  | .ok (.query invocation) => invocation.input.isNone
  | _ => false

/-- What is written to standard error about a run that fails. -/
def Report.text (report : Report) : String :=
  match report.cause with
  | some cause => "Error: " ++ report.error ++ "\n\nCaused by:\n    " ++ cause ++ "\n"
  | none => "Error: " ++ report.error ++ "\n"

end RecordFilter

open RecordFilter

/-- Runs the command and ends with its exit code. -/
def main (arguments : List String) : IO UInt32 := do
  let state ← match inputPath? arguments with
    | some path => readState path
    | none => pure FileState.missing
  let input ← if readsInput arguments then (← IO.getStdin).readBinToEnd else pure ByteArray.empty
  let outcome := Command.run arguments (fun _ => state) input
  IO.print (String.ofList outcome.output)
  match outcome.report with
  | some report => IO.eprint report.text
  | none => if outcome.code == 2 then IO.eprint Command.usage
  return outcome.code.toUInt32
