import RecordFilter.Command.Arguments
import RecordFilter.Document.Loading
import RecordFilter.Expression.Reader
import RecordFilter.Pattern.Standard
import RecordFilter.Rendering
import RecordFilter.Session.Basic

/-! A run of the command: the expression is read, then the document,
then the query runs and is shown. -/

namespace RecordFilter

/-- What is told when a run fails. -/
structure Report where
  /-- What was attempted, or what went wrong. -/
  error : String
  /-- Why the attempt failed, if that is told apart. -/
  cause : Option String
deriving DecidableEq

/-- How a run of the command ends. -/
structure Outcome where
  /-- The exit code. -/
  code : Nat
  /-- What is written to standard output. -/
  output : List Char
  /-- What is told about a failure of the run itself. -/
  report : Option Report
deriving DecidableEq

namespace Outcome

/-- A run that succeeds with an output. -/
def success (output : List Char) : Outcome := ⟨0, output, none⟩

/-- A run that fails. -/
def failure (report : Report) : Outcome := ⟨1, [], some report⟩

/-- A run whose arguments are refused. -/
def refused : Outcome := ⟨2, [], none⟩

end Outcome

namespace Command

/-- The name of the command with its version. -/
def versionLine : String := "jw 0.1.0\n"

/-- How the command is used. -/
def usage : String :=
  "Usage: jw [OPTIONS] [EXPRESSION] [FILE]\n\nFilter the records of a document.\n"

/-- Reads the expression of an invocation, which is empty if there is none. -/
def readExpression (invocation : Invocation) : Except Report ConditionSet :=
  match ConditionSet.parse (invocation.expression.getD "").toList with
  | .ok set => .ok set
  | .error error => .error ⟨"Failed to parse WHERE expression", some error.message⟩

/-- Loads the document of an invocation from its file. -/
def loadFile (invocation : Invocation) (path : String) (state : FileState) :
    Except Report Document :=
  let loaded := match invocation.format with
    | some format => Document.openAs path format state
    | none => Document.openFile path state
  match loaded.result with
  | .ok document => .ok document
  | .error failure => .error ⟨"Failed to load " ++ path, some failure.message⟩

/-- Loads the document of an invocation from standard input. -/
def loadInput (invocation : Invocation) (bytes : ByteArray) : Except Report Document :=
  match (invocation.format.getD Format.default).load bytes with
  | .ok value => .ok (Document.ofValue value)
  | .error failure => .error ⟨"Failed to parse STDIN", some failure.message⟩

/-- Loads the document of an invocation. -/
def loadDocument (invocation : Invocation) (files : String → FileState) (input : ByteArray) :
    Except Report Document :=
  match invocation.input with
  | some path => loadFile invocation path (files path)
  | none => loadInput invocation input

/-- The session of an invocation, with its node and its conditions. -/
def prepare (invocation : Invocation) (document : Document) (set : ConditionSet) : Session :=
  let session := Session.ofDocument document
  let placed := match invocation.node with
    | some node => session.moveTo (NodePath.ofText node)
    | none => session
  placed.whereSet set

/-- What an invocation shows of a session: the number of records, the first of them, or all. -/
def answer [Pattern.Engine] (invocation : Invocation) (session : Session) : Except Failure Json :=
  if invocation.count then session.count.result.map Json.ofNat
  else if invocation.first then session.first.result.map (·.getD .null)
  else session.get.result

/-- The style of an invocation whose output goes to no terminal. -/
def style (invocation : Invocation) : Style := ⟨!invocation.compact, false⟩

/-- Runs a query: what fails first is what is told. -/
def runQuery [Pattern.Engine] (invocation : Invocation) (files : String → FileState)
    (input : ByteArray) : Outcome :=
  match readExpression invocation with
  | .error report => .failure report
  | .ok set =>
    match loadDocument invocation files input with
    | .error report => .failure report
    | .ok document =>
      match answer invocation (prepare invocation document set) with
      | .error failure => .failure ⟨failure.message, none⟩
      | .ok value => .success ((style invocation).document value)

/-- Runs the command with its arguments, given the files it may read and its standard input. -/
def run [Pattern.Engine] (arguments : List String) (files : String → FileState)
    (input : ByteArray) : Outcome :=
  match Arguments.parse arguments with
  | .error _ => .refused
  | .ok .version => .success versionLine.toList
  | .ok .help => .success usage.toList
  | .ok (.query invocation) => runQuery invocation files input

end Command

end RecordFilter
