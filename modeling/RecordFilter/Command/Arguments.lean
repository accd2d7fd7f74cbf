import RecordFilter.Document.Format

/-! The arguments of the command: an expression, a file, and options in any order. -/

namespace RecordFilter

/-- What a query run is asked for. -/
structure Invocation where
  /-- The expression. -/
  expression : Option String
  /-- The path of the document, which is read from standard input otherwise. -/
  input : Option String
  /-- The node of the collection to filter. -/
  node : Option String
  /-- The format of the document, if it is not to be found out. -/
  format : Option Format
  /-- Whether the number of records is shown instead of them. -/
  count : Bool
  /-- Whether the first record alone is shown. -/
  first : Bool
  /-- Whether the output stays on one line. -/
  compact : Bool
  /-- Whether the output never has colours. -/
  noColor : Bool
  /-- Whether more is reported. -/
  verbose : Bool
  /-- Whether less is reported. -/
  quiet : Bool
deriving DecidableEq

/-- What a run of the command is to do. -/
inductive Request
  /-- Show the name and the version. -/
  | version
  /-- Show how the command is used. -/
  | help
  /-- Run a query. -/
  | query (invocation : Invocation)
deriving DecidableEq

/-- Why arguments are refused. -/
inductive UsageError
  /-- There are none. -/
  | noArguments
  /-- An option is not known, or there is one argument too many. -/
  | unexpected (argument : String)
  /-- An option lacks its value. -/
  | missingValue (option : String)
  /-- An option has a value that it does not accept. -/
  | invalidValue (option value : String)
  /-- An option comes twice. -/
  | repeated (option : String)
  /-- Two options exclude each other. -/
  | conflict (option other : String)
  /-- A subcommand is not given in full. -/
  | subcommand
deriving DecidableEq

namespace Invocation

/-- The invocation without any arguments. -/
def none : Invocation :=
  ⟨.none, .none, .none, .none, false, false, false, false, false, false⟩

/-- Takes a flag that may come once. -/
def setOnce (option : String) (isSet : Bool) (changed : Invocation) :
    Except UsageError Invocation :=
  if isSet then .error (.repeated option) else .ok changed

/-- Takes the node of the collection. -/
def setNode (invocation : Invocation) (value : String) : Except UsageError Invocation :=
  setOnce "--from" invocation.node.isSome { invocation with node := some value }

/-- Takes the format of the document. -/
def setFormat (invocation : Invocation) (value : String) : Except UsageError Invocation :=
  if invocation.format.isSome then .error (.repeated "--format")
  else
    match Format.ofName? value with
    | some format => .ok { invocation with format := some format }
    | .none => .error (.invalidValue "--format" value)

/-- Takes an argument that is no option: the expression first, and the file second. -/
def setPositional (invocation : Invocation) (value : String) : Except UsageError Invocation :=
  match invocation.expression, invocation.input with
  | .none, _ => .ok { invocation with expression := some value }
  | some _, .none =>
    if value == "" then .error (.invalidValue "FILE" value)
    else .ok { invocation with input := some value }
  | some _, some _ => .error (.unexpected value)

/-- Takes a flag by its long name. -/
def setFlag (invocation : Invocation) (name : String) : Except UsageError Invocation :=
  match name with
  | "--count" => setOnce name invocation.count { invocation with count := true }
  | "--first" => setOnce name invocation.first { invocation with first := true }
  | "--compact" => setOnce name invocation.compact { invocation with compact := true }
  | "--no-color" => setOnce name invocation.noColor { invocation with noColor := true }
  | "--verbose" => .ok { invocation with verbose := true }
  | "--quiet" => .ok { invocation with quiet := true }
  | _ => .error (.unexpected name)

/-- Checks an invocation as a whole once all arguments are taken. -/
def finish (invocation : Invocation) : Except UsageError Request :=
  if invocation == none then .error .noArguments
  else if invocation.count && invocation.first then .error (.conflict "--first" "--count")
  else if invocation.verbose && invocation.quiet then .error (.conflict "--verbose" "--quiet")
  else .ok (.query invocation)

end Invocation

/-- What comes of one argument. -/
inductive Step
  /-- The invocation with the argument taken. -/
  | taken (invocation : Invocation)
  /-- A request that needs no further arguments. -/
  | done (request : Request)
  /-- The next argument is the value of an option. -/
  | needsNode (invocation : Invocation)
  /-- The next argument is the name of a format. -/
  | needsFormat (invocation : Invocation)

namespace Arguments

/-- Whether an argument looks like an option: a lone hyphen does not. -/
def looksLikeOption (argument : String) : Bool :=
  argument.startsWith "-" && argument != "-"

/-- Takes an option by its long name, with a value after an equals sign or without one. -/
def takeLong (invocation : Invocation) (name : String) (value : Option String) :
    Except UsageError Step :=
  match name, value with
  | "--from", some node => (invocation.setNode node).map .taken
  | "--from", none => .ok (.needsNode invocation)
  | "--format", some format => (invocation.setFormat format).map .taken
  | "--format", none => .ok (.needsFormat invocation)
  | "--version", none => .ok (.done .version)
  | "--help", none => .ok (.done .help)
  | _, none => (invocation.setFlag name).map .taken
  | _, some _ => .error (.unexpected name)

/-- The long option in an argument, cut at its first equals sign. -/
def splitLong (argument : String) : String × Option String :=
  let (name, rest) := argument.toList.span (· != '=')
  match rest with
  | [] => (argument, none)
  | _ :: value => (String.ofList name, some (String.ofList value))

/-- Takes the short options behind a single hyphen one after another. -/
def takeShort (invocation : Invocation) : List Char → Except UsageError Step
  | [] => .ok (.taken invocation)
  | 'f' :: [] => .ok (.needsNode invocation)
  | 'f' :: '=' :: value => (invocation.setNode (String.ofList value)).map .taken
  | 'f' :: value => (invocation.setNode (String.ofList value)).map .taken
  | 'v' :: rest => takeShort { invocation with verbose := true } rest
  | 'q' :: rest => takeShort { invocation with quiet := true } rest
  | 'V' :: _ => .ok (.done .version)
  | 'h' :: _ => .ok (.done .help)
  | other :: _ => .error (.unexpected (String.ofList ['-', other]))

/-- Takes an argument that is neither a value of an option nor behind a double hyphen. -/
def take (invocation : Invocation) (argument : String) : Except UsageError Step :=
  if argument.startsWith "--" then
    let (name, value) := splitLong argument
    takeLong invocation name value
  else if looksLikeOption argument then takeShort invocation (argument.toList.drop 1)
  else if argument == "generate" then .error .subcommand
  else (invocation.setPositional argument).map .taken

/-- Takes arguments of which none is an option any more. -/
def parsePositional (invocation : Invocation) : List String → Except UsageError Request
  | [] => invocation.finish
  | argument :: rest => do
    let taken ← invocation.setPositional argument
    parsePositional taken rest

/-- Takes all arguments from the left to the right, up to the first that settles the request. -/
def parseFrom (invocation : Invocation) : List String → Except UsageError Request
  | [] => invocation.finish
  | "--" :: rest => parsePositional invocation rest
  | argument :: rest => do
    match ← take invocation argument with
    | .taken changed => parseFrom changed rest
    | .done request => .ok request
    | .needsNode changed =>
      match rest with
      | value :: more =>
        if looksLikeOption value then .error (.missingValue "--from")
        else parseFrom (← changed.setNode value) more
      | [] => .error (.missingValue "--from")
    | .needsFormat changed =>
      match rest with
      | value :: more =>
        if looksLikeOption value then .error (.missingValue "--format")
        else parseFrom (← changed.setFormat value) more
      | [] => .error (.missingValue "--format")

/-- The request that arguments make. -/
def parse (arguments : List String) : Except UsageError Request :=
  parseFrom Invocation.none arguments

end Arguments

end RecordFilter
