import Mathlib
import RecordFilter.Command.Run
import RecordFilter.Proofs.Command.Accepted
import RecordFilter.Proofs.Session.Isolation
import RecordFilter.Proofs.Session.Query

/-! A query run of the command ends as the expression, the document
and the session behind it say. -/

namespace RecordFilter

namespace Invocation

/-- The text of the expression, which is empty if there is none. -/
def text (invocation : Invocation) : List Char :=
  (invocation.expression.getD "").toList

/-- What is attempted when a document is loaded. -/
def attempt (invocation : Invocation) : String :=
  match invocation.input with
  | some path => "Failed to load " ++ path
  | .none => "Failed to parse STDIN"

/-- The session of an invocation over a value: the conditions of a set at a node. -/
def sessionOver (invocation : Invocation) (value : Json) (set : ConditionSet) : Session :=
  ((Session.ofValue value).moveTo (invocation.node.elim [] NodePath.ofText)).whereSet set

/-- The bytes of the document: the content of the file, or standard input if none is named. -/
inductive Feeds (invocation : Invocation) (files : String → FileState) (input : ByteArray) :
    ByteArray → Prop
  /-- A file is read. -/
  | file {path : String} {bytes : ByteArray} (named : invocation.input = some path)
      (found : files path = .content bytes) : Feeds invocation files input bytes
  /-- Standard input is read. -/
  | piped (unnamed : invocation.input = .none) : Feeds invocation files input input

/-- The format of the document: the one that is asked for, or else what
the place it is read from tells. -/
inductive ReadsAs (invocation : Invocation) : Format → Prop
  /-- A format is asked for. -/
  | asked {format : Format} (asked : invocation.format = some format) : ReadsAs invocation format
  /-- The name of the file tells the format. -/
  | told {path : String} {format : Format} (unasked : invocation.format = .none)
      (named : invocation.input = some path) (told : Format.ofPath path = .ok format) :
      ReadsAs invocation format
  /-- On standard input the default format is taken for granted. -/
  | assumed (unasked : invocation.format = .none) (unnamed : invocation.input = .none) :
      ReadsAs invocation Format.default

/-- A value that the document of an invocation holds. -/
inductive Loads (invocation : Invocation) (files : String → FileState) (input : ByteArray) :
    Json → Prop
  /-- The bytes of the document are those of the value in the format of the document. -/
  | decoded {format : Format} {bytes : ByteArray} {value : Json}
      (reads : invocation.ReadsAs format) (feeds : invocation.Feeds files input bytes)
      (decoded : format.decode bytes = some value) : Loads invocation files input value

/-- A failure that keeps the document of an invocation from being loaded. -/
inductive FailsToLoad (invocation : Invocation) (files : String → FileState) (input : ByteArray) :
    Failure → Prop
  /-- The name of the file tells no format, and none is asked for. -/
  | unsupported {path : String} {failure : Failure} (unasked : invocation.format = .none)
      (named : invocation.input = some path) (untold : Format.ofPath path = .error failure) :
      FailsToLoad invocation files input failure
  /-- There is no file. -/
  | missing {path : String} {format : Format} (reads : invocation.ReadsAs format)
      (named : invocation.input = some path) (lost : files path = .missing) :
      FailsToLoad invocation files input (.fileNotFound path)
  /-- There is something else in the place of the file. -/
  | unreadable {path : String} {format : Format} (reads : invocation.ReadsAs format)
      (named : invocation.input = some path) (barred : files path = .unreadable) :
      FailsToLoad invocation files input (.unreadable path)
  /-- The bytes are those of no value. -/
  | malformed {format : Format} {bytes : ByteArray} (reads : invocation.ReadsAs format)
      (feeds : invocation.Feeds files input bytes) (undecoded : format.decode bytes = .none) :
      FailsToLoad invocation files input (.malformed format)

variable {invocation : Invocation} {files : String → FileState} {input : ByteArray}

/-- A format is found for every document, unless the name of its file tells none. -/
theorem exists_readsAs (invocation : Invocation) :
    (∃ format, invocation.ReadsAs format) ∨
      ∃ path failure, invocation.format = .none ∧ invocation.input = some path ∧
        Format.ofPath path = .error failure := by
  -- A format that is asked for settles it, whatever the file is called.
  cases asked : invocation.format with
  | some format => exact .inl ⟨format, .asked asked⟩
  | none =>
    cases named : invocation.input with
    | none => exact .inl ⟨_, .assumed asked named⟩
    | some path =>
      cases told : Format.ofPath path with
      | ok format => exact .inl ⟨format, .told asked named told⟩
      | error failure => exact .inr ⟨path, failure, rfl, rfl, told⟩

/-- Every document is loaded or fails to load. -/
theorem loads_or_fails (invocation : Invocation) (files : String → FileState) (input : ByteArray) :
    (∃ value, invocation.Loads files input value) ∨
      ∃ failure, invocation.FailsToLoad files input failure := by
  obtain ⟨format, reads⟩ | ⟨path, failure, unasked, named, untold⟩ := invocation.exists_readsAs
  · -- The format is settled, so it depends on the bytes, if there are any.
    have either : ∀ bytes, invocation.Feeds files input bytes →
        (∃ value, invocation.Loads files input value) ∨
          ∃ failure, invocation.FailsToLoad files input failure := by
      intro bytes feeds
      cases decoded : format.decode bytes with
      | some value => exact .inl ⟨value, .decoded reads feeds decoded⟩
      | none => exact .inr ⟨_, .malformed reads feeds decoded⟩
    -- Standard input is always there, and a file may be missing or unreadable.
    cases named : invocation.input with
    | none => exact either input (.piped named)
    | some path =>
      cases found : files path with
      | missing => exact .inr ⟨_, .missing reads named found⟩
      | unreadable => exact .inr ⟨_, .unreadable reads named found⟩
      | content bytes => exact either bytes (.file named found)
  · exact .inr ⟨failure, .unsupported unasked named untold⟩

variable {path : String} {format : Format} {bytes : ByteArray} {outcome : Outcome}

/-- No other format is read than the one that is asked for. -/
theorem ReadsAs.eq_of_asked {other : Format} (reads : invocation.ReadsAs other)
    (asked : invocation.format = some format) : other = format := by
  cases reads with
  | asked asked' => exact Option.some.inj (asked'.symm.trans asked)
  | told unasked | assumed unasked => simp [unasked] at asked

/-- No other bytes are read than those of the file that is named. -/
theorem Feeds.eq_of_found {other : ByteArray} (feeds : invocation.Feeds files input other)
    (named : invocation.input = some path) (found : files path = .content bytes) :
    other = bytes := by
  cases feeds with
  | file named' found' =>
    obtain rfl := Option.some.inj (named'.symm.trans named)
    exact FileState.content.inj (found'.symm.trans found)
  | piped unnamed => simp [unnamed] at named

/-- The bytes of a file are decoded alike on standard input, in the format that is asked for. -/
theorem Loads.piped {value : Json} (loads : invocation.Loads files input value)
    (named : invocation.input = some path) (asked : invocation.format = some format)
    (found : files path = .content bytes) (others : String → FileState) :
    { invocation with input := .none }.Loads others bytes value := by
  obtain ⟨reads, feeds, decoded⟩ := loads
  -- What is read is settled by the two equations, so only the bytes are decoded again.
  obtain rfl := reads.eq_of_asked asked
  obtain rfl := feeds.eq_of_found named found
  exact .decoded (.asked asked) (.piped rfl) decoded

/-- A file that is found and fails to load does so by its bytes, which
fail as well on standard input. -/
theorem FailsToLoad.piped {failure : Failure} (fails : invocation.FailsToLoad files input failure)
    (named : invocation.input = some path) (asked : invocation.format = some format)
    (found : files path = .content bytes) (others : String → FileState) :
    { invocation with input := .none }.FailsToLoad others bytes failure := by
  -- The format is asked for and the file is there, so only the bytes can be at fault.
  cases fails with
  | unsupported unasked => simp [unasked] at asked
  | missing _ named' lost | unreadable _ named' lost =>
    -- The file is there, with its bytes.
    obtain rfl := Option.some.inj (named'.symm.trans named)
    simp [lost] at found
  | malformed reads feeds undecoded =>
    obtain rfl := reads.eq_of_asked asked
    obtain rfl := feeds.eq_of_found named found
    exact .malformed (.asked asked) (.piped rfl) undecoded

variable [Pattern.Engine]

/-- What an invocation shows of a session. -/
inductive Shows (invocation : Invocation) (session : Session) : Json → Prop
  /-- The number of records. -/
  | count {number : Nat} (asked : invocation.count = true)
      (counted : session.count.result = .ok number) : Shows invocation session (.ofNat number)
  /-- The first record, or null if there is none. -/
  | first {record : Option Json} (asked : invocation.first = true)
      (given : session.first.result = .ok record) :
      Shows invocation session (record.getD .null)
  /-- The whole result. -/
  | result {value : Json} (uncounted : invocation.count = false) (all : invocation.first = false)
      (given : session.get.result = .ok value) : Shows invocation session value

/-- How a query run ends, told by the expression, the document and the session alone. -/
inductive Ends (invocation : Invocation) (files : String → FileState) (input : ByteArray) :
    Outcome → Prop
  /-- The expression cannot be parsed, whatever there is of a document. -/
  | unparsed {error : ExpressionError}
      (refused : ConditionSet.parse invocation.text = .error error) :
      Ends invocation files input
        ⟨1, [], some ⟨"Failed to parse WHERE expression", some error.message⟩⟩
  /-- The document cannot be loaded. -/
  | unloaded {set : ConditionSet} {failure : Failure}
      (parsed : ConditionSet.parse invocation.text = .ok set)
      (fails : invocation.FailsToLoad files input failure) :
      Ends invocation files input ⟨1, [], some ⟨invocation.attempt, some failure.message⟩⟩
  /-- The session over the document fails to answer. -/
  | unanswered {set : ConditionSet} {value : Json} {failure : Failure}
      (parsed : ConditionSet.parse invocation.text = .ok set)
      (loaded : invocation.Loads files input value)
      (failed : (invocation.sessionOver value set).get.result = .error failure) :
      Ends invocation files input ⟨1, [], some ⟨failure.message, .none⟩⟩
  /-- The answer is shown without colours, on one line only if that is asked for. -/
  | answered {set : ConditionSet} {value shown : Json}
      (parsed : ConditionSet.parse invocation.text = .ok set)
      (loaded : invocation.Loads files input value)
      (shows : invocation.Shows (invocation.sessionOver value set) shown) :
      Ends invocation files input ⟨0, (Style.mk (!invocation.compact) false).document shown, .none⟩

/-- A session that does not fail has something to show, whatever is asked for. -/
theorem shows_or_fails (invocation : Invocation) (session : Session) :
    (∃ shown, invocation.Shows session shown) ∨
      ∃ failure, session.get.result = .error failure := by
  cases given : session.get.result with
  | error failure => exact .inr ⟨failure, rfl⟩
  | ok value =>
    -- All three ways to ask go through the one query.
    have counted : session.count.result = .ok value.resultCount := Answer.result_map_of_ok _ given
    have headed : session.first.result = .ok value.firstRecord? := Answer.result_map_of_ok _ given
    cases count : invocation.count with
    | true => exact .inl ⟨_, .count count counted⟩
    | false =>
      cases first : invocation.first with
      | true => exact .inl ⟨_, .first first headed⟩
      | false => exact .inl ⟨_, .result count first given⟩

/-- Every query run ends in one of the four ways. -/
theorem exists_ends (invocation : Invocation) (files : String → FileState) (input : ByteArray) :
    ∃ outcome, invocation.Ends files input outcome := by
  -- Each stage is reached only if the one before has not settled the run.
  cases parsed : ConditionSet.parse invocation.text with
  | error error => exact ⟨_, .unparsed parsed⟩
  | ok set =>
    obtain ⟨value, loaded⟩ | ⟨failure, fails⟩ := invocation.loads_or_fails files input
    · obtain ⟨shown, shows⟩ | ⟨failure, failed⟩ :=
        invocation.shows_or_fails (invocation.sessionOver value set)
      · exact ⟨_, .answered parsed loaded shows⟩
      · exact ⟨_, .unanswered parsed loaded failed⟩
    · exact ⟨_, .unloaded parsed fails⟩

/-- Whether the document is read from a file does not count for what is shown. -/
theorem Shows.piped {session : Session} {shown : Json} (shows : invocation.Shows session shown) :
    { invocation with input := .none }.Shows session shown := by
  cases shows with
  | count asked counted => exact .count asked counted
  | first asked given => exact .first asked given
  | result uncounted all given => exact .result uncounted all given

/-- A run that reads a file ends like one that is given its bytes,
up to what it tells of a failure. -/
theorem Ends.piped (ends : invocation.Ends files input outcome) (named : invocation.input = some path)
    (asked : invocation.format = some format) (found : files path = .content bytes)
    (others : String → FileState) :
    ∃ report, { invocation with input := .none }.Ends others bytes { outcome with report } := by
  cases ends with
  | unparsed refused => exact ⟨_, .unparsed refused⟩
  -- What was attempted is told of a failure to load, and that is where the two may differ.
  | unloaded parsed fails => exact ⟨_, .unloaded parsed (fails.piped named asked found others)⟩
  | unanswered parsed loaded failed =>
    exact ⟨_, .unanswered parsed (loaded.piped named asked found others) failed⟩
  | answered parsed loaded shows =>
    exact ⟨_, .answered parsed (loaded.piped named asked found others) shows.piped⟩

end Invocation

namespace Document

/-- A file is loaded if it is found, can be read, and holds a value in the format. -/
theorem openAs_result (path : String) (format : Format) (state : FileState) :
    (openAs path format state).result =
      match state with
      | .missing => .error (.fileNotFound path)
      | .unreadable => .error (.unreadable path)
      | .content bytes => (format.load bytes).map fun value => ⟨some path, value, none⟩ := by
  unfold openAs loadValue
  -- A file that is missing or unreadable is not decoded.
  cases state with
  | missing | unreadable => rfl
  | content bytes => cases loaded : format.load bytes <;> simp [loaded, Except.bind, Except.map]

end Document

namespace Command

variable {invocation : Invocation} {files : String → FileState} {input : ByteArray}

/-- In a format that is settled a file is loaded as the library does it. -/
theorem loadDocument_named {format : Format} {path : String}
    (reads : invocation.ReadsAs format) (named : invocation.input = some path) :
    loadDocument invocation files input =
      (Document.openAs path format (files path)).result.mapError fun failure =>
        ⟨invocation.attempt, some failure.message⟩ := by
  have attempt : invocation.attempt = "Failed to load " ++ path := by rw [Invocation.attempt, named]
  -- Asked for or told by the name, it is the one format that the file is opened in.
  cases reads with
  | asked asked =>
    simp only [loadDocument, loadFile, named, asked, attempt]
    cases (Document.openAs path format (files path)).result <;> rfl
  | @told other _ unasked named' told =>
    obtain rfl : other = path := Option.some.inj (named'.symm.trans named)
    simp only [loadDocument, loadFile, named, unasked, Document.openFile, told, attempt]
    cases (Document.openAs other format (files other)).result <;> rfl
  | assumed _ unnamed => simp [unnamed] at named

/-- The bytes of a document are decoded in its format, wherever they come from. -/
theorem loadDocument_of_feeds {format : Format} {bytes : ByteArray}
    (reads : invocation.ReadsAs format) (feeds : invocation.Feeds files input bytes) :
    ∃ source, loadDocument invocation files input =
      match format.decode bytes with
      | some value => .ok ⟨source, value, none⟩
      | none => .error ⟨invocation.attempt, some (Failure.malformed format).message⟩ := by
  cases feeds with
  | @file path _ named found =>
    -- A document that is read from a file remembers its path.
    refine ⟨some path, ?_⟩
    rw [loadDocument_named reads named, Document.openAs_result, found]
    simp only [Format.load]
    cases format.decode bytes <;> rfl
  | piped unnamed =>
    -- Without a file no name tells a format, so the one that is asked for or the default is read.
    have settled : invocation.format.getD Format.default = format := by
      cases reads with
      | asked asked => rw [asked, Option.getD_some]
      | told _ named => simp [unnamed] at named
      | assumed unasked => rw [unasked, Option.getD_none]
    refine ⟨none, ?_⟩
    simp only [loadDocument, loadInput, unnamed, settled, Format.load, Invocation.attempt]
    cases format.decode input <;> rfl

/-- The document of a run holds the value that is loaded. -/
theorem loadDocument_of_loads {value : Json} (loads : invocation.Loads files input value) :
    ∃ source, loadDocument invocation files input = .ok ⟨source, value, none⟩ := by
  obtain ⟨reads, feeds, decoded⟩ := loads
  obtain ⟨source, loaded⟩ := loadDocument_of_feeds reads feeds
  exact ⟨source, by rw [loaded, decoded]⟩

/-- What keeps the document from being loaded is what the run tells. -/
theorem loadDocument_of_fails {failure : Failure}
    (fails : invocation.FailsToLoad files input failure) :
    loadDocument invocation files input =
      .error ⟨invocation.attempt, some failure.message⟩ := by
  cases fails with
  | unsupported unasked named untold =>
    -- The format is settled before the file is looked at.
    simp only [loadDocument, loadFile, named, unasked, Document.openFile, untold, Invocation.attempt]
    rfl
  | missing reads named found | unreadable reads named found =>
    rw [loadDocument_named reads named, Document.openAs_result, found]
    rfl
  | malformed reads feeds undecoded =>
    obtain ⟨source, loaded⟩ := loadDocument_of_feeds reads feeds
    rw [loaded, undecoded]

/-- The session of a run differs from the one over the value in the file it came from only. -/
theorem prepare_withoutSource (source : Option String) (value : Json) (set : ConditionSet) :
    (prepare invocation ⟨source, value, none⟩ set).withoutSource =
      invocation.sessionOver value set := by
  unfold prepare Invocation.sessionOver
  cases invocation.node <;> rfl

section Engine

variable [Pattern.Engine]

/-- An answer does not depend on where the document came from. -/
theorem answer_withoutSource (session : Session) :
    answer invocation session.withoutSource = answer invocation session := by
  simp only [answer, Session.first, Session.count, Answer.map, Session.get_withoutSource]

/-- Whatever is to be shown, there is no answer where the session fails. -/
theorem answer_of_error {session : Session} {failure : Failure}
    (failed : session.get.result = .error failure) : answer invocation session = .error failure := by
  simp [answer, Session.first, Session.count, Answer.map, failed, Except.map]

/-- A consistent invocation is answered by what it shows. -/
theorem answer_of_shows {session : Session} {shown : Json} (consistent : invocation.Consistent)
    (shows : invocation.Shows session shown) : answer invocation session = .ok shown := by
  cases shows with
  -- The number is shown first, whatever else is asked for.
  | count asked counted => simp [answer, asked, counted, Except.map]
  | first asked given =>
    -- Otherwise the number of records would be shown in the place of the first of them.
    have uncounted : invocation.count = false := by
      cases count : invocation.count with
      | false => rfl
      | true => exact absurd asked (by simp [consistent.oneView count])
    simp [answer, uncounted, asked, given, Except.map]
  | result uncounted all given => simp [answer, uncounted, all, given]

/-- A consistent invocation is run to its end. -/
theorem runQuery_of_ends {outcome : Outcome} (consistent : invocation.Consistent)
    (ends : invocation.Ends files input outcome) : runQuery invocation files input = outcome := by
  -- One stage after another is run, up to the one that the run ends at.
  cases ends with
  | unparsed refused =>
    rw [Invocation.text] at refused
    simp only [runQuery, readExpression, refused, Outcome.failure]
  | unloaded parsed fails =>
    rw [Invocation.text] at parsed
    simp only [runQuery, readExpression, parsed, loadDocument_of_fails fails, Outcome.failure]
  | @unanswered set value failure parsed loaded failed =>
    rw [Invocation.text] at parsed
    obtain ⟨source, loaded⟩ := loadDocument_of_loads loaded
    -- The session of the run knows its file, which makes no difference to the answer.
    have answered : answer invocation (invocation.sessionOver value set) = .error failure :=
      answer_of_error failed
    rw [← prepare_withoutSource source, answer_withoutSource] at answered
    simp only [runQuery, readExpression, parsed, loaded, answered, Outcome.failure]
  | answered parsed loaded shows =>
    rw [Invocation.text] at parsed
    obtain ⟨source, loaded⟩ := loadDocument_of_loads loaded
    have answered := answer_of_shows consistent shows
    rw [← prepare_withoutSource source, answer_withoutSource] at answered
    simp only [runQuery, readExpression, parsed, loaded, answered, Outcome.success, style]

/-- An accepted query run ends as the library says, and in no other way. -/
theorem run_eq_iff_ends {arguments : List String} {outcome : Outcome}
    (accepted : Arguments.parse arguments = .ok (.query invocation)) :
    run arguments files input = outcome ↔ invocation.Ends files input outcome := by
  have runs : ∀ {outcome}, invocation.Ends files input outcome →
      run arguments files input = outcome := by
    intro outcome ends
    simp only [run, accepted]
    exact runQuery_of_ends (Arguments.consistent_of_parse accepted) ends
  constructor
  · rintro rfl
    -- There is an end, and since it is what the run comes to, it is the outcome.
    obtain ⟨outcome, ends⟩ := invocation.exists_ends files input
    rwa [runs ends]
  · exact runs

/--
An accepted query run ends in exactly one way, which the expression, the document and the session
settle in this order, and unless it ends with an answer, nothing is written. An answer is the number
of records, the first of them or the whole result of the session over the loaded value, and is all
that is written. A run that is given the bytes of a file in the format that is asked for ends with
the same code and output as the run that reads the file.
-/
theorem run_refines_session {arguments : List String} {invocation : Invocation}
    (accepted : Arguments.parse arguments = .ok (.query invocation)) :
    (∀ files input outcome,
      run arguments files input = outcome ↔ invocation.Ends files input outcome) ∧
    ∀ piped path format bytes files input others,
      Arguments.parse piped = .ok (.query { invocation with input := none }) →
      invocation.input = some path → invocation.format = some format →
      files path = .content bytes →
        (run arguments files input).code = (run piped others bytes).code ∧
        (run arguments files input).output = (run piped others bytes).output := by
  refine ⟨fun files input outcome => run_eq_iff_ends accepted, ?_⟩
  intro piped path format bytes files input others acceptedPiped named asked found
  -- The run that reads the file has an end, and its end is carried over to the other run.
  have ends := (run_eq_iff_ends accepted).mp (Eq.refl (run arguments files input))
  obtain ⟨report, endsPiped⟩ := ends.piped named asked found others
  -- The two ends differ in their reports at most.
  rw [(run_eq_iff_ends acceptedPiped).mpr endsPiped]
  exact ⟨rfl, rfl⟩

end Engine

/-- The arguments of a run that counts the records of a file. -/
def countingArguments : List String := ["vip notnull", "people.json", "--format=json", "--count"]

/-- What these arguments ask for. -/
def counting : Invocation :=
  ⟨some "vip notnull", some "people.json", none, some .json, true, false, false, false, false, false⟩

/-- Two records, of which one has the field. -/
def people : ByteArray := "[1,\x7b\"vip\":3\x7d]".toUTF8

/-- The one record is counted, and so it is if the two are given on standard input. -/
theorem run_refines_session_counting :
    Arguments.parse countingArguments = .ok (.query counting) ∧
      counting.Ends (fun _ => .content people) ByteArray.empty ⟨0, ['1', '\n'], none⟩ ∧
      (run ["vip notnull", "--count", "--format", "JSON"] (fun _ => .missing) people).output =
        ['1', '\n'] := by
  have accepted : Arguments.parse countingArguments = .ok (.query counting) := by cbv
  have acceptedPiped : Arguments.parse ["vip notnull", "--count", "--format", "JSON"] =
      .ok (.query { counting with input := none }) := by cbv
  have counted : run countingArguments (fun _ => .content people) ByteArray.empty =
      ⟨0, ['1', '\n'], none⟩ := by decide +kernel
  obtain ⟨ends, same⟩ := run_refines_session accepted
  obtain ⟨_, output⟩ := same _ "people.json" .json people (fun _ => .content people)
    ByteArray.empty (fun _ => .missing) acceptedPiped rfl rfl rfl
  -- The two runs have the same output, which is known for the first.
  refine ⟨accepted, (ends _ _ _).mp counted, ?_⟩
  rw [← output, counted]

end Command

end RecordFilter
