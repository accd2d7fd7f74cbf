import RecordFilter.Command.Arguments

/-! Whatever the arguments are and however they are spelled, only consistent
invocations are accepted. -/

namespace RecordFilter

namespace Invocation

/-- An invocation that asks for something, and for nothing that excludes something else. -/
structure Consistent (invocation : Invocation) : Prop where
  /-- Some argument has left a trace. -/
  inhabited : invocation ≠ .none
  /-- Not both the number of records and the first of them are to be shown. -/
  oneView : invocation.count = true → invocation.first = false
  /-- Not both more and less is to be reported. -/
  oneLevel : invocation.verbose = true → invocation.quiet = false

variable {invocation : Invocation} {request : Request}

/-- The final check lets through what is consistent, as the query it asks for. -/
theorem finish_eq_ok_iff :
    invocation.finish = .ok request ↔ invocation.Consistent ∧ request = .query invocation := by
  unfold finish
  constructor
  · intro finished
    -- None of the three checks has stopped the invocation.
    split at finished
    · contradiction
    split at finished
    · contradiction
    split at finished
    · contradiction
    rename_i inhabited oneView oneLevel
    refine ⟨⟨by simpa using inhabited, ?_, ?_⟩, (Except.ok.inj finished).symm⟩
    · intro count
      simpa [count] using oneView
    · intro verbose
      simpa [verbose] using oneLevel
  · rintro ⟨⟨inhabited, oneView, oneLevel⟩, rfl⟩
    rw [if_neg (by simpa using inhabited), if_neg (by simpa using oneView),
      if_neg (by simpa using oneLevel)]

/-- A query that passes the final check is consistent. -/
theorem consistent_of_finish {accepted : Invocation}
    (finished : invocation.finish = .ok (.query accepted)) : accepted.Consistent := by
  obtain ⟨consistent, same⟩ := finish_eq_ok_iff.mp finished
  exact Request.query.inj same ▸ consistent

end Invocation

namespace Arguments

variable {invocation : Invocation} {request : Request}

/-- An argument that is taken settles nothing yet. -/
theorem map_taken_ne_done (changed : Except UsageError Invocation) :
    changed.map Step.taken ≠ .ok (.done request) := by
  cases changed <;> simp [Except.map]

/-- Of the long options only those for the version and for help settle a request. -/
theorem request_of_takeLong {name : String} {value : Option String}
    (done : takeLong invocation name value = .ok (.done request)) :
    request = .version ∨ request = .help := by
  unfold takeLong at done
  -- Every other option changes the invocation, waits for its value, or is refused.
  split at done <;> simp_all [map_taken_ne_done]

/-- Of the short options only those for the same two do, wherever among others they stand. -/
theorem request_of_takeShort {options : List Char}
    (done : takeShort invocation options = .ok (.done request)) :
    request = .version ∨ request = .help := by
  induction invocation, options using takeShort.induct with
  | case1 | case2 => simp [takeShort] at done
  | case3 => exact absurd done (map_taken_ne_done _)
  | case4 invocation value some_ noEquals =>
    rw [takeShort] at done
    exact absurd done (map_taken_ne_done _)
    all_goals assumption
  -- Flags are taken in passing, so the option that settles the request stands behind them.
  | case5 invocation rest ih | case6 invocation rest ih => exact ih done
  | case7 => exact .inl (Step.done.inj (Except.ok.inj done)).symm
  | case8 => exact .inr (Step.done.inj (Except.ok.inj done)).symm
  | case9 => simp_all [takeShort]

/-- A single argument settles no query. -/
theorem request_of_take {argument : String}
    (done : take invocation argument = .ok (.done request)) :
    request = .version ∨ request = .help := by
  unfold take at done
  split at done
  · exact request_of_takeLong done
  split at done
  · exact request_of_takeShort done
  split at done
  · contradiction
  · exact absurd done (map_taken_ne_done _)

/-- Positional arguments end in the final check like all others. -/
theorem consistent_of_parsePositional {arguments : List String} {accepted : Invocation}
    (parsed : parsePositional invocation arguments = .ok (.query accepted)) :
    accepted.Consistent := by
  induction arguments generalizing invocation with
  | nil => exact Invocation.consistent_of_finish parsed
  | cons argument rest ih =>
    cases taken : invocation.setPositional argument with
    | error refused => simp [parsePositional, taken, bind, Except.bind] at parsed
    | ok changed => exact ih (by simpa [parsePositional, taken, bind, Except.bind] using parsed)

/--
An argument in front is the one behind which all others are positional, or settles the request, or
leaves an invocation with which parsing goes on, perhaps one argument further.
-/
theorem parseFrom_cons {argument : String} {rest : List String}
    (parsed : parseFrom invocation (argument :: rest) = .ok request) :
    parsePositional invocation rest = .ok request ∨
    (request = .version ∨ request = .help) ∨
    ∃ changed fewer, fewer.length ≤ rest.length ∧ parseFrom changed fewer = .ok request := by
  rw [parseFrom.eq_def] at parsed
  split at parsed
  case h_1 none_ => contradiction
  case h_2 others same =>
    -- Behind a double hyphen nothing is an option any more.
    obtain ⟨rfl, rfl⟩ := List.cons.inj same
    exact .inl parsed
  case h_3 front others _ same =>
    obtain ⟨rfl, rfl⟩ := List.cons.inj same
    cases taken : take invocation argument with
    | error refused => simp [taken, bind, Except.bind] at parsed
    | ok step =>
      simp only [taken, bind, Except.bind] at parsed
      cases step with
      | taken changed => exact .inr (.inr ⟨changed, rest, Nat.le_refl _, parsed⟩)
      | done settled =>
        -- What stands behind is not looked at.
        obtain rfl := Except.ok.inj parsed
        exact .inr (.inl (request_of_take taken))
      | needsNode changed | needsFormat changed =>
        -- The next argument is the value of the option, and parsing goes on behind that one.
        cases rest with
        | nil => contradiction
        | cons value more =>
          simp only at parsed
          split at parsed
          · contradiction
          split at parsed
          · contradiction
          · exact .inr (.inr ⟨_, more, Nat.le_succ _, parsed⟩)

/-- However many arguments are parsed, what is accepted in the end has passed the final check. -/
theorem consistent_of_parseFrom {arguments : List String} {accepted : Invocation}
    (parsed : parseFrom invocation arguments = .ok (.query accepted)) : accepted.Consistent := by
  -- One argument may take the next one with it, so the induction is on how many are left.
  generalize bound : arguments.length = length
  induction length using Nat.strongRecOn generalizing invocation arguments with
  | ind length ih =>
    cases arguments with
    | nil => exact Invocation.consistent_of_finish parsed
    | cons argument rest =>
      obtain positional | notice | ⟨changed, fewer, short, others⟩ := parseFrom_cons parsed
      · exact consistent_of_parsePositional positional
      · -- Neither the version nor help is a query.
        obtain same | same := notice <;> contradiction
      · refine ih fewer.length ?_ others rfl
        rw [← bound, List.length_cons]
        exact Nat.lt_succ_of_le short

/-- Every accepted query run is a consistent invocation. -/
theorem consistent_of_parse {arguments : List String} {accepted : Invocation}
    (parsed : parse arguments = .ok (.query accepted)) : accepted.Consistent :=
  consistent_of_parseFrom parsed

end Arguments

end RecordFilter
