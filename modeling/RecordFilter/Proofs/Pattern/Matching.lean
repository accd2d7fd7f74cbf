import Mathlib.Data.List.Basic
import RecordFilter.Pattern.Regex

/-! The places that are computed for an expression are those that it matches up to. -/

namespace RecordFilter

/-- One place lies at another or behind it in the same text. -/
inductive Along : Spot → Spot → Prop
  /-- A place lies at itself. -/
  | here (spot : Spot) : Along spot spot
  /-- What lies behind the next place lies behind this one. -/
  | further {spot middle later : Spot} {taken : Char} (step : spot.next? = some (taken, middle))
      (rest : Along middle later) : Along spot later

namespace Along

variable {origin spot middle later other : Spot}

/-- The next place has the next position, and one character less ahead. -/
theorem next_parts {taken : Char} (step : spot.next? = some (taken, middle)) :
    middle.position = spot.position + 1 ∧ spot.after.length = middle.after.length + 1 := by
  unfold Spot.next? at step
  split at step
  · contradiction
  · rename_i same
    obtain ⟨rfl, rfl⟩ := Prod.mk.inj (Option.some.inj step)
    simp [same]

/-- Places that lie behind each other lie behind the first of them. -/
theorem trans (first : Along spot middle) (second : Along middle later) : Along spot later := by
  -- The induction is on how the first place leads to the second; the way from there stays.
  induction first with
  | here => exact second
  | further step _ ih => exact .further step (ih second)

/-- A place that lies further on has no lesser position. -/
theorem position_le (along : Along spot later) : spot.position ≤ later.position := by
  induction along with
  | here => exact Nat.le_refl _
  | further step _ ih =>
    obtain ⟨next, _⟩ := next_parts step
    omega

/-- A place that lies further on has no more text behind it. -/
theorem length_le (along : Along spot later) : later.after.length ≤ spot.after.length := by
  induction along with
  | here => exact Nat.le_refl _
  | further step _ ih =>
    obtain ⟨_, shorter⟩ := next_parts step
    omega

/-- A place that lies further on has less text behind it. -/
theorem length_lt (along : Along spot later) (differs : later ≠ spot) :
    later.after.length < spot.after.length := by
  cases along with
  | here => contradiction
  | further step rest =>
    obtain ⟨_, shorter⟩ := next_parts step
    have := rest.length_le
    omega

/-- Places of one text are told apart by their positions. -/
theorem eq_of_position (along : Along origin spot) (alongOther : Along origin other)
    (same : spot.position = other.position) : spot = other := by
  induction along with
  | here spot =>
    cases alongOther with
    | here => rfl
    | further step rest =>
      -- The other place would lie behind the next one, and so have a greater position.
      obtain ⟨next, _⟩ := next_parts step
      have := rest.position_le
      omega
  | further step rest ih =>
    cases alongOther with
    -- Nor can this place lie behind the other, where that one is the origin.
    | here =>
      obtain ⟨next, _⟩ := next_parts step
      have := rest.position_le
      omega
    | further otherStep otherRest =>
      -- Both go on to the same next place, so the question moves there.
      obtain ⟨_, rfl⟩ := Prod.mk.inj (Option.some.inj (step.symm.trans otherStep))
      exact ih otherRest same

end Along

/-- So many steps of a relation lead from one place to another. -/
inductive Chain (relation : Spot → Spot → Prop) : Nat → Spot → Spot → Prop
  /-- No step leads nowhere else. -/
  | stay (spot : Spot) : Chain relation 0 spot spot
  /-- A first step is followed by the others. -/
  | step {count : Nat} {spot middle later : Spot} (first : relation spot middle)
      (others : Chain relation count middle later) : Chain relation (count + 1) spot later

namespace Chain

variable {relation : Spot → Spot → Prop} {count more : Nat} {spot middle later : Spot}

/-- Chains that meet make one, of all their steps. -/
theorem trans (front : Chain relation count spot middle) (back : Chain relation more middle later) :
    Chain relation (count + more) spot later := by
  induction front with
  | stay => simpa using back
  | step first _ ih =>
    -- The first step stays in front, and the steps behind it are counted together.
    rw [Nat.add_right_comm]
    exact .step first (ih back)

/-- A chain can be taken apart behind any of its steps. -/
theorem split (chain : Chain relation (count + more) spot later) :
    ∃ middle, Chain relation count spot middle ∧ Chain relation more middle later := by
  induction count generalizing spot with
  | zero => exact ⟨spot, .stay spot, by simpa using chain⟩
  | succ count ih =>
    rw [Nat.add_right_comm] at chain
    -- The first step belongs to the front, and the others are split further on.
    cases chain with
    | step first others =>
      obtain ⟨middle, front, back⟩ := ih others
      exact ⟨middle, .step first front, back⟩

variable (along : ∀ {spot later}, relation spot later → Along spot later)
include along

/-- Steps that lead along a text lead along it together. -/
theorem toAlong (chain : Chain relation count spot later) : Along spot later := by
  induction chain with
  | stay => exact .here _
  | step first _ ih => exact (along first).trans ih

/-- Of more steps than there are characters ahead one leads nowhere,
and can be left out or taken twice. -/
theorem pump (chain : Chain relation (count + 1) spot later) (enough : spot.after.length ≤ count) :
    Chain relation count spot later ∧ Chain relation (count + 2) spot later := by
  induction count generalizing spot with
  | zero =>
    cases chain with
    | @step _ _ middle _ first others =>
      -- Nothing lies ahead, so the only step leads nowhere.
      have same : middle = spot := by
        by_contra differs
        have := (along first).length_lt differs
        omega
      subst same
      exact ⟨others, .step first (.step first others)⟩
  | succ count ih =>
    cases chain with
    | @step _ _ middle _ first others =>
      -- Either this first step already leads nowhere, or one of the others does.
      by_cases same : middle = spot
      · subst same
        exact ⟨others, .step first (.step first others)⟩
      · -- The step takes a character, so fewer lie ahead of the others.
        have := (along first).length_lt same
        obtain ⟨shorter, longer⟩ := ih others (by omega)
        exact ⟨.step first shorter, .step first longer⟩

/-- Beyond the number of characters ahead it makes no difference how many steps there are. -/
theorem add_iff (enough : spot.after.length + 1 ≤ count) :
    Chain relation (count + more) spot later ↔ Chain relation count spot later := by
  obtain ⟨count, rfl⟩ := Nat.exists_eq_add_of_le' (show 1 ≤ count by omega)
  induction more with
  | zero => rfl
  | succ more ih =>
    -- One step more makes no difference, so any number of them makes none.
    have step : Chain relation (count + 1 + more + 1) spot later ↔
        Chain relation (count + 1 + more) spot later := by
      constructor
      · intro chain
        exact (pump along chain (by omega)).1
      · intro chain
        rw [Nat.add_right_comm] at chain
        rw [show count + 1 + more + 1 = count + more + 2 by omega]
        exact (pump along chain (by omega)).2
    exact step.trans ih

/-- Counting no further than one more than the characters ahead loses no chain. -/
theorem capped_iff {enough : Nat} (ahead : enough = spot.after.length + 1) :
    Chain relation (min count enough + min more enough) spot later ↔
      Chain relation (count + more) spot later := by
  -- Where a count is cut off there are enough steps before and after.
  by_cases few : count ≤ enough ∧ more ≤ enough
  · rw [Nat.min_eq_left few.1, Nat.min_eq_left few.2]
  · -- Both counts are as great as counts need to be, and what they have beyond that is dropped.
    obtain ⟨extra, extraSame⟩ := Nat.exists_eq_add_of_le
      (show enough ≤ min count enough + min more enough by omega)
    obtain ⟨beyond, beyondSame⟩ := Nat.exists_eq_add_of_le (show enough ≤ count + more by omega)
    rw [extraSame, beyondSame, add_iff along (by omega), add_iff along (by omega)]

end Chain

namespace Regex

section Places

variable {origin spot later : Spot} {spots new known : List Spot} {step : Spot → List Spot}

/-- Whether all places of a list lie along a text. -/
def AllAlong (origin : Spot) (spots : List Spot) : Prop :=
  ∀ spot ∈ spots, Along origin spot

/-- Merging known places with new ones loses none and adds no other. -/
theorem mem_merge (newAlong : AllAlong origin new) (knownAlong : AllAlong origin known) :
    spot ∈ merge new known ↔ spot ∈ new ∨ spot ∈ known := by
  simp only [merge, List.mem_append, List.mem_filter, includes, Bool.not_eq_true',
    List.any_eq_false, beq_iff_eq]
  constructor
  · rintro (⟨inside, _⟩ | inside)
    · exact .inl inside
    · exact .inr inside
  · rintro (inside | inside)
    · -- A place is left out only if it is known under the same position.
      by_cases there : spot ∈ known
      · exact .inr there
      · refine .inl ⟨inside, fun other known same => there ?_⟩
        rwa [← (knownAlong other known).eq_of_position (newAlong spot inside) same]
    · exact .inr inside

/-- Keeping each place once loses none. -/
theorem mem_distinct (along : AllAlong origin spots) : spot ∈ distinct spots ↔ spot ∈ spots := by
  induction spots generalizing spot with
  | nil => rfl
  | cons first rest ih =>
    obtain ⟨firstAlong, restAlong⟩ := List.forall_mem_cons.mp along
    have restSame : ∀ {spot}, spot ∈ distinct rest ↔ spot ∈ rest := ih restAlong
    -- The first place is merged in front of the rest, from which nothing is lost by induction.
    rw [distinct, mem_merge (by simpa [AllAlong] using firstAlong)
      (fun spot inside => restAlong spot (restSame.mp inside)), restSame,
      List.mem_singleton, List.mem_cons]

variable (along : ∀ {spot later}, later ∈ step spot → Along spot later)
include along

/-- Steps from places along a text lead to places along it. -/
theorem allAlong_flatMap (spotsAlong : AllAlong origin spots) :
    AllAlong origin (spots.flatMap step) := by
  intro later inside
  obtain ⟨spot, spotInside, reached⟩ := List.mem_flatMap.mp inside
  exact (spotsAlong spot spotInside).trans (along reached)

/-- A round leads to the places that one step leads to. -/
theorem mem_round (spotsAlong : AllAlong origin spots) :
    later ∈ distinct (spots.flatMap step) ↔ ∃ spot ∈ spots, later ∈ step spot := by
  rw [mem_distinct (allAlong_flatMap along spotsAlong), List.mem_flatMap]

/-- So does a whole round of them. -/
theorem allAlong_round (spotsAlong : AllAlong origin spots) :
    AllAlong origin (distinct (spots.flatMap step)) := fun spot inside =>
  allAlong_flatMap along spotsAlong spot
    ((mem_distinct (allAlong_flatMap along spotsAlong)).mp inside)

/-- So many rounds lead to the ends of the chains of so many steps. -/
theorem mem_exactly {count : Nat} (spotsAlong : AllAlong origin spots) :
    later ∈ exactly step count spots ↔
      ∃ spot ∈ spots, Chain (fun spot later => later ∈ step spot) count spot later := by
  induction count generalizing spots with
  | zero =>
    constructor
    · intro inside
      exact ⟨later, inside, .stay later⟩
    · rintro ⟨spot, inside, ⟨⟩⟩
      exact inside
  | succ count ih =>
    -- The rounds are run from the first on, and so the first step of a chain is the first round.
    rw [exactly, ih (allAlong_round along spotsAlong)]
    constructor
    · rintro ⟨middle, reached, chain⟩
      obtain ⟨spot, inside, first⟩ := (mem_round along spotsAlong).mp reached
      exact ⟨spot, inside, .step first chain⟩
    · rintro ⟨spot, inside, chain⟩
      cases chain with
      | step first others =>
        exact ⟨_, (mem_round along spotsAlong).mpr ⟨spot, inside, first⟩, others⟩

/-- At most so many rounds lead to the ends of all chains that are no longer. -/
theorem mem_atMost {count : Nat} (spotsAlong : AllAlong origin spots) :
    later ∈ atMost step count spots ↔
      ∃ fewer ≤ count, ∃ spot ∈ spots,
        Chain (fun spot later => later ∈ step spot) fewer spot later := by
  induction count generalizing spots later with
  | zero =>
    constructor
    · intro inside
      exact ⟨0, Nat.le_refl 0, later, inside, .stay later⟩
    · rintro ⟨fewer, none, spot, inside, chain⟩
      obtain rfl := Nat.le_zero.mp none
      cases chain with
      | stay => exact inside
  | succ count ih =>
    have ih {later : Spot} : later ∈ atMost step count (distinct (spots.flatMap step)) ↔ _ :=
      ih (allAlong_round along spotsAlong)
    -- To merge what the first round leads to, it must lie along the same text.
    have furtherAlong : AllAlong origin (atMost step count (distinct (spots.flatMap step))) := by
      intro later inside
      obtain ⟨_, _, spot, spotInside, chain⟩ := ih.mp inside
      exact (allAlong_round along spotsAlong spot spotInside).trans (chain.toAlong along)
    -- A chain without steps ends where it starts, and any other goes through the first round.
    rw [atMost, mem_merge spotsAlong furtherAlong, ih]
    constructor
    · rintro (inside | ⟨fewer, bounded, middle, reached, chain⟩)
      · exact ⟨0, Nat.zero_le _, later, inside, .stay later⟩
      · obtain ⟨spot, inside, first⟩ := (mem_round along spotsAlong).mp reached
        exact ⟨fewer + 1, by omega, spot, inside, .step first chain⟩
    · rintro ⟨fewer, bounded, spot, inside, chain⟩
      cases chain with
      | stay => exact .inl inside
      | @step fewer _ _ _ first others =>
        exact .inr ⟨fewer, by omega, _,
          (mem_round along spotsAlong).mpr ⟨spot, inside, first⟩, others⟩

end Places

variable {regex body : Regex} {least : Nat} {most : Option Nat} {spot later : Spot}

/-- What an expression matches lies ahead. -/
theorem Matches.along (matched : regex.Matches spot later) : Along spot later := by
  induction matched with
  | empty | assertion | finished => exact .here _
  | character step => exact .further step (.here _)
  -- Only characters go forward, and everything else is put together.
  | sequence _ _ first second => exact first.trans second
  | left _ ih | right _ ih => exact ih
  | round _ _ _ first others => exact first.trans others

/-- A repetition matches what a chain of allowed length does. -/
theorem matches_repeated_iff :
    (repeated body least most).Matches spot later ↔
      ∃ count, least ≤ count ∧ (∀ limit ∈ most, count ≤ limit) ∧
        Chain body.Matches count spot later := by
  constructor
  · intro matched
    -- The bounds go down with every round, so the expression must not be fixed for the induction.
    generalize same : repeated body least most = regex at matched
    induction matched generalizing least most with
    | finished spot =>
      cases same
      exact ⟨0, Nat.le_refl 0, fun _ _ => Nat.zero_le _, .stay spot⟩
    | @round _ most _ _ _ _ allowed taken _ _ ih =>
      cases same
      obtain ⟨count, enough, limited, chain⟩ := ih rfl
      refine ⟨count + 1, by omega, ?_, .step taken chain⟩
      rintro limit rfl
      have := limited (limit - 1) rfl
      -- A round was taken, so the limit allows one more than is left of it.
      have : limit ≠ 0 := fun zero => allowed (zero ▸ rfl)
      omega
    | _ => contradiction
  · rintro ⟨count, enough, limited, chain⟩
    induction chain generalizing least most with
    | stay spot =>
      obtain rfl := Nat.le_zero.mp enough
      exact .finished spot
    | step first _ ih =>
      -- The first step is the first round, and the rest of the chain keeps to the lower bounds.
      refine .round ?_ first (ih (by omega) ?_)
      · rintro rfl
        exact absurd (limited 0 rfl) (by omega)
      · intro limit reduced
        obtain ⟨before, given, rfl⟩ := Option.map_eq_some_iff.mp reduced
        have := limited before given
        omega

/-- Whether no repetition in an expression asks for more rounds than it allows. -/
def Bounded : Regex → Prop
  | sequence first second => first.Bounded ∧ second.Bounded
  | either left right => left.Bounded ∧ right.Bounded
  | repeated body least most => body.Bounded ∧ ∀ limit ∈ most, least ≤ limit
  | _ => True

/-- What is computed for a repetition are the ends of chains of allowed length. -/
theorem mem_ends_repeated (along : ∀ {spot later}, later ∈ body.ends spot → Along spot later)
    (ordered : ∀ limit ∈ most, least ≤ limit) :
    later ∈ (repeated body least most).ends spot ↔
      ∃ count, least ≤ count ∧ (∀ limit ∈ most, count ≤ limit) ∧
        Chain (fun spot later => later ∈ body.ends spot) count spot later := by
  have single : AllAlong spot [spot] := by simp [AllAlong, Along.here]
  have requiredAlong {count : Nat} : AllAlong spot (exactly body.ends count [spot]) := by
    intro later inside
    obtain ⟨start, startInside, chain⟩ := (mem_exactly along single).mp inside
    exact (single start startInside).trans (chain.toAlong along)
  -- The required rounds and those that may follow make one chain.
  have joined {room : Nat} :
      later ∈ atMost body.ends room
          (exactly body.ends (min least (spot.after.length + 1)) [spot]) ↔
        ∃ fewer ≤ room, Chain (fun spot later => later ∈ body.ends spot)
          (min least (spot.after.length + 1) + fewer) spot later := by
    rw [mem_atMost along requiredAlong]
    refine exists_congr fun fewer => and_congr_right fun _ => ?_
    constructor
    · rintro ⟨middle, inside, back⟩
      obtain ⟨start, startInside, front⟩ := (mem_exactly along single).mp inside
      obtain rfl := List.mem_singleton.mp startInside
      exact front.trans back
    · intro chain
      obtain ⟨middle, front, back⟩ := chain.split
      exact ⟨middle, (mem_exactly along single).mpr ⟨spot, List.mem_singleton_self spot, front⟩,
        back⟩
  -- The computation counts no further than the text is long, and that loses no chain.
  have capped (extra : Nat) : Chain (fun spot later => later ∈ body.ends spot)
      (min least (spot.after.length + 1) + min extra (spot.after.length + 1)) spot later ↔
        Chain (fun spot later => later ∈ body.ends spot) (least + extra) spot later :=
    Chain.capped_iff along rfl
  cases most with
  | none =>
    -- Without a limit the chain may have any number of steps above the least.
    refine joined.trans ⟨?_, ?_⟩
    · rintro ⟨fewer, bounded, chain⟩
      rw [← Nat.min_eq_left bounded] at chain
      exact ⟨least + fewer, by omega, nofun, (capped fewer).mp chain⟩
    · rintro ⟨count, enough, _, chain⟩
      obtain ⟨extra, rfl⟩ := Nat.exists_eq_add_of_le enough
      exact ⟨_, Nat.min_le_right _ _, (capped extra).mpr chain⟩
  | some limit =>
    -- With a limit the steps beyond the least are those that it leaves room for.
    have within := ordered limit rfl
    refine joined.trans ⟨?_, ?_⟩
    · rintro ⟨fewer, bounded, chain⟩
      rw [← Nat.min_eq_left (show fewer ≤ spot.after.length + 1 by omega)] at chain
      refine ⟨least + fewer, by omega, ?_, (capped fewer).mp chain⟩
      rintro _ ⟨⟩
      omega
    · rintro ⟨count, enough, limited, chain⟩
      obtain ⟨extra, rfl⟩ := Nat.exists_eq_add_of_le enough
      have := limited limit rfl
      exact ⟨min extra (spot.after.length + 1), by omega, (capped extra).mpr chain⟩

/-- The places that are computed for an expression are those that it matches up to. -/
theorem mem_ends_iff (bounded : regex.Bounded) :
    later ∈ regex.ends spot ↔ regex.Matches spot later := by
  -- The cases are the kinds of expressions, and each computes from the places of its parts.
  induction regex generalizing spot later with
  | empty =>
    rw [ends, List.mem_singleton]
    exact ⟨fun same => same ▸ .empty spot, fun matched => by cases matched; rfl⟩
  | character accepted =>
    unfold ends
    constructor
    · intro inside
      split at inside
      · split at inside
        · obtain rfl := List.mem_singleton.mp inside
          exact .character ‹_› ‹_›
        · contradiction
      · contradiction
    · intro matched
      cases matched with
      | character step belongs => simp [step, belongs]
  | assertion condition =>
    unfold ends
    constructor
    · intro inside
      split at inside
      · obtain rfl := List.mem_singleton.mp inside
        exact .assertion ‹_›
      · contradiction
    · intro matched
      cases matched with
      | assertion holds => simp [holds]
  | sequence first second firstIh secondIh =>
    -- Places are told apart by position only, so all must lie along the same text.
    have firstAlong {spot : Spot} : AllAlong spot (first.ends spot) := fun middle inside =>
      ((firstIh bounded.1).mp inside).along
    have secondAlong : ∀ {spot later}, later ∈ second.ends spot → Along spot later := fun inside =>
      ((secondIh bounded.2).mp inside).along
    rw [ends, mem_round secondAlong firstAlong]
    constructor
    · rintro ⟨middle, front, back⟩
      exact .sequence ((firstIh bounded.1).mp front) ((secondIh bounded.2).mp back)
    · intro matched
      cases matched with
      | sequence front back =>
        exact ⟨_, (firstIh bounded.1).mpr front, (secondIh bounded.2).mpr back⟩
  | either left right leftIh rightIh =>
    have along : AllAlong spot (left.ends spot ++ right.ends spot) := by
      intro later inside
      rcases List.mem_append.mp inside with taken | taken
      · exact ((leftIh bounded.1).mp taken).along
      · exact ((rightIh bounded.2).mp taken).along
    rw [ends, mem_distinct along, List.mem_append, leftIh bounded.1, rightIh bounded.2]
    constructor
    · rintro (taken | taken)
      · exact .left taken
      · exact .right taken
    · intro matched
      cases matched with
      | left taken => exact .inl taken
      | right taken => exact .inr taken
  | repeated body least most ih =>
    -- A step of the computation is a match of the body, by induction.
    have same : (fun spot later => later ∈ body.ends spot) = body.Matches := by
      funext spot later
      exact propext (ih bounded.1)
    rw [mem_ends_repeated (fun inside => ((ih bounded.1).mp inside).along) bounded.2,
      matches_repeated_iff, same]

/-- A search finds an expression that matches from some place of the text on. -/
theorem matchesIn_iff {text : List Char} (bounded : regex.Bounded) :
    regex.matchesIn text = true ↔
      ∃ spot ∈ Spot.all text, ∃ later, regex.Matches spot later := by
  simp only [matchesIn, List.any_eq_true, Bool.not_eq_true', List.isEmpty_eq_false_iff_exists_mem,
    mem_ends_iff bounded]

end Regex

namespace Spot

variable {spot : Spot} {text : List Char}

/-- Behind a character no place is at the start of the text. -/
theorem before_of_mem_onward {position : Nat} {character : Char}
    (inside : spot ∈ onward position (some character) text) : spot.before ≠ none := by
  induction text generalizing position character with
  | nil => simp_all [onward]
  | cons next rest ih =>
    rcases List.mem_cons.mp inside with rfl | further
    · nofun
    · exact ih further

/-- A text starts at the first of its places, and at no other. -/
theorem mem_all_and_before_iff : spot ∈ all text ∧ spot.before = none ↔ spot = start text := by
  cases text with
  | nil =>
    simp only [all, onward, start, List.mem_singleton]
    exact and_iff_left_of_imp fun same => same ▸ rfl
  | cons character rest =>
    simp only [all, onward, start, List.mem_cons]
    constructor
    · rintro ⟨first | further, starts⟩
      · exact first
      · exact absurd starts (before_of_mem_onward further)
    · rintro rfl
      exact ⟨.inl rfl, rfl⟩

end Spot

namespace Regex

variable {regex : Regex} {text : List Char}

/-- An expression behind a condition on the start of the text is searched for there alone. -/
theorem matchesIn_sequence_startOfText (bounded : regex.Bounded) :
    (sequence (assertion .startOfText) regex).matchesIn text = true ↔
      ∃ later, regex.Matches (Spot.start text) later := by
  have wholeBounded : (sequence (assertion .startOfText) regex).Bounded := ⟨trivial, bounded⟩
  rw [matchesIn_iff wholeBounded]
  constructor
  · rintro ⟨spot, inside, later, matched⟩
    -- The condition holds at no place but the first, so the match begins there.
    cases matched with
    | sequence starts matched =>
      cases starts with
      | assertion holds =>
        have first := Spot.mem_all_and_before_iff.mp ⟨inside, Option.isNone_iff_eq_none.mp holds⟩
        exact ⟨later, first ▸ matched⟩
  · rintro ⟨later, matched⟩
    exact ⟨Spot.start text, (Spot.mem_all_and_before_iff.mpr rfl).1, later,
      .sequence (.assertion rfl) matched⟩

/-- A condition on the end of the text behind an expression asks that nothing be left. -/
theorem matches_sequence_endOfText {spot later : Spot} :
    (sequence regex (assertion .endOfText)).Matches spot later ↔
      regex.Matches spot later ∧ later.after = [] := by
  constructor
  · intro matched
    cases matched with
    | sequence matched ends =>
      cases ends with
      | assertion holds => exact ⟨matched, List.isEmpty_iff.mp holds⟩
  · rintro ⟨matched, ended⟩
    exact .sequence matched (.assertion (List.isEmpty_iff.mpr ended))

end Regex

end RecordFilter
