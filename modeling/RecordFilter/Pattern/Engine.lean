import RecordFilter.Pattern.CharSet

/-! What an engine for patterns decides by itself: its tables of characters,
its limits, and its complaints. -/

namespace RecordFilter.Pattern

/--
An engine that compiles patterns. The syntax of patterns and what they match is the same for all of
them, but each comes with properties of characters that it knows and with patterns that it refuses.
-/
class Engine where
  /-- The characters with a property, by its name alone or by its name and one of its values. -/
  property? : List Char → Option (List Char) → Option CharSet
  /--
  Whether a pattern is beyond the limits of the engine, although its syntax is right: it nests too
  deep (by default more than 250 levels), or takes too much room once compiled (10 MiB).
  -/
  exceeds : List Char → Bool
  /-- What the engine tells about a pattern that it refuses, if it tells anything. -/
  complaint? : List Char → Option String

end RecordFilter.Pattern
