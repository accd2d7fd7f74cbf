import RecordFilter.Json.Basic

/-! Loaded documents: a base that never changes, and a working copy that queries narrow down. -/

namespace RecordFilter

/-- A document that queries run on. -/
structure Document where
  /-- The path of the file it was loaded from, if it came from one. -/
  source : Option String
  /-- The value as it was loaded. -/
  base : Json
  /-- The result of the last query, unless the base is still untouched. -/
  working : Option Json

namespace Document

/-- A document that holds a value. -/
def ofValue (value : Json) : Document := ⟨none, value, none⟩

/-- The value that queries run on. -/
def current (document : Document) : Json :=
  document.working.getD document.base

/-- The document with a query result as its working copy. -/
def replace (document : Document) (value : Json) : Document :=
  { document with working := some value }

/-- The document without a working copy. -/
def reset (document : Document) : Document :=
  { document with working := none }

/-- A new document over the same base. -/
def fresh (document : Document) : Document :=
  ⟨document.source, document.base, none⟩

/-- A value that is new is as it was loaded. -/
@[simp] theorem current_ofValue (value : Json) : (ofValue value).current = value := rfl

/-- Queries run on what has replaced the base. -/
@[simp] theorem current_replace (document : Document) (value : Json) :
    (document.replace value).current = value := rfl

/-- Without a working copy queries run on the base again. -/
@[simp] theorem current_reset (document : Document) : document.reset.current = document.base := rfl

/-- A new document has no working copy yet. -/
@[simp] theorem current_fresh (document : Document) : document.fresh.current = document.base := rfl

end Document

end RecordFilter
