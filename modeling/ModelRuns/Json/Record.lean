import ModelRuns.Json.Basic

namespace ModelRuns

/-!
# Records in documents

A record with named parts is written as an object.  It is read from an object,
whose other fields do not matter, or from an array of exactly its parts in
order.  A part that may be missing is also missing when it is null.

One of several names is written as a text, and read also from an object with the
name as its only key and null under it.
-/

namespace Json

/-- The parts of a record with the given keys; a part that an object does not
have is missing. -/
def parts? (keys : List String) : Json → Option (List (Option Json))
  | .object fields => some (keys.map (getField? · fields))
  | .array items => if items.length = keys.length then some (items.map some) else none
  | _ => none

/-- The name a document stands for. -/
def name? : Json → Option String
  | .text name => some name
  | .object [(name, .null)] => some name
  | _ => none

/-- A part that must be there. -/
def needed (read : Json → Option α) (part : Option Json) : Option α := part.bind read

/-- A part that may be missing. -/
def optional (read : Json → Option α) : Option Json → Option (Option α)
  | none => some none
  | some .null => some none
  | some value => (read value).map some

def texts? (document : Json) : Option (List String) := document.items?.bind (·.mapM text?)

/-- A natural number up to a limit. -/
def upTo? (limit : Nat) (document : Json) : Option Nat :=
  document.natural?.filter (· ≤ limit)

end Json

end ModelRuns
