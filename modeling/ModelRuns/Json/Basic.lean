import ModelRuns.Number.Rounding

namespace ModelRuns

/-!
# Documents

Requests, responses and reports are documents: trees of null, truth values,
numbers, texts, arrays and objects.  A whole number that fits in sixty-four
bits, signed or unsigned, stays whole; every other number is a finite double.

The fields of an object are kept in the order of their keys, each key once, so
that a document has one written form.  `setField` and `mergeFields` keep that
order; the functions of this file build objects in no other way.
-/

/-- A number of a document. -/
inductive Number
  | whole (value : Int)
  | fraction (value : Float)
deriving DecidableEq

/-- The double nearest to a number. -/
def Number.toFloat : Number → Float
  | .whole value =>
    let magnitude := nearestNatural value.natAbs
    if value < 0 then -magnitude else magnitude
  | .fraction value => value

/-- A document. -/
inductive Json
  | null
  | bool (value : Bool)
  | number (value : Number)
  | text (value : String)
  | array (items : List Json)
  | object (fields : List (String × Json))

/-- The fields of an object, in the order of their keys. -/
abbrev Fields := List (String × Json)

instance : Inhabited Json := ⟨.null⟩

/-! ## Fields of objects -/

/-- Put a field at the place of its key, in the stead of one with that key. -/
def setField (key : String) (value : Json) : Fields → Fields
  | [] => [(key, value)]
  | (other, held) :: rest =>
    if key = other then (key, value) :: rest
    else if key < other then (key, value) :: (other, held) :: rest
    else (other, held) :: setField key value rest

def getField? (key : String) : Fields → Option Json
  | [] => none
  | (other, value) :: rest => if key = other then some value else getField? key rest

/-- Put every field of the second list into the first. -/
def mergeFields (fields changes : Fields) : Fields :=
  changes.foldl (fun merged change => setField change.1 change.2 merged) fields

/-- Fields in any order, ordered; of two with one key the later counts. -/
def orderFields (fields : Fields) : Fields :=
  mergeFields [] fields

namespace Json

/-- The object with the given fields, in any order. -/
def ofFields (fields : Fields) : Json := .object (orderFields fields)

/-- The field of an object; other documents have none. -/
def field? (key : String) : Json → Option Json
  | .object fields => getField? key fields
  | _ => none

/-- The document at the end of a path of keys. -/
def descend? (document : Json) : List String → Option Json
  | [] => some document
  | key :: rest => (document.field? key).bind (fun child => child.descend? rest)

def text? : Json → Option String
  | .text value => some value
  | _ => none

def items? : Json → Option (List Json)
  | .array items => some items
  | _ => none

def fields? : Json → Option Fields
  | .object fields => some fields
  | _ => none

/-- The double nearest to a number. -/
def float? : Json → Option Float
  | .number value => some value.toFloat
  | _ => none

def whole? : Json → Option Int
  | .number (.whole value) => some value
  | _ => none

/-- A whole number that is not negative. -/
def natural? : Json → Option Nat
  | .number (.whole (.ofNat value)) => some value
  | _ => none

/-- A natural number as a document. -/
def ofNat (value : Nat) : Json := .number (.whole value)

/-- A whole number as a document. -/
def ofInt (value : Int) : Json := .number (.whole value)

/-- A double as a document; what is not finite has no number and is null. -/
def ofFloat (value : Float) : Json :=
  if value.isFinite then .number (.fraction value) else .null

/-- A list of texts as a document. -/
def ofTexts (texts : List String) : Json := .array (texts.map .text)

/-- A value that may be missing; a missing one is null. -/
def ofOption (encode : α → Json) : Option α → Json
  | none => .null
  | some value => encode value

end Json

end ModelRuns
