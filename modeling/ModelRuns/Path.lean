namespace ModelRuns

/-!
# Paths

A path is a text whose parts are separated by slashes.  Two paths name the same
file when their components agree: repeated slashes, a slash at the end and
parts `.` after the first are silent, while `..` is kept.  The spelling is kept
too, because paths are printed and logged as they were given.

`join`, `parent?` and `fileName?` work on the spelling; `components` is the view
through which files are compared.
-/

/-- A path as it is spelled. -/
structure Path where
  text : String
deriving DecidableEq, Inhabited, Repr

/-- A step of a path.  Only a relative path can begin with `here`. -/
inductive Component
  | root
  | here
  | up
  | name (text : String)
deriving DecidableEq, Repr

/-- The place of a kind of component in the order of paths. -/
def Component.rank : Component → Nat
  | .root => 0
  | .here => 1
  | .up => 2
  | .name _ => 3

/-- Components are ordered by kind, and names by their characters. -/
def Component.before : Component → Component → Bool
  | .name left, .name right => left < right
  | left, right => left.rank < right.rank

/-- Split at every occurrence of a character; there is always a first part. -/
def splitChars (separator : Char) : List Char → List (List Char)
  | [] => [[]]
  | c :: rest =>
    if c = separator then [] :: splitChars separator rest
    else match splitChars separator rest with
      | [] => [[c]]
      | part :: parts => (c :: part) :: parts

/-- Put parts together with a character between them. -/
def joinChars (separator : Char) (parts : List (List Char)) : List Char :=
  [separator].intercalate parts

namespace Path

variable (path : Path)

/-- An absolute path begins with a slash. -/
def isAbsolute : Bool := path.text.toList.head? == some '/'

/-- The part before the pieces: the root slash of an absolute path. -/
def rootChars : List Char := if path.isAbsolute then ['/'] else []

/-- The pieces between slashes, after the root slash. -/
def pieces : List (List Char) :=
  let chars := path.text.toList
  splitChars '/' (if path.isAbsolute then chars.drop 1 else chars)

/-- A silent piece adds no component.  A dot counts only where a relative path
begins with it. -/
def isSilent (absolute first : Bool) (piece : List Char) : Bool :=
  piece == [] || (piece == ['.'] && (absolute || !first))

/-- The component that a piece stands for. -/
def componentOf (piece : List Char) : Component :=
  if piece = ['.'] then .here
  else if piece = ['.', '.'] then .up
  else .name (String.ofList piece)

/-- The components of a path. -/
def components : List Component :=
  let named := fun (first : Bool) (piece : List Char) =>
    if isSilent path.isAbsolute first piece then none else some (componentOf piece)
  let root := if path.isAbsolute then [Component.root] else []
  match path.pieces with
  | [] => root
  | piece :: pieces => root ++ (named true piece).toList ++ pieces.filterMap (named false)

/-- Whether two paths name the same file. -/
def same (other : Path) : Bool := path.components == other.components

/-- Whether a path comes first in the order of paths. -/
def before (left right : Path) : Bool := go left.components right.components
where
  /-- Compare component by component; a path comes before its continuations. -/
  go : List Component → List Component → Bool
    | [], [] => false
    | [], _ :: _ => true
    | _ :: _, [] => false
    | left :: lefts, right :: rights =>
      if left = right then go lefts rights else left.before right

/-- Paths in their order. -/
def sort (paths : List Path) : List Path :=
  paths.mergeSort (fun left right => !right.before left)

/-- Whether a path lies at or below another, component by component. -/
def isWithin (base : Path) : Bool := base.components.isPrefixOf path.components

/-! ## Building paths -/

/-- Go on from a base.  An absolute second part replaces the base; an empty one
adds a slash at the end. -/
def join (part : Path) : Path :=
  if part.isAbsolute then part
  else
    let base := path.text.toList
    let separator := if base.isEmpty || base.getLast? == some '/' then [] else ['/']
    ⟨String.ofList (base ++ separator ++ part.text.toList)⟩

/-- Go on to a file of the given name. -/
def child (name : String) : Path := path.join ⟨name⟩

/-- The text with an ending put after it. -/
def withSuffix (suffix : String) : Path := ⟨path.text ++ suffix⟩

/-! ## Taking paths apart -/

/-- The pieces with their last silent ones dropped; `start` says that the last
piece of the reversed list is the first of the path. -/
def dropSilent (absolute : Bool) : List (List Char) → List (List Char)
  | [] => []
  | piece :: rest =>
    if isSilent absolute rest.isEmpty piece then dropSilent absolute rest else piece :: rest

/-- The path without its last component, and no path for the root and for the
empty path. -/
def parent? : Option Path :=
  match dropSilent path.isAbsolute path.pieces.reverse with
  | [] => none
  | _ :: rest =>
    let kept := (dropSilent path.isAbsolute rest).reverse
    some ⟨String.ofList (path.rootChars ++ joinChars '/' kept)⟩

/-- The last component, when it is a name. -/
def fileName? : Option String :=
  match path.components.getLast? with
  | some (.name text) => some text
  | _ => none

/-- Split a file name at its last dot.  A name that begins with its only dot
has no extension. -/
def splitExtension (name : List Char) : List Char × Option (List Char) :=
  let reversed := name.reverse
  let extension := reversed.takeWhile (· ≠ '.')
  match reversed.dropWhile (· ≠ '.') with
  | [] => (name, none)
  | _ :: stem => if stem.isEmpty then (name, none) else (stem.reverse, some extension.reverse)

/-- The file name without its extension. -/
def fileStem? : Option String :=
  path.fileName?.map (fun name => String.ofList (splitExtension name.toList).1)

/-- The extension of the file name. -/
def extension? : Option String :=
  path.fileName?.bind (fun name => (splitExtension name.toList).2.map String.ofList)

/-- The same place under another file name.  A path without a file name is
continued instead. -/
def withFileName (name : String) : Path :=
  match path.fileName?, path.parent? with
  | some _, some parent => parent.child name
  | _, _ => path.child name

end Path

end ModelRuns
