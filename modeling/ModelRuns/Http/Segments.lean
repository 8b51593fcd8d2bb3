import ModelRuns.Http.Percent
import ModelRuns.Path

namespace ModelRuns

/-!
# Paths of addresses

The path of an address has segments with a slash before each of them.  A segment
of one dot says nothing and one of two dots takes back the segment before it, in
whatever way the dots are written.  A drive, which is a letter with a colon or a
bar, is never taken back.
-/

/-- The spelling of a segment with its dots unmasked. -/
def plainDots : List Char → List Char
  | '%' :: '2' :: 'e' :: rest => '.' :: plainDots rest
  | '%' :: '2' :: 'E' :: rest => '.' :: plainDots rest
  | c :: rest => c :: plainDots rest
  | [] => []

def isDrive : List Char → Bool
  | [letter, mark] => letter.isAlpha && (mark = ':' || mark = '|')
  | _ => false

/-- Whether a segment cannot be taken back: it is a drive, or a drive with a
backslash and more after it. -/
def isFixed (segment : List Char) : Bool :=
  isDrive (segment.take 2) && (segment[2]?.all (· = '\\'))

/-- Take the last segment back.  The segments are held in reverse. -/
def takeBack : List (List Char) → List (List Char)
  | [] => []
  | last :: done => if isFixed last then last :: done else done

/-- Put a segment after others, encoded.  A drive at the front of the path of a
file has a colon for its mark.  The segments are held in reverse. -/
def addSegment (isFile : Bool) (done : List (List Char)) (segment : List Char) :
    List (List Char) :=
  let segment := encodeWhere pathSpecial segment
  (if isFile && done.isEmpty && isDrive segment then segment.take 1 ++ [':'] else segment) :: done

/-- Resolve the dots of a path.  `done` holds the segments so far, the last
first.  Dots at the end leave a slash there. -/
def resolveDots (isFile : Bool) (done : List (List Char)) : List (List Char) → List (List Char)
  | [] => done.reverse
  | segment :: rest =>
    let closed := fun (done : List (List Char)) => if rest.isEmpty then [] :: done else done
    if plainDots segment = ['.', '.'] then resolveDots isFile (closed (takeBack done)) rest
    else if plainDots segment = ['.'] then resolveDots isFile (closed done) rest
    else resolveDots isFile (addSegment isFile done segment) rest

/-- The segments of a path, from what follows its first slash. -/
def normalSegments (isFile : Bool) (text : List Char) : List (List Char) :=
  resolveDots isFile [] (splitChars '/' text)

/-- Segments with a slash before each. -/
def segmentsText (segments : List (List Char)) : List Char := segments.flatMap ('/' :: ·)

end ModelRuns
