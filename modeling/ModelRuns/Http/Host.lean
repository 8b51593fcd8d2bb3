import ModelRuns.Domain.Name
import ModelRuns.Http.Percent

namespace ModelRuns

/-!
# Hosts

A host is a domain name, an address of four bytes or, in brackets, one of sixteen
bytes.  A name whose last label is a number is meant as an address of four bytes.
Schemes that are not of the web have hosts without further meaning, whose
characters are only encoded.
-/

/-- Why a text is no address. -/
inductive UrlFault
  | noScheme
  | emptyHost
  | invalidName
  | invalidCharacter
  | invalidPort
  | invalidAddress4
  | invalidAddress6
deriving DecidableEq, Repr

/-- The wording of a fault. -/
def UrlFault.message : UrlFault → String
  | .noScheme => "relative URL without a base"
  | .emptyHost => "empty host"
  | .invalidName => "invalid international domain name"
  | .invalidCharacter => "invalid domain character"
  | .invalidPort => "invalid port number"
  | .invalidAddress4 => "invalid IPv4 address"
  | .invalidAddress6 => "invalid IPv6 address"

namespace Host

/-! ## Addresses of four bytes -/

/-- A part of an address of four bytes: hexadecimal, octal or decimal. -/
def readPart4 : List Char → Option Nat
  | [] => none
  | '0' :: 'x' :: digits => numberIn? 16 digits
  | '0' :: digit :: digits => numberIn? 8 (digit :: digits)
  | digits => numberIn? 10 digits

/-- Whether a host is meant as an address of four bytes: its last part is a
number. -/
def endsInNumber (parts : List (List Char)) : Bool :=
  match parts.getLast? with
  | none => false
  | some last => (!last.isEmpty && last.all Char.isDigit) || (readPart4 last).isSome

/-- The four bytes of an address; its last part stands for all that are left. -/
def bytes4 (parts : List Nat) : Option (List Nat) :=
  let front := parts.dropLast
  let left := 4 - front.length
  match parts.getLast? with
  | none => none
  | some last =>
    if 4 < parts.length ∨ front.any (255 < ·) ∨ bytesTo left ≤ last then none
    else some (front ++ (List.range left).map fun index =>
      last / bytesTo (left - 1 - index) % 256)

/-- An address of four bytes in its normal form. -/
def readAddress4 (parts : List (List Char)) : Except UrlFault String :=
  match (parts.mapM readPart4).bind bytes4 with
  | some bytes => .ok (".".intercalate (bytes.map toString))
  | none => .error .invalidAddress4

/-! ## Addresses of sixteen bytes -/

/-- One of the four bytes at the end of an address of sixteen, in decimal and
without a zero before other digits. -/
def readByte (text : List Char) : Option Nat :=
  if text = [] ∨ (text.head? = some '0' ∧ 1 < text.length) then none
  else (numberIn? 10 text).filter (· < 256)

/-- The two groups that four bytes make up. -/
def readBytes4 (text : List Char) : Option (List Nat) :=
  match (splitChars '.' text).mapM readByte with
  | some [first, second, third, fourth] => some [first * 256 + second, third * 256 + fourth]
  | _ => none

/-- A group of at most four hexadecimal digits. -/
def readGroup (text : List Char) : Option Nat :=
  if text = [] ∨ 4 < text.length then none else numberIn? 16 text

/-- Groups with colons between them.  At the end of an address the last two may
be written as four bytes. -/
def readGroups (atEnd : Bool) (text : List Char) : Option (List Nat) :=
  if text.isEmpty then some []
  else
    let parts := splitChars ':' text
    let last := parts.getLast?.getD []
    if atEnd && last.contains '.' then do
      let front ← parts.dropLast.mapM readGroup
      return front ++ (← readBytes4 last)
    else parts.mapM readGroup

/-- Split at the first double colon. -/
def splitGap : List Char → Option (List Char × List Char)
  | [] => none
  | ':' :: ':' :: rest => some ([], rest)
  | c :: rest => (splitGap rest).map fun (front, back) => (c :: front, back)

/-- The eight groups of an address of sixteen bytes; a double colon stands for
the zeros that are missing. -/
def readAddress6 (text : List Char) : Option (List Nat) :=
  match splitGap text with
  | none => (readGroups true text).filter (·.length == 8)
  | some (front, back) => do
    let front ← readGroups false front
    let back ← readGroups true back
    if 7 < front.length + back.length then none
    else some (front ++ List.replicate (8 - front.length - back.length) 0 ++ back)

/-- The length of the zeros at the front. -/
def zeroRun (groups : List Nat) : Nat := (groups.takeWhile (· == 0)).length

/-- Where the first longest run of zeros begins, and its length. -/
def longestZeros (groups : List Nat) : Nat × Nat :=
  (List.range groups.length).foldl (fun best start =>
    let length := zeroRun (groups.drop start)
    if best.2 < length then (start, length) else best) (0, 0)

/-- Groups with colons between them. -/
def groupsText (groups : List Nat) : String :=
  ":".intercalate (groups.map fun group => String.ofList (Nat.toDigits 16 group))

/-- An address of sixteen bytes in its normal form. -/
def address6Text (groups : List Nat) : String :=
  let (start, length) := longestZeros groups
  if length < 2 then groupsText groups
  else groupsText (groups.take start) ++ "::" ++ groupsText (groups.drop (start + length))

/-- Read what follows an opening bracket. -/
def readBracketed (text : List Char) : Except UrlFault String :=
  if text.getLast? = some ']' then
    match readAddress6 text.dropLast with
    | some groups => .ok ("[" ++ address6Text groups ++ "]")
    | none => .error .invalidAddress6
  else .error .invalidAddress6

/-! ## Names -/

/-- What cannot stand in a host without further meaning. -/
def isForbidden (c : Char) : Bool :=
  c.toNat = 0 || ['\t', '\n', '\r', ' ', '#', '/', ':', '<', '>', '?', '@', '[', '\\', ']', '^',
    '|'].contains c

/-- The normal form of a host without further meaning. -/
def readOpaque : List Char → Except UrlFault String
  | '[' :: rest => readBracketed rest
  | host =>
    if host.any isForbidden then .error .invalidCharacter
    else .ok (String.ofList (encodeWhere isOpaque host))

/-- The normal form of the host of an address of the web. -/
def read : List Char → Except UrlFault String
  | '[' :: rest => readBracketed rest
  | host =>
    match (decodePercent? host).bind asciiName with
    | none => .error .invalidName
    | some [] => .error .emptyHost
    | some name =>
      let parts := splitChars '.' name
      let parts := if parts.getLast? = some [] then parts.dropLast else parts
      if endsInNumber parts then readAddress4 parts else .ok (String.ofList name)

end Host

end ModelRuns
