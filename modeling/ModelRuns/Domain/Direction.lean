import ModelRuns.Text.Mark

namespace ModelRuns

/-!
# The direction of labels

Letters are written from left to right or from right to left.  Where a domain
name has a letter or a number that goes from right to left, each of its labels
must keep to one direction, so that labels are not mixed up when they are shown.
The tables hold only characters that can stand in a name; the others may be in
any class.
-/

/-- What a character says about the direction of writing. -/
inductive Direction
  | left
  | right
  | arabicNumber
  | europeanNumber
  | mark
  | neutral
deriving DecidableEq, Repr

namespace Direction

/-- The tables of the classes without the marks; all other characters go from
left to right. -/
def tables : List (Direction × String) := [
  (.right, "
5be 5c0 5c3 5c6 5d0-5f4 608 60b 60d 61b-64a 66d-66f 671-6d5 6e5-6e6 6ee-6ef 6fa-710 712-72f
74d-7a5 7b1-7ea 7f4-7f5 7fa 7fe-815 81a 824 828 830-858 85e-88f 8a0-8c9 fbb2-fbc2 fe73 10800-1091b
10920-10a00 10a10-10a35 10a40-10ae4 10aeb-10b35 10b40-10d23 10d4a-10d4f 10d6f-10d8f 10e80-10ea9
10ead-10ec7 10f00-10f45 10f51-10f81 10f86-10ff6 1e800-1e8cf 1e922-1e943 1e94b-1ed3d"),
  (.arabicNumber, "660-669 66b-66c 10d30-10d39 10e60-10e7e"),
  (.europeanNumber, "30-39 6f0-6f9 102e1-102fb 10d40-10d49"),
  (.neutral, "
0-2f 3a-60 7b-d7 f7 2b9-2ba 2c2-2cf 2d2-2ed 2ef-2ff 375 3f6 58a-58f 606-607 609-60a 60c 60e-60f
66a 6de 6e9 7f6-7f9 9f2-9f3 9fb af1 bf3-bfa c78-c7e e3f f3a-f3d 1390-1399 1400 169b-169c 17db
17f0-180a 1940-1945 19de-19ff 200c-20c1 2104-214d 218a-2335 237b-2394 2396-26ab 26ad-27ff
2900-2bff 2ce5-2cea 2cf9-2cff 2e00-3004 3008-3020 3030 3037 303d-303f 30a0 30fb 31c0-31e5
4dc0-4dff a490-a4c6 a60d-a60f a673 a67e-a67f a700-a721 a788 a828-a82b a838-a839 a874-a877
ab6a-ab6b fbc3-fdff fe45-fe46 10101 10140-1018c 10190-101a0 1091f 10b39-10b3f 10d6e 10ed0-10ed8
11052-11065 11660-1166c 11fd5-11ff1 16fe2 1cc00-1cef0 1d1e9-1d241 1d245 1d300-1d356 1e2ff
1eef0-1f12f 1f16d-1f16f 1f1ad 1f260-1fbfa")]

/-- The characters of each class without the marks. -/
def classes : List (Direction × CharSet) :=
  tables.map fun (direction, table) => (direction, .ofTable table)

/-- The nonspacing marks that go from left to right all the same. -/
def leftMarks : CharSet := .ofTable "cbf cc6 11c3f"

/-- The class of a character. -/
def ofChar (c : Char) : Direction :=
  if nonspacingMarks.contains c then (if leftMarks.contains c then .left else .mark)
  else ((classes.find? fun (_, set) => set.contains c).map (·.1)).getD .left

/-- Whether a label that begins from left to right keeps to it. -/
def keepsLeft (rest : List Direction) : Bool :=
  rest.all (fun direction => direction ≠ .right && direction ≠ .arabicNumber) &&
    match (rest.reverse.dropWhile (· = .mark)).head? with
    | none => true
    | some last => last = .left || last = .europeanNumber

/-- Whether a label that begins from right to left keeps to it.  It may have
numbers of one kind only. -/
def keepsRight (rest : List Direction) : Bool :=
  rest.all (· ≠ .left) &&
    !(rest.contains .arabicNumber && rest.contains .europeanNumber) &&
    match (rest.reverse.dropWhile (· = .mark)).head? with
    | none => true
    | some last => last ≠ .neutral

/-- Whether a label keeps to one direction. -/
def keeps (label : List Char) : Bool :=
  match label.map ofChar with
  | [] => true
  | .left :: rest => keepsLeft rest
  | .right :: rest => keepsRight rest
  | _ => false

/-- Whether a label has something that goes from right to left. -/
def turns (label : List Char) : Bool :=
  label.any fun c => ofChar c = .right || ofChar c = .arabicNumber

/-- Whether the labels of a name can be told apart when they are shown. -/
def fit (labels : List (List Char)) : Bool :=
  !labels.any turns || labels.all keeps

end Direction

end ModelRuns
