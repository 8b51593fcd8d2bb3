import ModelRuns.Failure

namespace ModelRuns

/-!
# The one-line text of a command

A command is a list of tokens.  Its text separates them by spaces.  A token of
harmless characters stands as it is; every other token stands between double
quotes, with backslash escapes for the characters that mean something there and
for line breaks and tabs, so that a command always takes one line of a log.

Reading accepts more than writing produces: single quotes, bare backslashes and
double quotes in any mix, as in lines edited by hand.  `scanBare`, `scanSingle`
and `scanDouble` are the three states of the reader.  A token is open as soon as
a character or a quote has been seen, so an empty pair of quotes is an empty
token.
-/

namespace CommandText

/-! ## Writing -/

/-- The characters that need no quotes. -/
def isHarmless (c : Char) : Bool :=
  c.isAlphanum || ['-', '_', '.', '/', '=', ':', ',', '@', '%', '+'].contains c

/-- A character between double quotes. -/
def escape (c : Char) : List Char :=
  match c with
  | '\\' => ['\\', '\\']
  | '"' => ['\\', '"']
  | '$' => ['\\', '$']
  | '\x60' => ['\\', '\x60']
  | '\n' => ['\\', 'n']
  | '\r' => ['\\', 'r']
  | '\t' => ['\\', 't']
  | c => [c]

/-- The text of a token. -/
def quoteChars (token : List Char) : List Char :=
  if !token.isEmpty && token.all isHarmless then token
  else '"' :: token.flatMap escape ++ ['"']

/-- The text of a list of tokens. -/
def joinTokens (tokens : List (List Char)) : List Char :=
  [' '].intercalate (tokens.map quoteChars)

/-! ## Reading -/

/-- Why a text is no command. -/
inductive Fault
  | danglingEscape
  | unterminatedQuote
deriving DecidableEq, Repr

/-- The wording of a fault in a line. -/
def Fault.message (line : String) : Fault → String
  | .danglingEscape => "dangling escape in `" ++ line ++ "`"
  | .unterminatedQuote => "unterminated quote in `" ++ line ++ "`"

/-- The characters that an escape between double quotes stands for.  An escape
of any other character keeps its backslash. -/
def unescape (c : Char) : List Char :=
  match c with
  | '\\' => ['\\']
  | '"' => ['"']
  | '$' => ['$']
  | '\x60' => ['\x60']
  | 'n' => ['\n']
  | 'r' => ['\r']
  | 't' => ['\t']
  | c => ['\\', c]

/-- The open token, finished.  Tokens are collected in reverse. -/
def finished : Option (List Char) → List (List Char)
  | none => []
  | some token => [token.reverse]

mutual

/-- Read outside quotes, with the open token if there is one. -/
def scanBare (current : Option (List Char)) : List Char → Except Fault (List (List Char))
  | [] => .ok (finished current)
  | ' ' :: rest => (scanBare none rest).map (finished current ++ ·)
  | '\t' :: rest => (scanBare none rest).map (finished current ++ ·)
  | '\'' :: rest => scanSingle (current.getD []) rest
  | '"' :: rest => scanDouble (current.getD []) rest
  | ['\\'] => .error .danglingEscape
  | '\\' :: c :: rest => scanBare (some (c :: current.getD [])) rest
  | c :: rest => scanBare (some (c :: current.getD [])) rest

/-- Read between single quotes, where every character stands for itself. -/
def scanSingle (current : List Char) : List Char → Except Fault (List (List Char))
  | [] => .error .unterminatedQuote
  | '\'' :: rest => scanBare (some current) rest
  | c :: rest => scanSingle (c :: current) rest

/-- Read between double quotes. -/
def scanDouble (current : List Char) : List Char → Except Fault (List (List Char))
  | [] => .error .unterminatedQuote
  | '"' :: rest => scanBare (some current) rest
  | ['\\'] => .error .unterminatedQuote
  | '\\' :: c :: rest => scanDouble ((unescape c).reverse ++ current) rest
  | c :: rest => scanDouble (c :: current) rest

end

/-- The tokens of a text. -/
def splitChars (text : List Char) : Except Fault (List (List Char)) :=
  scanBare none text

/-! ## Strings -/

/-- The text of a token. -/
def quote (token : String) : String := String.ofList (quoteChars token.toList)

/-- The text of a command. -/
def join (tokens : List String) : String :=
  String.ofList (joinTokens (tokens.map String.toList))

/-- The command of a line. -/
def split (line : String) : Except Failure (List String) :=
  match splitChars line.toList with
  | .ok tokens => .ok (tokens.map String.ofList)
  | .error fault => .error (.corruptLog (fault.message line))

end CommandText

end ModelRuns
