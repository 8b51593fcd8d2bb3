import ModelRuns.Invocation.Value

namespace ModelRuns

/-!
# Reading a command line

Tokens are read from left to right.  A flag with a value takes the next token,
unless that begins with a dash; the value may also follow an equals sign.  A
flag whose value stands in a token of its own stays open: it is settled, and
may then turn out to be wrong, only when the next known flag comes or the line
ends.  Tokens that cannot belong to any flag are refused at once.

The outcome of the walk is the list of given flags with their values;
`Invocation.ofGiven` reads the options off that list.
-/

/-- Why a command line is refused, or that help was asked for. -/
inductive UsageFault
  | helpRequested
  | unexpectedArgument (token : String)
  | valueMissing (flag : Flag)
  | invalidValue (flag : Flag) (value : String) (cause : ValueFault)
  | repeatedFlag (flag : Flag)
  | conflict (first second : Flag)
  | unexpectedValue (flag : String) (value : String)
deriving DecidableEq

/-- The first line of the wording of a fault. -/
def UsageFault.message : UsageFault → String
  | .helpRequested => ""
  | .unexpectedArgument token => "error: unexpected argument '" ++ token ++ "' found"
  | .valueMissing flag =>
    "error: a value is required for '" ++ flag.shown ++ "' but none was supplied"
  | .invalidValue flag value cause =>
    "error: invalid value '" ++ value ++ "' for '" ++ flag.shown ++ "': " ++ cause.message
  | .repeatedFlag flag =>
    "error: the argument '" ++ flag.shown ++ "' cannot be used multiple times"
  | .conflict first second =>
    "error: the argument '" ++ first.shown ++ "' cannot be used with '" ++ second.shown ++ "'"
  | .unexpectedValue flag value =>
    "error: unexpected value '" ++ value ++ "' for '" ++ flag ++ "' found; no more were expected"

/-- The flags given so far with their values, the last first. -/
abbrev Given := List (Flag × FlagValue)

/-! ## Settling a flag -/

/-- The value of a flag from its text, if it has one. -/
def readFlagValue (flag : Flag) (text : Option String) : Except UsageFault FlagValue :=
  let invalid := fun (text : String) (cause : ValueFault) =>
    Except.error (UsageFault.invalidValue flag text cause)
  match flag.form, text with
  | .switch, _ => .ok .on
  | .optionalText, text => .ok (.text (text.getD ""))
  | _, none => .error (.valueMissing flag)
  | .text, some text => .ok (.text text)
  | .path, some text => if text = "" then .error (.valueMissing flag) else .ok (.path ⟨text⟩)
  | .fraction, some text =>
    match readFloat text with
    | .ok value => .ok (.fraction value)
    | .error cause => invalid text (.float cause)
  | .natural limit, some text =>
    match readNatural limit text with
    | .ok value => .ok (.natural value)
    | .error cause => invalid text cause

/-- Whether a flag needs a value and has none. -/
def lacksValue (flag : Flag) (text : Option String) : Bool :=
  text.isNone && flag.form != .switch && flag.form != .optionalText

/-- Settle a flag: it must have its value, may stand again only if it is
repeatable, and the value must be readable, in this order. -/
def settle (given : Given) (flag : Flag) (text : Option String) : Except UsageFault Given :=
  if lacksValue flag text then .error (.valueMissing flag)
  else if !flag.isRepeatable && given.any (·.1 == flag) then .error (.repeatedFlag flag)
  else (readFlagValue flag text).map (fun value => (flag, value) :: given)

/-- A flag that waits to be settled, with the value it has taken. -/
abbrev OpenFlag := Option (Flag × Option String)

def settleOpen (given : Given) : OpenFlag → Except UsageFault Given
  | none => .ok given
  | some (flag, text) => settle given flag text

/-! ## Tokens -/

/-- What a token is, by its spelling. -/
inductive Token
  | separator
  | help
  | helpValue (value : String)
  | flag (flag : Flag) (value : Option String)
  | refused (shown : String)
  | plain (text : String)
deriving DecidableEq

/-- Classify a token among the flags of a pipeline. -/
def Token.classify (mode : Mode) (text : String) : Token :=
  match text.toList with
  | ['-', '-'] => .separator
  | '-' :: '-' :: rest =>
    let name := String.ofList (rest.takeWhile (· ≠ '='))
    let value := match rest.dropWhile (· ≠ '=') with
      | [] => none
      | _ :: value => some (String.ofList value)
    if name = "help" then value.elim .help .helpValue
    else match Flag.ofText? mode name with
      | some found => .flag found value
      | none => .refused ("--" ++ name)
  | '-' :: 'h' :: _ => .help
  | '-' :: c :: _ => .refused (String.ofList ['-', c])
  | _ => .plain text

/-- Read the tokens after those that gave `given` and left a flag open.  The
tokens after a separator belong to no flag. -/
def readTokens (mode : Mode) (given : Given) (waiting : OpenFlag) :
    List String → Except UsageFault Given
  | [] => settleOpen given waiting
  | text :: rest =>
    match Token.classify mode text with
    | .separator =>
      match rest with
      | [] => settleOpen given waiting
      | text :: _ => .error (.unexpectedArgument text)
    | .help =>
      match settleOpen given waiting with
      | .error fault => .error fault
      | .ok _ => .error .helpRequested
    | .helpValue value => .error (.unexpectedValue "--help" value)
    | .refused shown => .error (.unexpectedArgument shown)
    | .plain text =>
      match waiting with
      | some (flag, none) => readTokens mode given (some (flag, some text)) rest
      | _ => .error (.unexpectedArgument text)
    | .flag flag value =>
      if flag.form = .switch ∧ value.isSome then
        .error (.unexpectedValue flag.shown (value.getD ""))
      else
        match settleOpen given waiting with
        | .error fault => .error fault
        | .ok given =>
          if flag.form = .switch ∨ value.isSome then
            match settle given flag value with
            | .error fault => .error fault
            | .ok given => readTokens mode given none rest
          else readTokens mode given (some (flag, none)) rest

/-- Sharing cannot be both asked for and refused.  The message names the one
that was given first. -/
def checkConflict (given : Given) : Except UsageFault Given :=
  match given.reverse.filter (fun (flag, _) => flag == .shared || flag == .unshared) with
  | (first, _) :: (second, _) :: _ => .error (.conflict first second)
  | _ => .ok given

/-! ## Options -/

namespace Given

variable (given : Given)

/-- Whether a flag was given. -/
def has (flag : Flag) : Bool := given.any (·.1 == flag)

def value? (flag : Flag) : Option FlagValue := (given.find? (·.1 == flag)).map (·.2)

def text? (flag : Flag) : Option String :=
  match value? given flag with
  | some (.text value) => some value
  | _ => none

def path? (flag : Flag) : Option Path :=
  match value? given flag with
  | some (.path value) => some value
  | _ => none

def fraction? (flag : Flag) : Option Float :=
  match value? given flag with
  | some (.fraction value) => some value
  | _ => none

/-- The number given for a flag. -/
def natural? (flag : Flag) : Option Nat :=
  match value? given flag with
  | some (.natural value) => some value
  | _ => none

/-- All texts given for a repeatable flag, in order. -/
def texts (flag : Flag) : List String :=
  given.reverse.filterMap fun
    | (other, .text value) => if other = flag then some value else none
    | _ => none

/-- The shared options. -/
def commonOptions : CommonOptions where
  trainingSet := path? given .train
  source := text? given .source
  dataset := text? given .dataset
  datasets := path? given .datasets
  testSet := path? given .test
  testSource := text? given .testSource
  testDataset := text? given .testDataset
  testDatasets := path? given .testDatasets
  outputDirectory := path? given .outputDir
  predictions := path? given .predictions
  resume := has given .resume
  clearLogs := has given .clearLogs
  debug := has given .debug
  verbosity := (natural? given .verbosity).getD 1
  logFile := path? given .logFile
  username := text? given .username
  apiKey := text? given .apiKey
  name := (text? given .name).getD "BigMLer"
  description := text? given .description
  tags := texts given .tag
  objective := text? given .objective
  publicDataset := has given .publicDataset
  shared := has given .shared
  unshared := has given .unshared
  testSplit := (fraction? given .testSplit).getD 0.0
  newFields := path? given .newFields
  multiDataset := has given .multiDataset
  toCsv := text? given .toCsv
  seed := text? given .seed
  sampleRate := fraction? given .sampleRate
  remote := has given .remote
  reports := has given .reports
  upload := has given .upload

/-- The options of the main pipeline. -/
def mainOptions : MainOptions where
  common := commonOptions given
  model := text? given .model
  models := path? given .models
  ensemble := text? given .ensemble
  numberOfModels := (natural? given .numberOfModels).getD 1
  ensembles := has given .ensembles
  maxCategories := (natural? given .maxCategories).getD 0
  blackBox := has given .blackBox
  whiteBox := has given .whiteBox
  evaluate := has given .evaluate
  crossValidationRate := (fraction? given .crossValidationRate).getD 0.0
  numberOfEvaluations := (natural? given .numberOfEvaluations).getD 5

/-- The options of the cluster pipeline. -/
def clusterOptions : ClusterOptions where
  common := commonOptions given
  cluster := text? given .cluster
  clusters := path? given .clusters
  clusterFile := path? given .clusterFile
  k := natural? given .k
  publicCluster := has given .publicCluster
  clusterDatasets := text? given .clusterDatasets

end Given

/-! ## Command lines -/

/-- The word after the program name that asks for the cluster pipeline. -/
def clusterWord : String := "cluster"

/-- The mode of a command line, by its second token. -/
def Mode.ofArguments (arguments : List String) : Mode :=
  if arguments[1]? = some clusterWord then .cluster else .main

/-- The invocation of a command line.  The first token, the name of the program,
is not looked at. -/
def Invocation.read (arguments : List String) : Except UsageFault Invocation :=
  match Mode.ofArguments arguments with
  | .main =>
    match readTokens .main [] none (arguments.drop 1) with
    | .error fault => .error fault
    | .ok given => (checkConflict given).map (fun given => .main (Given.mainOptions given))
  | .cluster =>
    match readTokens .cluster [] none (arguments.drop 2) with
    | .error fault => .error fault
    | .ok given => (checkConflict given).map (fun given => .cluster (Given.clusterOptions given))

end ModelRuns
