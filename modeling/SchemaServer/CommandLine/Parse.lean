import SchemaServer.CommandLine.Parameter
import SchemaServer.CommandLine.Similar

/-! # Reading the command line

Arguments are read from left to right.  A parameter that takes a value gets the next argument, unless
that looks like a parameter itself; the value is checked when the next parameter or the end is
reached.  An argument that nobody knows is reported before the faults of a value that is still to be
checked. -/

namespace SchemaServer.CommandLine

inductive Fault where
  /-- Nobody knows this argument; perhaps another one was meant. -/
  | unexpectedArgument (argument : String) (similar? : Option String) (used : List Parameter)
  | repeated (parameter : Parameter)
  /-- A value for a parameter that takes none; `others` says that parameters were given before. -/
  | unexpectedValue (value : String) (parameter : Parameter) (others : Bool)
  | missingValue (parameter : Parameter)
  | invalidValue (value : String) (parameter : Parameter) (reason : String)
deriving DecidableEq, Repr

def Fault.text : Fault → String
  | .unexpectedArgument argument similar? used =>
    let tip := match similar? with
      | some name => "\n\n  tip: a similar argument exists: '--" ++ name ++ "'"
      | none => ""
    "unexpected argument '" ++ argument ++ "' found" ++ tip ++ "\n\n" ++ usageWith used
  | .repeated p => "the argument '" ++ p.display ++ "' cannot be used multiple times\n\n" ++ usage
  | .unexpectedValue value p others =>
    "unexpected value '" ++ value ++ "' for '" ++ p.display ++ "' found; no more were expected\n\n" ++
      usageOf p others
  | .missingValue p => "a value is required for '" ++ p.display ++ "' but none was supplied"
  | .invalidValue value p reason =>
    "invalid value '" ++ value ++ "' for '" ++ p.display ++ "': " ++ reason

def Fault.message (f : Fault) : String :=
  "error: " ++ f.text ++ "\n\nFor more information, try '--help'.\n"

/-! ## Values -/

def splitSign : List Char → Bool × List Char
  | '-' :: rest => (true, rest)
  | '+' :: rest => (false, rest)
  | cs => (false, cs)

def processIdFault? (value : String) : Option String :=
  if value.isEmpty then some "cannot parse integer from empty string"
  else
    let (negative, digits) := splitSign value.toList
    if digits.isEmpty || !digits.all Char.isDigit then some "invalid digit found in string"
    else
      let n : Nat := digits.foldl (fun n c => n * 10 + (c.toNat - 48)) 0
      let i : Int := if negative then -n else n
      if 9223372036854775807 < i then some "number too large to fit in target type"
      else if i < -9223372036854775808 then some "number too small to fit in target type"
      else if i < 0 ∨ 4294967295 < i then some (toString i ++ " is not in 0..=4294967295")
      else none

def valueFault? (p : Parameter) (value : String) : Option Fault :=
  match p with
  | .analyzer | .stdPath => if value.isEmpty then some (.missingValue p) else none
  | .clientProcessId => (processIdFault? value).map (.invalidValue value p)
  | .analyzerArg | .enableFormatting | .stdio | .help | .version => none

/-! ## Reading -/

structure Reading where
  /-- The parameters given, in order of their first use, and their values. -/
  given : List (Parameter × List String) := []
  /-- A parameter whose value is still to be checked, or still to come. -/
  pending? : Option (Parameter × Option String) := none
  /-- Whether no parameter can follow. -/
  closed : Bool := false

namespace Reading

def has (r : Reading) (p : Parameter) : Bool := r.given.any (·.1 == p)

def values (r : Reading) (p : Parameter) : List String :=
  ((r.given.filter (·.1 == p)).map Prod.snd).flatten

def note (r : Reading) (p : Parameter) (values : List String) : Reading :=
  if r.has p then
    { r with given := r.given.map fun (q, old) => if q = p then (q, old ++ values) else (q, old) }
  else { r with given := r.given ++ [(p, values)] }

def take (r : Reading) (p : Parameter) (value? : Option String) : Except Fault Reading :=
  match p.takesValue, value? with
  | true, none => .error (.missingValue p)
  | _, _ =>
    -- Only the arguments of the analyzer may be given more than once.
    if r.has p && p ≠ .analyzerArg then .error (.repeated p)
    else
      match value?.bind (valueFault? p) with
      | some fault => .error fault
      | none => .ok (r.note p value?.toList)

def settle (r : Reading) : Except Fault Reading :=
  match r.pending? with
  | some (p, value?) => { r with pending? := none }.take p value?
  | none => .ok r

/-- The parameters that were used, one still to be checked included once its value is there; one
    that must not be repeated drops out. -/
def used (r : Reading) : List Parameter :=
  let given := r.given.map Prod.fst
  match r.pending? with
  | some (p, some _) =>
    if p = .analyzerArg then (given ++ [p]).eraseDups
    else if r.has p then given.filter (· ≠ p)
    else given ++ [p]
  | _ => given

end Reading

inductive Step where
  | next (reading : Reading)
  | showHelp
  | showVersion

def takeParameter (r : Reading) (p : Parameter) (attached? : Option String) : Except Fault Step := do
  if p.takesValue then
    let r ← r.settle
    match attached? with
    | some value => return .next (← r.take p (some value))
    | none => return .next { r with pending? := some (p, none) }
  else
    match attached? with
    | some value => throw (.unexpectedValue value p !r.given.isEmpty)
    | none =>
      let r ← r.settle
      match p with
      | .help => return .showHelp
      | .version => return .showVersion
      | p => return .next (← r.take p none)

def unknownName (r : Reading) (name : String) : Fault :=
  let similar? := mostSimilar name (Parameter.all.map Parameter.name)
  let meant := (similar?.bind Parameter.ofName?).toList
  .unexpectedArgument ("--" ++ name) similar? ((r.used ++ meant).eraseDups)

def readLong (r : Reading) (cs : List Char) : Except Fault Step :=
  let name := String.ofList (cs.takeWhile (· ≠ '='))
  let attached? := match cs.dropWhile (· ≠ '=') with
    | _ :: value => some (String.ofList value)
    | [] => none
  match Parameter.ofName? name with
  | some p => takeParameter r p attached?
  | none => .error (unknownName r name)

def readShort (r : Reading) (c : Char) : Except Fault Step :=
  if c = 'h' then takeParameter r .help none
  else if c = 'V' then takeParameter r .version none
  else .error (.unexpectedArgument ("-" ++ c.toString) none [])

/-- Read an argument that is no parameter: the value of one before it, or nothing anybody knows. -/
def readPlain (r : Reading) (argument : String) : Except Fault Step :=
  match r.closed, r.pending? with
  | false, some (p, none) => .ok (.next { r with pending? := some (p, some argument) })
  | _, _ => .error (.unexpectedArgument argument none [])

def readArgument (r : Reading) (argument : String) : Except Fault Step :=
  -- An argument for the analyzer may look like a parameter of this program.
  if r.closed || r.pending? = some (.analyzerArg, none) then readPlain r argument
  else
    match argument.toList with
    | ['-', '-'] => .ok (.next { r with closed := true })
    | '-' :: '-' :: rest => readLong r rest
    | '-' :: c :: _ => readShort r c
    | _ => readPlain r argument

/-! ## The whole command line -/

structure Options where
  analyzer : String
  arguments : List String
  stdPath? : Option String
  formatting : Bool
deriving DecidableEq, Repr

inductive Outcome where
  | run (options : Options)
  | showHelp
  | showVersion
  | refused (fault : Fault)

/-- Take the environment's value of a parameter that was not given. -/
def fromEnvironment (environment : Environment) (p : Parameter) (r : Reading) : Except Fault Reading :=
  match r.has p, p.environmentName?.bind environment with
  | false, some value => r.take p (some value)
  | _, _ => .ok r

def options (environment : Environment) (r : Reading) : Except Fault Options := do
  let r ← r.settle
  let r ← fromEnvironment environment .analyzer r
  let r ← fromEnvironment environment .stdPath r
  return {
    analyzer := (r.values .analyzer).headD defaultAnalyzer
    arguments := r.values .analyzerArg
    stdPath? := (r.values .stdPath).head?
    formatting := r.has .enableFormatting }

def parseFrom (environment : Environment) (r : Reading) : List String → Outcome
  | [] =>
    match options environment r with
    | .ok options => .run options
    | .error fault => .refused fault
  | argument :: rest =>
    match readArgument r argument with
    | .ok (.next r) => parseFrom environment r rest
    | .ok .showHelp => .showHelp
    | .ok .showVersion => .showVersion
    | .error fault => .refused fault

def parse (environment : Environment) (arguments : List String) : Outcome :=
  parseFrom environment {} arguments

end SchemaServer.CommandLine
