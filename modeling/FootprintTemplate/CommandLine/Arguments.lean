import FootprintTemplate.Number.Read

/-! Arguments of the command line. They name a command, one input file and flags. A flag that takes
a value takes it from the next argument, or attached to its own. -/
namespace FootprintTemplate.CommandLine

inductive Flag where
  | verbose
  | output
  | netMap
  | config
  | namePrefix
  | prefixAll
  | net
  | designator
  | side
  | x
  | y
  | r
deriving DecidableEq, Repr

namespace Flag

def long : Flag → String
  | verbose => "verbose"
  | output => "output"
  | netMap => "net-map"
  | config => "config"
  | namePrefix => "prefix"
  | prefixAll => "prefix-all"
  | net => "net"
  | designator => "designator"
  | side => "side"
  | x => "x"
  | y => "y"
  | r => "r"

def short? : Flag → Option Char
  | verbose => some 'v'
  | output => some 'o'
  | _ => none

def takesValue : Flag → Bool
  | verbose | netMap | prefixAll => false
  | _ => true

def isRepeatable (flag : Flag) : Bool :=
  flag == net

/-- The value may be a negative number in an argument of its own. -/
def takesNumber (flag : Flag) : Bool :=
  flag == x || flag == y || flag == r

end Flag

inductive Command where
  | convert
  | pads
  | preview
deriving DecidableEq, Repr

namespace Command

def ofName? : String → Option Command
  | "convert" => some convert
  | "pads" => some pads
  | "preview" => some preview
  | _ => none

def namingFlags : List Flag :=
  [.verbose, .config, .namePrefix, .prefixAll, .net, .designator]

def flags : Command → List Flag
  | convert => .output :: .netMap :: namingFlags
  | pads => namingFlags
  | preview => .side :: .x :: .y :: .r :: namingFlags

end Command

/-- A name and, after an equals sign, a value. -/
def splitEquals (chars : List Char) : List Char × Option (List Char) :=
  match chars.dropWhile (· != '=') with
  | [] => (chars, none)
  | _ :: value => (chars.takeWhile (· != '='), some value)

/-- A pad and its net, at the first equals sign. The net may not be empty. -/
def readOverride? (text : String) : Option (String × String) :=
  match splitEquals text.toList with
  | (pad, some (c :: net)) => some (String.ofList pad, String.ofList (c :: net))
  | _ => none

/-- A path, which may not be empty. -/
def readPath? (text : String) : Option String :=
  if text == "" then none else some text

/-- Settings given by flags. -/
structure Naming where
  config : Option String := none
  padPrefix : Option String := none
  prefixAll : Bool := false
  nets : List (String × String) := []
  designator : Option String := none
deriving DecidableEq, Repr

structure Arguments where
  input : Option String := none
  output : Option String := none
  netMap : Bool := false
  naming : Naming := {}
  given : List Flag := []
deriving DecidableEq, Repr

namespace Arguments

/-- Gives a flag, with its text if it takes a value. Only the flag for net names may be given more
than once, and the value has to be readable. -/
def give (arguments : Arguments) (flag : Flag) (text : String) : Option Arguments :=
  if arguments.given.contains flag && !flag.isRepeatable then none
  else
    let arguments := { arguments with given := flag :: arguments.given }
    let naming := arguments.naming
    match flag with
    | .verbose | .side => some arguments
    | .output => (readPath? text).map fun path => { arguments with output := some path }
    | .netMap => some { arguments with netMap := true }
    | .config => (readPath? text).map fun path =>
      { arguments with naming := { naming with config := some path } }
    | .namePrefix => some { arguments with naming := { naming with padPrefix := some text } }
    | .prefixAll => some { arguments with naming := { naming with prefixAll := true } }
    | .net => (readOverride? text).map fun pair =>
      { arguments with naming := { naming with nets := naming.nets ++ [pair] } }
    | .designator => some { arguments with naming := { naming with designator := some text } }
    | .x | .y | .r => (Number.readDouble? text).map fun _ => arguments

/-- Gives an argument that is no flag. There is one, the input. -/
def giveInput (arguments : Arguments) (text : String) : Option Arguments :=
  if arguments.input.isSome then none
  else (readPath? text).map fun path => { arguments with input := some path }

end Arguments

inductive Refusal where
  | help
  | usage
deriving DecidableEq, Repr

def longFlag? (flags : List Flag) (name : String) : Option Flag :=
  flags.find? (·.long == name)

def shortFlag? (flags : List Flag) (c : Char) : Option Flag :=
  flags.find? (·.short? == some c)

/-- Digits with at most one point that is not first, and an exponent in between. -/
def isNumberTail (seenPoint seenExponent : Bool) : List Char → Bool
  | [] => true
  | c :: rest =>
    if c.isDigit then isNumberTail seenPoint seenExponent rest
    else if c == '.' then !seenPoint && !seenExponent && isNumberTail true seenExponent rest
    else (c == 'e' || c == 'E') && !seenExponent && !rest.isEmpty &&
      isNumberTail seenPoint true rest

/-- What follows a minus makes it a negative number. -/
def isNegativeNumber : List Char → Bool
  | c :: rest => c.isDigit && isNumberTail false false rest
  | [] => false

/-- The argument is a value, and no flag, to the flag before it. -/
def isValueFor (flag : Flag) (argument : List Char) : Bool :=
  match argument with
  | '-' :: '-' :: _ => false
  | '-' :: c :: rest => flag.takesNumber && isNegativeNumber (c :: rest)
  | _ => true

/-- Arguments read so far, and the flag that waits for a value. -/
abbrev Waiting := Arguments × Option Flag

def orUsage {α : Type} : Option α → Except Refusal α
  | some a => .ok a
  | none => .error .usage

/-- Flags of one letter after a single dash. The last may take a value, the rest of the argument or
the next one. -/
def readCluster (flags : List Flag) (arguments : Arguments) :
    List Char → Except Refusal Waiting
  | [] => .ok (arguments, none)
  | c :: rest =>
    match shortFlag? flags c with
    | none => .error (if c == 'h' then .help else .usage)
    | some flag =>
      if !flag.takesValue then
        match arguments.give flag "" with
        | some arguments => readCluster flags arguments rest
        | none => .error .usage
      else match rest with
        | [] => .ok (arguments, some flag)
        | '=' :: value | value =>
          orUsage ((arguments.give flag (String.ofList value)).map (·, none))

def readFlag (flags : List Flag) (arguments : Arguments) : List Char → Except Refusal Waiting
  | '-' :: '-' :: chars =>
    let (name, value) := splitEquals chars
    match longFlag? flags (String.ofList name), value with
    | none, _ => .error (if String.ofList chars == "help" then .help else .usage)
    | some flag, some value =>
      if flag.takesValue then
        orUsage ((arguments.give flag (String.ofList value)).map (·, none))
      else .error .usage
    | some flag, none =>
      if flag.takesValue then .ok (arguments, some flag)
      else orUsage ((arguments.give flag "").map (·, none))
  | '-' :: chars => readCluster flags arguments chars
  | _ => .error .usage

def isFlagArgument : List Char → Bool
  | '-' :: _ :: _ => true
  | _ => false

/-- Takes arguments apart in their order, up to the first that cannot stand where it does or asks
for help. After two dashes no argument is a flag. -/
def readArguments (flags : List Flag) (waiting : Option Flag) (arguments : Arguments) :
    List String → Except Refusal Arguments
  | [] => if waiting.isSome then .error .usage else .ok arguments
  | argument :: rest =>
    match waiting with
    | some flag =>
      if isValueFor flag argument.toList then
        match arguments.give flag argument with
        | some arguments => readArguments flags none arguments rest
        | none => .error .usage
      else .error .usage
    | none =>
      if argument == "--" then orUsage (rest.foldlM Arguments.giveInput arguments)
      else if isFlagArgument argument.toList then
        match readFlag flags arguments argument.toList with
        | .error refusal => .error refusal
        | .ok (arguments, waiting) => readArguments flags waiting arguments rest
      else
        match arguments.giveInput argument with
        | some arguments => readArguments flags none arguments rest
        | none => .error .usage

inductive Request where
  | version
  | help
  | convert (input : String) (output : Option String) (netMap : Bool) (naming : Naming)
  | pads (input : String) (naming : Naming)
  | preview (input : String) (naming : Naming)
deriving DecidableEq, Repr

def request (command : Command) (arguments : Arguments) (input : String) : Request :=
  match command with
  | .convert => .convert input arguments.output arguments.netMap arguments.naming
  | .pads => .pads input arguments.naming
  | .preview => .preview input arguments.naming

def readCommand (command : Command) (arguments : List String) : Except Refusal Request :=
  match readArguments command.flags none {} arguments with
  | .error .help => .ok .help
  | .error .usage => .error .usage
  | .ok arguments => orUsage (arguments.input.map (request command arguments))

/-- Help can be asked for one command, and for the command that gives help. -/
def readHelp : List String → Except Refusal Request
  | [] => .ok .help
  | [name] => if (Command.ofName? name).isSome || name == "help" then .ok .help else .error .usage
  | _ => .error .usage

/-- Letters before the command: each is the verbose flag, at most once, or asks for the version. -/
def readLeading (verbose : Bool) : List Char → Except Refusal (Bool ⊕ Request)
  | [] => .ok (.inl verbose)
  | c :: rest =>
    if c == 'V' then .ok (.inr .version)
    else if c == 'h' then .ok (.inr .help)
    else if c == 'v' && !verbose then readLeading true rest
    else .error .usage

/-- Reads all arguments. Before the command only the verbose flag may stand, unless help or the
version is asked for. -/
def readRequest (verbose : Bool) : List String → Except Refusal Request
  | [] => .error .usage
  | argument :: rest =>
    match Command.ofName? argument with
    | some command => readCommand command rest
    | none =>
      if argument == "help" then readHelp rest
      else if argument == "--help" then .ok .help
      else if argument == "--version" then .ok .version
      else if argument == "--verbose" && !verbose then readRequest true rest
      else
        match argument.toList with
        | '-' :: '-' :: _ => .error .usage
        | '-' :: c :: letters =>
          match readLeading verbose (c :: letters) with
          | .error refusal => .error refusal
          | .ok (.inr request) => .ok request
          | .ok (.inl verbose) => readRequest verbose rest
        | _ => .error .usage

end FootprintTemplate.CommandLine
