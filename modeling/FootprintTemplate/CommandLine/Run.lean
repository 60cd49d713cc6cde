import FootprintTemplate.CommandLine.Arguments
import FootprintTemplate.CommandLine.Files
import FootprintTemplate.Config.Read
import FootprintTemplate.Convert

/-! Running a command. The first stage that fails decides the exit code; nothing is printed or
written before all stages that can fail on the input are done. -/
namespace FootprintTemplate.CommandLine

structure Outcome where
  code : UInt32
  stdout : String
  stderr : String
deriving DecidableEq, Repr

inductive Blame where
  | usage
  | input
  | processing
deriving DecidableEq, Repr

def Blame.code : Blame → UInt32
  | usage => 1
  | input => 2
  | processing => 3

structure Failure where
  blame : Blame
  message : String
deriving DecidableEq, Repr

def Failure.outcome (failure : Failure) : Outcome :=
  ⟨failure.blame.code, "", "Error: " ++ failure.message ++ "\n"⟩

def usageText : String :=
  "Usage: kicad2ergogen [-v] <COMMAND>\n\nCommands:\n" ++
    "  convert <INPUT> [-o FILE] [--net-map] [NAMING]\n" ++
    "  pads <INPUT> [NAMING]\n" ++
    "  preview <INPUT> [--side SIDE] [--x X] [--y Y] [--r DEGREES] [NAMING]\n\n" ++
    "Naming:\n  [--config FILE] [--prefix PREFIX] [--prefix-all] [--net PAD=NET]... " ++
    "[--designator NAME]\n"

def versionText : String :=
  "kicad2ergogen 0.1.0\n"

variable {m : Type → Type} [Monad m]

abbrev Stage (m : Type → Type) := ExceptT Failure m

def failInput {α : Type} (message : String) : Stage m α :=
  throw ⟨.input, message⟩

def readText (files : FileSystem m) (path : String) : Stage m String := do
  match ← files.read path with
  | .error error => failInput ("Could not read " ++ path ++ ": " ++ error.message)
  | .ok bytes =>
    match String.fromUTF8? bytes with
    | none => failInput ("Could not read " ++ path ++ ": " ++ FileError.notText.message)
    | some text => return text

/-- The settings of a file with the flags laid over them. -/
def Naming.over (naming : Naming) (config : Config) : Config where
  padPrefix := naming.padPrefix.getD config.padPrefix
  prefixNumberPadsOnly := config.prefixNumberPadsOnly && !naming.prefixAll
  netNameOverrides :=
    naming.nets.foldl (fun overrides pair => overrides.insert pair.1 pair.2)
      config.netNameOverrides
  designator := naming.designator.getD config.designator

/-- The settings under which a command runs. What is said of a text that is refused comes from the
reader of such texts, and may name the place of the fault in it. -/
def readConfig (explain : String → String) (files : FileSystem m) (naming : Naming) :
    Stage m Config := do
  match naming.config with
  | none => return naming.over {}
  | some path =>
    let text ← readText files path
    match Config.read? text with
    | some config => return naming.over config
    | none =>
      failInput ("Could not parse config " ++ path ++ ": invalid converter config: " ++ explain text)

def readFootprint (files : FileSystem m) (path : String) : Stage m Sexpr.Node := do
  match Sexpr.parse (← readText files path) with
  | .ok footprint => return footprint
  | .error error => failInput (path ++ ": " ++ error.message)

/-- Two paths lead to one file, or are spelt alike where one leads nowhere. -/
def isSameFile (files : FileSystem m) (first second : String) : m Bool := do
  match ← files.resolve first, ← files.resolve second with
  | some a, some b => return a == b
  | _, _ => return pathParts first == pathParts second

def netTable (pairs : List (String × String)) : String :=
  String.join (pairs.map fun pair => pair.1 ++ "\t" ++ pair.2 ++ "\n")

def checkOutput (files : FileSystem m) (input : String) : Option String → Stage m Unit
  | none => return ()
  | some output => do
    let same : Bool ← (isSameFile files output input : m Bool)
    if same then
      throw ⟨.usage, "refusing to overwrite the input footprint " ++ input⟩

/-- A conversion without a rule for a node is a fault of the program, every other one of the input. -/
def blameOf : ConvertError → Blame
  | .noRule _ _ => .processing
  | .parse _ | .notAFootprint _ | .misshapen _ => .input

def runConvert (explain : String → String) (files : FileSystem m) (input : String)
    (output : Option String) (netMap : Bool) (naming : Naming) : Stage m Outcome := do
  checkOutput files input output
  let config ← readConfig explain files naming
  let footprint ← readFootprint files input
  match convert config footprint with
  | .error error => throw ⟨blameOf error, error.message⟩
  | .ok conversion =>
    let table := if netMap then netTable conversion.netMap else ""
    match output with
    | none => return ⟨0, conversion.code, table⟩
    | some path =>
      match ← files.write path conversion.code with
      | .ok () => return ⟨0, "", table⟩
      | .error error =>
        throw ⟨.processing, "Could not write " ++ path ++ ": " ++ error.message⟩

/-- The pads with the nets that a fresh namer gives them one after the other. -/
def listPads (config : Config) (pads : List String) : List (String × String) :=
  go ⟨config, []⟩ pads
where
  go (namer : NetNamer) : List String → List (String × String)
    | [] => []
    | pad :: rest => (pad, (namer.name pad).1) :: go (namer.name pad).2 rest

def runPads (explain : String → String) (files : FileSystem m) (input : String) (naming : Naming) :
    Stage m Outcome := do
  let config ← readConfig explain files naming
  let footprint ← readFootprint files input
  match scanPads footprint with
  | .error error => failInput error.message
  | .ok pads => return ⟨0, netTable (listPads config pads), ""⟩

/-- Placing a module takes a script engine, which the command does not hold. -/
def runPreview : Stage m Outcome :=
  throw ⟨.usage,
    "preview is not available: kicad2ergogen was built without the js-preview feature"⟩

def runRequest (explain : String → String) (files : FileSystem m) : Request → Stage m Outcome
  | .version => return ⟨0, versionText, ""⟩
  | .help => return ⟨0, usageText, ""⟩
  | .convert input output netMap naming => runConvert explain files input output netMap naming
  | .pads input naming => runPads explain files input naming
  | .preview _ _ => runPreview

/-- Runs the command that the arguments ask for. -/
def run (explain : String → String) (files : FileSystem m) (arguments : List String) :
    m Outcome := do
  match readRequest false arguments with
  | .error .help => return ⟨0, usageText, ""⟩
  | .error .usage => return ⟨Blame.usage.code, "", usageText⟩
  | .ok request =>
    match ← (runRequest explain files request).run with
    | .ok outcome => return outcome
    | .error failure => return failure.outcome

end FootprintTemplate.CommandLine
