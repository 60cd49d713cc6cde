import FootprintTemplate.CommandLine.Run

/-! What the stages of a command come to on a tree of files. Stages before the write only read the
tree, and each either gives a value or stops the command with a message about its input. -/
namespace FootprintTemplate.CommandLine

section Inputs

/-- The text of the file that a path leads to. -/
def FileTree.text? (tree : FileTree) (path : String) : Option String :=
  (tree.read path).toOption.bind String.fromUTF8?

/-- The settings of the file that the flags name, with the flags laid over them. -/
def Naming.settings? (naming : Naming) (tree : FileTree) : Option Config :=
  match naming.config with
  | none => some (naming.over {})
  | some path => ((tree.text? path).bind Config.read?).map naming.over

/-- What the library makes of the text of a file under settings. -/
def conversion? (tree : FileTree) (naming : Naming) (input : String) : Option Conversion :=
  (naming.settings? tree).bind fun config =>
    (tree.text? input).bind fun text => (convertText config text).toOption

/-- Two paths lead to one place, or are spelt alike where one leads nowhere. -/
def FileTree.isSame (tree : FileTree) (first second : String) : Bool :=
  match tree.resolve first, tree.resolve second with
  | some a, some b => a == b
  | _, _ => pathParts first == pathParts second

def Request.input? : Request → Option String
  | version | help => none
  | convert input _ _ _ | pads input _ | preview input _ => some input

end Inputs

section Results

variable (tree : FileTree)

/-- The text of a file, or the message that there is none. -/
def FileTree.textOf (path : String) : Except String String :=
  match tree.read path with
  | .error error => .error ("Could not read " ++ path ++ ": " ++ error.message)
  | .ok bytes =>
    match String.fromUTF8? bytes with
    | none => .error ("Could not read " ++ path ++ ": " ++ FileError.notText.message)
    | some text => .ok text

/-- The settings of the text of a config file. -/
def configIn (explain : String → String) (path text : String) : Except String Config :=
  match Config.read? text with
  | some config => .ok config
  | none => .error ("Could not parse config " ++ path ++ ": invalid converter config: " ++
      explain text)

/-- The settings of a config file, or those that hold without one. -/
def FileTree.configOf (explain : String → String) : Option String → Except String Config
  | none => .ok {}
  | some path => (tree.textOf path).bind (configIn explain path)

def FileTree.footprintOf (path : String) : Except String Sexpr.Node :=
  (tree.textOf path).bind fun text =>
    (Sexpr.parse text).mapError fun error => path ++ ": " ++ error.message

/-- The conversion of a file under settings, or the message of the first stage that fails. -/
def FileTree.conversionOf (explain : String → String) (naming : Naming) (input : String) :
    Except String Conversion :=
  (tree.configOf explain naming.config).bind fun config =>
    (tree.footprintOf input).bind fun footprint =>
      (convert (naming.over config) footprint).mapError ConvertError.message

/-- The pads of a file with their nets under settings. -/
def FileTree.listingOf (explain : String → String) (naming : Naming) (input : String) :
    Except String (List (String × String)) :=
  (tree.configOf explain naming.config).bind fun config =>
    (tree.footprintOf input).bind fun footprint =>
      ((scanPads footprint).mapError Writer.Misshapen.message).map
        (listPads (naming.over config))

/-- What becomes of a conversion: it is printed, or written to the output. -/
def FileTree.delivered (output : Option String) (netMap : Bool) (conversion : Conversion) :
    Except Failure Outcome × FileTree :=
  let table := if netMap then netTable conversion.netMap else ""
  match output with
  | none => (.ok ⟨0, conversion.code, table⟩, tree)
  | some path =>
    match tree.write path conversion.code with
    | .ok after => (.ok ⟨0, "", table⟩, after)
    | .error error =>
      (.error ⟨.processing, "Could not write " ++ path ++ ": " ++ error.message⟩, tree)

end Results

section Stages

variable {α β : Type}

/-- A stage comes to this on every tree, and leaves the tree as it is. -/
def Computes (stage : Stage (StateM FileTree) α) (result : FileTree → Except String α) : Prop :=
  ∀ tree, stage.run.run tree = ((result tree).mapError (Failure.mk .input), tree)

theorem computes_pure (a : α) : Computes (pure a) fun _ => .ok a :=
  fun _ => rfl

theorem computes_fail (message : String) :
    Computes (α := α) (failInput message) fun _ => .error message :=
  fun _ => rfl

theorem run_bind (stage : Stage (StateM FileTree) α) (next : α → Stage (StateM FileTree) β)
    (tree : FileTree) :
    (stage >>= next).run.run tree =
      match stage.run.run tree with
      | (.ok a, after) => (next a).run.run after
      | (.error failure, after) => (.error failure, after) := by
  show (stage.run >>= ExceptT.bindCont next).run tree = _
  rw [StateT.run_bind]
  show (match stage.run.run tree with | (a, after) => (ExceptT.bindCont next a).run after) = _
  rcases stage.run.run tree with ⟨_ | _, _⟩ <;> rfl

theorem Computes.run_bind {stage : Stage (StateM FileTree) α}
    {result : FileTree → Except String α} (first : Computes stage result)
    (next : α → Stage (StateM FileTree) β) (tree : FileTree) :
    (stage >>= next).run.run tree =
      match result tree with
      | .ok a => (next a).run.run tree
      | .error message => (.error ⟨.input, message⟩, tree) := by
  rw [CommandLine.run_bind, first tree]
  cases result tree <;> rfl

theorem Computes.bind {stage : Stage (StateM FileTree) α} {next : α → Stage (StateM FileTree) β}
    {result : FileTree → Except String α} {after : α → FileTree → Except String β}
    (first : Computes stage result) (later : ∀ a, Computes (next a) (after a)) :
    Computes (stage >>= next) fun tree => (result tree).bind fun a => after a tree := by
  intro tree
  rw [first.run_bind]
  dsimp only
  cases result tree with
  | error message => rfl
  | ok a => exact later a tree

theorem computes_readText (path : String) :
    Computes (readText FileTree.system path) fun tree => tree.textOf path := by
  intro tree
  have ran : (readText FileTree.system path).run.run tree =
      (match tree.read path with
        | .error error => failInput ("Could not read " ++ path ++ ": " ++ error.message)
        | .ok bytes =>
          match String.fromUTF8? bytes with
          | none => failInput ("Could not read " ++ path ++ ": " ++ FileError.notText.message)
          | some text => pure text : Stage (StateM FileTree) String).run.run tree := rfl
  show _ = ((tree.textOf path).mapError (Failure.mk .input), tree)
  rw [ran, FileTree.textOf]
  cases tree.read path with
  | error error => rfl
  | ok bytes =>
    dsimp only
    cases String.fromUTF8? bytes <;> rfl

theorem computes_readConfig (explain : String → String) (naming : Naming) :
    Computes (readConfig explain FileTree.system naming) fun tree =>
      (tree.configOf explain naming.config).map naming.over := by
  unfold readConfig
  cases naming.config with
  | none => exact computes_pure _
  | some path =>
    have inside (text : String) : Computes
        (match Config.read? text with
          | some config => return naming.over config
          | none => failInput ("Could not parse config " ++ path ++
              ": invalid converter config: " ++ explain text))
        fun _ => (configIn explain path text).map naming.over := by
      unfold configIn
      cases Config.read? text with
      | none => exact computes_fail _
      | some config => exact computes_pure _
    intro tree
    refine ((computes_readText path).bind inside tree).trans ?_
    dsimp only [FileTree.configOf]
    cases tree.textOf path <;> rfl

theorem computes_readFootprint (path : String) :
    Computes (readFootprint FileTree.system path) fun tree => tree.footprintOf path := by
  refine (computes_readText path).bind fun text => ?_
  cases Sexpr.parse text with
  | error error => exact computes_fail _
  | ok footprint => exact computes_pure footprint

theorem run_isSameFile (first second : String) (tree : FileTree) :
    (isSameFile FileTree.system first second).run tree = (tree.isSame first second, tree) := by
  have ran : (isSameFile FileTree.system first second).run tree =
      (match tree.resolve first, tree.resolve second with
        | some a, some b => pure (a == b)
        | _, _ => pure (pathParts first == pathParts second) : StateM FileTree Bool).run tree := rfl
  rw [ran, FileTree.isSame]
  split <;> rfl

theorem run_checkOutput (input : String) (output : Option String) (tree : FileTree) :
    (checkOutput FileTree.system input output).run.run tree =
      (if output.any (tree.isSame · input) then
        .error ⟨.usage, "refusing to overwrite the input footprint " ++ input⟩ else .ok (), tree) := by
  cases output with
  | none => rfl
  | some path =>
    have ran : (checkOutput FileTree.system input (some path)).run.run tree =
        (if ((isSameFile FileTree.system path input).run tree).1 then
          throw ⟨.usage, "refusing to overwrite the input footprint " ++ input⟩
          else pure () : Stage (StateM FileTree) Unit).run.run
          ((isSameFile FileTree.system path input).run tree).2 := rfl
    rw [ran, run_isSameFile, Option.any_some]
    cases tree.isSame path input <;> rfl

theorem run_write (path text : String) (tree : FileTree) :
    (liftM (FileTree.system.write path text) :
        Stage (StateM FileTree) (Except FileError Unit)).run.run tree =
      match tree.write path text with
      | .error error => (.ok (.error error), tree)
      | .ok after => (.ok (.ok ()), after) := by
  have ran : (FileTree.system.write path text).run tree =
      match tree.write path text with
      | .error error => (.error error, tree)
      | .ok after => (.ok (), after) := by
    show ((match tree.write path text with
      | .error error => return .error error
      | .ok after => do set after; return .ok () :
      StateM FileTree (Except FileError Unit)).run tree) = _
    cases tree.write path text <;> rfl
  show (match (FileTree.system.write path text).run tree with
    | (written, after) => (Except.ok written, after)) = _
  rw [ran]
  cases tree.write path text <;> rfl

end Stages

section Commands

variable {explain : String → String}

/-- The conversion never lacks a rule. -/
theorem blameOf_convert {config : Config} {footprint : Sexpr.Node} {error : ConvertError}
    (refused : convert config footprint = .error error) : blameOf error = .input := by
  unfold convert at refused
  split at refused
  · dsimp only at refused
    split at refused
    · cases refused
      rfl
    · cases refused
  · cases refused
    rfl

/-- A conversion is refused if its output is its input. Otherwise its stages are run through, and
what they make is delivered. -/
theorem run_runConvert (input : String) (output : Option String) (netMap : Bool)
    (naming : Naming) (tree : FileTree) :
    (runConvert explain FileTree.system input output netMap naming).run.run tree =
      if output.any (tree.isSame · input) then
        (.error ⟨.usage, "refusing to overwrite the input footprint " ++ input⟩, tree)
      else
        match tree.conversionOf explain naming input with
        | .error message => (.error ⟨.input, message⟩, tree)
        | .ok conversion => tree.delivered output netMap conversion := by
  unfold runConvert
  rw [run_bind, run_checkOutput]
  cases output.any (tree.isSame · input) with
  | true => rfl
  | false =>
  show (readConfig explain FileTree.system naming >>= _).run.run tree = _
  rw [(computes_readConfig explain naming).run_bind, if_neg Bool.false_ne_true, FileTree.conversionOf]
  dsimp only
  cases tree.configOf explain naming.config with
  | error message => rfl
  | ok config =>
  show (readFootprint FileTree.system input >>= _).run.run tree = _
  rw [(computes_readFootprint input).run_bind]
  dsimp only [Except.bind]
  cases tree.footprintOf input with
  | error message => rfl
  | ok footprint =>
  dsimp only [Except.mapError]
  cases made : convert (naming.over config) footprint with
  | error error =>
    dsimp only
    rw [blameOf_convert made]
    rfl
  | ok conversion =>
  cases output with
  | none => rfl
  | some path =>
    dsimp only
    rw [run_bind, run_write, FileTree.delivered]
    cases tree.write path conversion.code <;> rfl

theorem computes_runPads (input : String) (naming : Naming) :
    Computes (runPads explain FileTree.system input naming) fun tree =>
      (tree.listingOf explain naming input).map fun pairs => ⟨0, netTable pairs, ""⟩ := by
  have listed : Computes (runPads explain FileTree.system input naming) fun tree =>
      ((tree.configOf explain naming.config).map naming.over).bind fun config =>
        (tree.footprintOf input).bind fun footprint =>
          ((scanPads footprint).mapError Writer.Misshapen.message).map fun pads =>
            ⟨0, netTable (listPads config pads), ""⟩ := by
    unfold runPads
    refine (computes_readConfig explain naming).bind fun config =>
      (computes_readFootprint input).bind fun footprint => ?_
    cases scanPads footprint with
    | error error => exact computes_fail _
    | ok pads => exact computes_pure _
  intro tree
  refine (listed tree).trans ?_
  dsimp only [FileTree.listingOf]
  cases tree.configOf explain naming.config with
  | error message => rfl
  | ok config =>
    dsimp only [Except.bind, Except.map]
    cases tree.footprintOf input with
    | error message => rfl
    | ok footprint => dsimp only; cases scanPads footprint <;> rfl

end Commands

end FootprintTemplate.CommandLine
