import FootprintTemplate.Proofs.CommandLine.Given
import FootprintTemplate.Proofs.CommandLine.Run
import FootprintTemplate.Proofs.CommandLine.Shape
import FootprintTemplate.Proofs.Config.Entries

/-! Flags over a config file. A command runs under the settings of the file with the flags laid over
them. Neither the order of the flags nor that of the file's entries shows in what it does, as long as
net names for one pad keep their order. -/
namespace FootprintTemplate.CommandLine

variable {explain : String → String}

section Layers

/-- Settings with what is given laid over them. -/
def layered (given : List Given) (base : Config) : Config where
  padPrefix := (textsOf given .namePrefix).head?.getD base.padPrefix
  prefixNumberPadsOnly :=
    if (textsOf given .prefixAll).isEmpty then base.prefixNumberPadsOnly else false
  netNameOverrides := base.netNameOverrides.update (netsOf given)
  designator := (textsOf given .designator).head?.getD base.designator

theorem over_namingOf (given : List Given) (base : Config) :
    (namingOf given).over base = layered given base := by
  unfold Naming.over layered namingOf
  cases textsOf given .prefixAll <;> simp [Overrides.update]

variable (tree : FileTree) (given : List Given) (input : String)

/-- What the library makes of a file under the settings of another with flags laid over them. -/
def FileTree.converted (tree : FileTree) (explain : String → String) (given : List Given)
    (input : String) : Except String Conversion :=
  (tree.configOf explain (textsOf given .config).head?).bind fun base =>
    (tree.footprintOf input).bind fun footprint =>
      (convert (layered given base) footprint).mapError ConvertError.message

/-- The pads that the library finds in a file, with their nets under these settings. -/
def FileTree.listed (tree : FileTree) (explain : String → String) (given : List Given)
    (input : String) : Except String (List (String × String)) :=
  (tree.configOf explain (textsOf given .config).head?).bind fun base =>
    (tree.footprintOf input).bind fun footprint =>
      ((scanPads footprint).mapError Writer.Misshapen.message).map
        (listPads (layered given base))

/-- What a command does with what is given to it. -/
def FileTree.done (tree : FileTree) (explain : String → String) (given : List Given)
    (input : String) : Command → Outcome × FileTree
  | .convert =>
    let output := (textsOf given .output).head?
    if output.any (tree.isSame · input) then
      (Failure.outcome ⟨.usage, "refusing to overwrite the input footprint " ++ input⟩, tree)
    else match tree.converted explain given input with
      | .error message => (Failure.outcome ⟨.input, message⟩, tree)
      | .ok conversion =>
        let (result, after) :=
          tree.delivered output (!(textsOf given .netMap).isEmpty) conversion
        (settled result, after)
  | .pads =>
    match tree.listed explain given input with
    | .error message => (Failure.outcome ⟨.input, message⟩, tree)
    | .ok pairs => (⟨0, netTable pairs, ""⟩, tree)
  | .preview => (Failure.outcome ⟨.usage,
      "preview is not available: kicad2ergogen was built without the js-preview feature"⟩, tree)

theorem conversionOf_namingOf :
    tree.conversionOf explain (namingOf given) input = tree.converted explain given input := by
  simp only [FileTree.conversionOf, FileTree.converted, over_namingOf]
  rfl

theorem listingOf_namingOf :
    tree.listingOf explain (namingOf given) input = tree.listed explain given input := by
  simp only [FileTree.listingOf, FileTree.listed, over_namingOf]
  rfl

theorem run_request_collected (command : Command) :
    let ran := (runRequest explain FileTree.system (request command (collected given) input)).run.run tree
    (settled ran.1, ran.2) = tree.done explain given input command := by
  cases command with
  | convert =>
    dsimp only [request, runRequest, collected, FileTree.done]
    rw [run_runConvert, conversionOf_namingOf]
    split
    · rfl
    · have table : (textsOf given .netMap).head?.isSome = !(textsOf given .netMap).isEmpty := by
        cases textsOf given .netMap <;> rfl
      cases tree.converted explain given input with
      | error message => rfl
      | ok conversion => rw [table]
  | pads =>
    dsimp only [request, runRequest, collected, FileTree.done]
    rw [computes_runPads _ _ tree]
    dsimp only
    rw [listingOf_namingOf]
    cases tree.listed explain given input <;> rfl
  | preview => rfl

end Layers

section Orders

/-- Settings of two files that differ at most in the order of the overrides, or one fault of both. -/
inductive Matched : Except String Config → Except String Config → Prop where
  | fault (message : String) : Matched (.error message) (.error message)
  | settings {config other : Config} (alike : config.Alike other) : Matched (.ok config) (.ok other)

/-- The same is given, but for the order of net names for different pads and the verbose flag. -/
structure GivenAlike (given others : List Given) : Prop where
  texts : ∀ flag : Flag, flag.isRepeatable = false → flag ≠ .verbose →
    textsOf others flag = textsOf given flag
  nets : SamePairs (netsOf given) (netsOf others)

/-- A tree with one file written, if any. -/
def FileTree.holding (tree : FileTree) : Option (List String × ByteArray) → FileTree
  | none => tree
  | some (place, content) => tree.put place content

/-- Runs on two trees with the same outcome that write the same to the same place. -/
def SameEffect (tree other : FileTree) (ran again : Outcome × FileTree) : Prop :=
  again.1 = ran.1 ∧ ∃ written, ran.2 = tree.holding written ∧ again.2 = other.holding written

theorem SameEffect.eq {tree : FileTree} {ran again : Outcome × FileTree}
    (same : SameEffect tree tree ran again) : again = ran := by
  obtain ⟨outcome, written, one, another⟩ := same
  exact Prod.ext outcome (another.trans one.symm)

theorem sameEffect_rest (tree other : FileTree) (outcome : Outcome) :
    SameEffect tree other (outcome, tree) (outcome, other) :=
  ⟨rfl, none, rfl, rfl⟩

/-- Runs on two trees that exit alike and print the same, and write the same to the same place. What
they say of a fault can differ. -/
structure SameExit (tree other : FileTree) (ran again : Outcome × FileTree) : Prop where
  code : again.1.code = ran.1.code
  stdout : again.1.stdout = ran.1.stdout
  files : ∃ written, ran.2 = tree.holding written ∧ again.2 = other.holding written

theorem SameEffect.sameExit {tree other : FileTree} {ran again : Outcome × FileTree}
    (same : SameEffect tree other ran again) : SameExit tree other ran again :=
  ⟨congrArg Outcome.code same.1, congrArg Outcome.stdout same.1, same.2⟩

theorem sameExit_rest {tree other : FileTree} {outcome again : Outcome}
    (code : again.code = outcome.code) (stdout : again.stdout = outcome.stdout) :
    SameExit tree other (outcome, tree) (again, other) :=
  ⟨code, stdout, none, rfl, rfl⟩

theorem GivenAlike.layered {given others : List Given} (same : GivenAlike given others)
    {base other : Config} (alike : base.Alike other) :
    (layered given base).Alike (layered others other) where
  padPrefix := by
    simp only [CommandLine.layered, same.texts .namePrefix rfl (by decide), alike.padPrefix]
  prefixNumberPadsOnly := by
    simp only [CommandLine.layered, same.texts .prefixAll rfl (by decide), alike.prefixNumberPadsOnly]
  designator := by
    simp only [CommandLine.layered, same.texts .designator rfl (by decide), alike.designator]
  overrides := Overrides.lookup_congr alike.overrides same.nets
  once := alike.once.update _
  onceToo := alike.onceToo.update _

variable {tree other : FileTree} {given others : List Given} {input : String}

theorem delivered_alike (shape : tree.SameShape other) (output : Option String) (netMap : Bool)
    {conversion again : Conversion} (code : again.code = conversion.code)
    (nets : again.netMap = conversion.netMap) :
    (other.delivered output netMap again).1 = (tree.delivered output netMap conversion).1 ∧
      ∃ written, (tree.delivered output netMap conversion).2 = tree.holding written ∧
        (other.delivered output netMap again).2 = other.holding written := by
  unfold FileTree.delivered
  rw [code, nets]
  cases output with
  | none => exact ⟨rfl, none, rfl, rfl⟩
  | some path =>
    dsimp only
    rw [FileTree.write_eq, FileTree.write_eq, shape.outputPlace]
    cases tree.outputPlace path with
    | error error => exact ⟨rfl, none, rfl, rfl⟩
    | ok place => exact ⟨rfl, some (place, conversion.code.toUTF8), rfl, rfl⟩

/-- Alike settings and flags, over trees of one shape that hold the same input, make a command do the
same. -/
theorem done_alike (shape : tree.SameShape other)
    (sameInput : other.footprintOf input = tree.footprintOf input)
    (file : Matched (tree.configOf explain (textsOf given .config).head?)
      (other.configOf explain (textsOf given .config).head?))
    (same : GivenAlike given others) (command : Command) :
    SameEffect tree other
      (tree.done explain given input command) (other.done explain others input command) := by
  cases command with
  | convert =>
    dsimp only [FileTree.done]
    rw [same.texts .output rfl (by decide), same.texts .netMap rfl (by decide)]
    simp only [shape.isSame]
    split
    · exact sameEffect_rest ..
    unfold FileTree.converted
    rw [same.texts .config rfl (by decide), sameInput]
    generalize tree.configOf explain (textsOf given .config).head? = base,
      other.configOf explain (textsOf given .config).head? = again at file ⊢
    cases file with
    | fault message => exact sameEffect_rest ..
    | settings alike =>
    cases tree.footprintOf input with
    | error message => exact sameEffect_rest ..
    | ok footprint =>
    dsimp only [Except.bind]
    rw [(same.layered alike).convert]
    cases convert (layered given _) footprint with
    | error error => exact sameEffect_rest ..
    | ok conversion =>
      let again (config : Config) : Conversion :=
        { conversion with namer := { conversion.namer with config } }
      obtain ⟨result, after⟩ := delivered_alike shape (textsOf given .output).head?
        (!(textsOf given .netMap).isEmpty)
        (show (again _).code = conversion.code from rfl) (show (again _).netMap = _ from rfl)
      exact ⟨congrArg settled result, after⟩
  | pads =>
    dsimp only [FileTree.done, FileTree.listed]
    rw [same.texts .config rfl (by decide), sameInput]
    generalize tree.configOf explain (textsOf given .config).head? = base,
      other.configOf explain (textsOf given .config).head? = again at file ⊢
    cases file with
    | fault message => exact sameEffect_rest ..
    | settings alike =>
    cases tree.footprintOf input with
    | error message => exact sameEffect_rest ..
    | ok footprint =>
    dsimp only [Except.bind]
    cases scanPads footprint with
    | error error => exact sameEffect_rest ..
    | ok pads =>
      dsimp only [Except.mapError, Except.map]
      rw [(same.layered alike).listPads]
      exact sameEffect_rest ..
  | preview => exact sameEffect_rest ..

/-- Where neither tree holds a config file that is accepted, a command ends alike, but for what it
says of the file. -/
theorem done_refused (shape : tree.SameShape other) {message again : String}
    (one : tree.configOf explain (textsOf given .config).head? = .error message)
    (another : other.configOf explain (textsOf given .config).head? = .error again)
    (command : Command) :
    SameExit tree other (tree.done explain given input command)
      (other.done explain given input command) := by
  cases command with
  | convert =>
    dsimp only [FileTree.done]
    simp only [shape.isSame]
    split
    · exact sameExit_rest rfl rfl
    · unfold FileTree.converted
      rw [one, another]
      exact sameExit_rest rfl rfl
  | pads =>
    dsimp only [FileTree.done, FileTree.listed]
    rw [one, another]
    exact sameExit_rest rfl rfl
  | preview => exact sameExit_rest rfl rfl

theorem matched_self (tree : FileTree) (file : Option String) :
    Matched (tree.configOf explain file) (tree.configOf explain file) := by
  cases file with
  | none => exact .settings ⟨rfl, rfl, rfl, fun _ => rfl, Overrides.once_nil, Overrides.once_nil⟩
  | some path =>
    rw [FileTree.configOf]
    cases tree.textOf path with
    | error message => exact .fault message
    | ok text =>
      dsimp only [Except.bind, configIn]
      cases read : Config.read? text with
      | none => exact .fault _
      | some config => exact .settings (Config.alike_read read)

end Orders

end FootprintTemplate.CommandLine
