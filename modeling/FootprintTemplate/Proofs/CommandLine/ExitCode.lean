import FootprintTemplate.Proofs.CommandLine.Run
import FootprintTemplate.Proofs.CommandLine.Shape

/-! Exit codes. The first stage that fails decides the code, and its message is the one that is shown.
What the input holds never makes an output unwritable. -/
namespace FootprintTemplate.CommandLine

variable {explain : String → String}

section Faults

variable (explain : String → String) (tree : FileTree) (naming : Naming) (input : String)

/-- A file cannot be read, or its bytes are no text. -/
inductive NoText (path : String) : String → Prop where
  | unreadable {error : FileError} (read : tree.read path = .error error) :
      NoText path ("Could not read " ++ path ++ ": " ++ error.message)
  | binary {bytes : ByteArray} (read : tree.read path = .ok bytes)
      (noText : String.fromUTF8? bytes = none) :
      NoText path ("Could not read " ++ path ++ ": " ++ "stream did not contain valid UTF-8")

/-- A config file has no text, or one that is refused. -/
inductive ConfigFault : Option String → String → Prop where
  | unread {path message : String} (noText : NoText tree path message) :
      ConfigFault (some path) message
  | refused {path text : String} (holds : tree.text? path = some text)
      (refused : Config.read? text = none) :
      ConfigFault (some path) ("Could not parse config " ++ path ++
        ": invalid converter config: " ++ explain text)

/-- The first fault of what is read: the config, the input, its tree. -/
inductive InputFault : String → Prop where
  | config {message : String} (fault : ConfigFault explain tree naming.config message) : InputFault message
  | unread {config : Config} {message : String} (settings : naming.settings? tree = some config)
      (noText : NoText tree input message) : InputFault message
  | unparsed {config : Config} {text : String} {error : Sexpr.ParseError}
      (settings : naming.settings? tree = some config) (holds : tree.text? input = some text)
      (unparsed : Sexpr.parse text = .error error) : InputFault (input ++ ": " ++ error.message)

/-- The first fault of a conversion. -/
inductive ConvertFault : String → Prop where
  | input {message : String} (fault : InputFault explain tree naming input message) : ConvertFault message
  | refused {config : Config} {text : String} {footprint : Sexpr.Node} {error : ConvertError}
      (settings : naming.settings? tree = some config) (holds : tree.text? input = some text)
      (parsed : Sexpr.parse text = .ok footprint)
      (refused : convert config footprint = .error error) : ConvertFault error.message

/-- The first fault of a listing of pads. -/
inductive PadsFault : String → Prop where
  | input {message : String} (fault : InputFault explain tree naming input message) : PadsFault message
  | misshapen {config : Config} {text : String} {footprint : Sexpr.Node}
      {error : Writer.Misshapen} (settings : naming.settings? tree = some config)
      (holds : tree.text? input = some text) (parsed : Sexpr.parse text = .ok footprint)
      (misshapen : scanPads footprint = .error error) : PadsFault error.message

/-- The output is given, and leads to the input. -/
def Overwrites (output : Option String) : Prop :=
  ∃ path ∈ output, tree.isSame path input = true

/-- The output is given, and no text at all can be written to it. -/
def Unwritable (output : Option String) : Prop :=
  ∃ path ∈ output, ∃ error, ∀ text, tree.write path text = .error error

end Faults

section Results

variable {tree : FileTree} {naming : Naming} {input path message : String}

theorem bind_eq_error {α β : Type} {result : Except String α} {next : α → Except String β} :
    result.bind next = .error message ↔
      result = .error message ∨ ∃ a, result = .ok a ∧ next a = .error message := by
  cases result <;> simp [Except.bind]

theorem mapError_eq_error {α ε : Type} {result : Except ε α} {show_ : ε → String} :
    result.mapError show_ = .error message ↔
      ∃ error, result = .error error ∧ show_ error = message := by
  cases result <;> dsimp only [Except.mapError] <;> simp

theorem mapError_eq_ok {α ε : Type} {result : Except ε α} {show_ : ε → String} {a : α} :
    result.mapError show_ = .ok a ↔ result = .ok a := by
  cases result <;> dsimp only [Except.mapError] <;> simp

theorem textOf_eq_ok {text : String} : tree.textOf path = .ok text ↔ tree.text? path = some text := by
  rw [text?_eq]
  cases tree.textOf path <;> simp [Except.toOption]

theorem textOf_eq_error : tree.textOf path = .error message ↔ NoText tree path message := by
  constructor
  · intro failed
    unfold FileTree.textOf at failed
    split at failed
    · rename_i error read
      cases failed
      exact .unreadable read
    · rename_i bytes read
      split at failed
      · rename_i noText
        cases failed
        exact .binary read noText
      · cases failed
  · rintro (⟨read⟩ | ⟨read, noText⟩)
    · rw [FileTree.textOf, read]
    · rw [FileTree.textOf, read]
      dsimp only
      rw [noText]
      rfl

theorem configOf_eq_error :
    tree.configOf explain naming.config = .error message ↔
      ConfigFault explain tree naming.config message := by
  cases naming.config with
  | none => exact ⟨nofun, nofun⟩
  | some path =>
    rw [FileTree.configOf, bind_eq_error, textOf_eq_error]
    simp only [textOf_eq_ok, configIn]
    constructor
    · rintro (noText | ⟨text, holds, failed⟩)
      · exact .unread noText
      · cases read : Config.read? text with
        | some config => rw [read] at failed; cases failed
        | none =>
          rw [read] at failed
          cases failed
          exact .refused holds read
    · rintro (⟨noText⟩ | ⟨holds, refused⟩)
      · exact .inl noText
      · exact .inr ⟨_, holds, by rw [refused]⟩

theorem settings?_eq_some {config : Config} :
    naming.settings? tree = some config ↔
      ∃ base, tree.configOf explain naming.config = .ok base ∧ naming.over base = config := by
  rw [settings?_eq]
  cases tree.configOf explain naming.config <;> simp [Except.map, Except.toOption]

theorem footprintOf_eq_ok {footprint : Sexpr.Node} :
    tree.footprintOf input = .ok footprint ↔
      ∃ text, tree.text? input = some text ∧ Sexpr.parse text = .ok footprint := by
  rw [FileTree.footprintOf]
  cases own : tree.textOf input with
  | error other => simp [Except.bind, ← textOf_eq_ok, own]
  | ok text => simp [Except.bind, ← textOf_eq_ok, own, mapError_eq_ok]

/-- What is read for a command stops at the first fault. -/
theorem inputFault_iff :
    InputFault explain tree naming input message ↔
      tree.configOf explain naming.config = .error message ∨
        ∃ base, tree.configOf explain naming.config = .ok base ∧
          tree.footprintOf input = .error message := by
  rw [FileTree.footprintOf, bind_eq_error, textOf_eq_error, configOf_eq_error]
  simp only [textOf_eq_ok, mapError_eq_error]
  constructor
  · rintro (fault | ⟨settings, noText⟩ | ⟨settings, holds, unparsed⟩)
    · exact .inl fault
    · obtain ⟨base, own, -⟩ := settings?_eq_some.mp settings
      exact .inr ⟨base, own, .inl noText⟩
    · obtain ⟨base, own, -⟩ := settings?_eq_some.mp settings
      exact .inr ⟨base, own, .inr ⟨_, holds, _, unparsed, rfl⟩⟩
  · rintro (fault | ⟨base, own, noText | ⟨text, holds, error, unparsed, rfl⟩⟩)
    · exact .config fault
    · exact .unread (settings?_eq_some.mpr ⟨base, own, rfl⟩) noText
    · exact .unparsed (settings?_eq_some.mpr ⟨base, own, rfl⟩) holds unparsed

theorem conversionOf_eq_error :
    tree.conversionOf explain naming input = .error message ↔
      ConvertFault explain tree naming input message := by
  rw [FileTree.conversionOf, bind_eq_error]
  simp only [bind_eq_error, mapError_eq_error]
  constructor
  · rintro (fault | ⟨base, own, fault | ⟨footprint, parsed, error, refused, rfl⟩⟩)
    · exact .input (inputFault_iff.mpr (.inl fault))
    · exact .input (inputFault_iff.mpr (.inr ⟨base, own, fault⟩))
    · obtain ⟨text, holds, parsed⟩ := footprintOf_eq_ok.mp parsed
      exact .refused (settings?_eq_some.mpr ⟨base, own, rfl⟩) holds parsed refused
  · rintro (⟨fault⟩ | ⟨settings, holds, parsed, refused⟩)
    · obtain fault | ⟨base, own, fault⟩ := inputFault_iff.mp fault
      · exact .inl fault
      · exact .inr ⟨base, own, .inl fault⟩
    · obtain ⟨base, own, rfl⟩ := settings?_eq_some.mp settings
      exact .inr ⟨base, own, .inr ⟨_, footprintOf_eq_ok.mpr ⟨_, holds, parsed⟩, _, refused, rfl⟩⟩

theorem map_eq_error {α β : Type} {result : Except String α} {f : α → β} :
    result.map f = .error message ↔ result = .error message := by
  cases result <;> simp [Except.map]

theorem listingOf_eq_error :
    tree.listingOf explain naming input = .error message ↔ PadsFault explain tree naming input message := by
  rw [FileTree.listingOf, bind_eq_error]
  simp only [bind_eq_error, map_eq_error, mapError_eq_error]
  constructor
  · rintro (fault | ⟨base, own, fault | ⟨footprint, parsed, error, misshapen, rfl⟩⟩)
    · exact .input (inputFault_iff.mpr (.inl fault))
    · exact .input (inputFault_iff.mpr (.inr ⟨base, own, fault⟩))
    · obtain ⟨text, holds, parsed⟩ := footprintOf_eq_ok.mp parsed
      exact .misshapen (settings?_eq_some.mpr ⟨base, own, rfl⟩) holds parsed misshapen
  · rintro (⟨fault⟩ | ⟨settings, holds, parsed, misshapen⟩)
    · obtain fault | ⟨base, own, fault⟩ := inputFault_iff.mp fault
      · exact .inl fault
      · exact .inr ⟨base, own, .inl fault⟩
    · obtain ⟨base, own, rfl⟩ := settings?_eq_some.mp settings
      exact .inr ⟨base, own, .inr ⟨_, footprintOf_eq_ok.mpr ⟨_, holds, parsed⟩, _, misshapen, rfl⟩⟩

theorem overwrites_iff {output : Option String} :
    Overwrites tree input output ↔ output.any (tree.isSame · input) = true := by
  cases output <;> simp [Overwrites]

/-- Whether a write fails, the place decides and not the text. -/
theorem unwritable_iff {output : Option String} :
    Unwritable tree output ↔ ∃ path ∈ output, ∃ error, tree.outputPlace path = .error error := by
  simp only [Unwritable, FileTree.write_eq]
  refine exists_congr fun path => and_congr_right fun _ => exists_congr fun error => ?_
  cases tree.outputPlace path <;> simp [Except.map]

end Results

section Codes

/-- The exit code of a conversion, and the message of a fault. -/
structure ConvertExits (explain : String → String) (tree : FileTree) (naming : Naming) (input : String)
    (output : Option String) (outcome : Outcome) : Prop where
  usage : outcome.code = 1 ↔ Overwrites tree input output
  fault : outcome.code = 2 ↔
    ¬Overwrites tree input output ∧ ∃ message, ConvertFault explain tree naming input message
  message : ∀ message, ¬Overwrites tree input output → ConvertFault explain tree naming input message →
    outcome.stderr = "Error: " ++ message ++ "\n"
  unwritable : outcome.code = 3 ↔ ¬Overwrites tree input output ∧
    (∀ message, ¬ConvertFault explain tree naming input message) ∧ Unwritable tree output
  done : outcome.code = 0 ↔ ¬Overwrites tree input output ∧
    (∀ message, ¬ConvertFault explain tree naming input message) ∧ ¬Unwritable tree output

theorem convertExits (input : String) (output : Option String) (netMap : Bool) (naming : Naming)
    (tree : FileTree) :
    ConvertExits explain tree naming input output
      (settled ((runConvert explain FileTree.system input output netMap naming).run.run tree).1) := by
  rw [run_runConvert]
  by_cases same : Overwrites tree input output
  · rw [if_pos (overwrites_iff.mp same)]
    constructor <;> simp [same, settled, Failure.outcome, Blame.code]
  rw [if_neg fun any => same (overwrites_iff.mpr any)]
  cases made : tree.conversionOf explain naming input with
  | error own =>
    have fault := conversionOf_eq_error.mp made
    have any : ∃ message, ConvertFault explain tree naming input message := ⟨own, fault⟩
    have none : ¬∀ message, ¬ConvertFault explain tree naming input message := fun no => no own fault
    constructor
    case message =>
      intro message _ other
      cases made.symm.trans (conversionOf_eq_error.mpr other)
      rfl
    all_goals simp [same, any, none, settled, Failure.outcome, Blame.code]
  | ok conversion =>
    have none (message : String) : ¬ConvertFault explain tree naming input message := fun fault => by
      cases made.symm.trans (conversionOf_eq_error.mpr fault)
    have delivered : (∃ error, Unwritable tree output ∧
          (tree.delivered output netMap conversion).1 = .error ⟨.processing, error⟩) ∨
        ¬Unwritable tree output ∧
          ∃ outcome, (tree.delivered output netMap conversion).1 = .ok outcome ∧ outcome.code = 0 := by
      rw [unwritable_iff]
      cases output with
      | none => exact .inr ⟨nofun, _, rfl, rfl⟩
      | some path =>
        rw [FileTree.delivered, FileTree.write_eq]
        cases place : tree.outputPlace path with
        | error error => exact .inl ⟨_, ⟨path, rfl, error, place⟩, rfl⟩
        | ok place => exact .inr ⟨by simp [place], _, rfl, rfl⟩
    dsimp only
    obtain ⟨error, unwritable, failed⟩ | ⟨writable, outcome, given, zero⟩ := delivered
    · rw [failed]
      constructor <;> simp [same, none, unwritable, settled, Failure.outcome, Blame.code]
    · rw [given]
      constructor <;> simp [same, none, writable, settled, zero]

/-- The exit code of a listing of pads, and the message of a fault. -/
structure PadsExits (explain : String → String) (tree : FileTree)
    (naming : Naming) (input : String) (outcome : Outcome) : Prop where
  fault : outcome.code = 2 ↔ ∃ message, PadsFault explain tree naming input message
  message : ∀ message, PadsFault explain tree naming input message →
    outcome.stderr = "Error: " ++ message ++ "\n"
  done : outcome.code = 0 ↔ ∀ message, ¬PadsFault explain tree naming input message

theorem padsExits (input : String) (naming : Naming) (tree : FileTree) :
    PadsExits explain tree naming input
      (settled ((runPads explain FileTree.system input naming).run.run tree).1) := by
  rw [computes_runPads input naming tree]
  dsimp only
  cases made : tree.listingOf explain naming input with
  | error own =>
    have fault := listingOf_eq_error.mp made
    have any : ∃ message, PadsFault explain tree naming input message := ⟨own, fault⟩
    have none : ¬∀ message, ¬PadsFault explain tree naming input message := fun no => no own fault
    constructor
    case message =>
      intro message other
      cases made.symm.trans (listingOf_eq_error.mpr other)
      rfl
    all_goals
      dsimp only [Except.map, Except.mapError]
      simp [any, none, settled, Failure.outcome, Blame.code]
  | ok pairs =>
    have none (message : String) : ¬PadsFault explain tree naming input message := fun fault => by
      cases made.symm.trans (listingOf_eq_error.mpr fault)
    constructor <;> dsimp only [Except.map, Except.mapError] <;> simp [none, settled]

/-- What an accepted request exits with. -/
def Exits (explain : String → String) (tree : FileTree) (outcome : Outcome) : Request → Prop
  | .version | .help => outcome.code = 0
  | .convert input output _ naming => ConvertExits explain tree naming input output outcome
  | .pads input naming => PadsExits explain tree naming input outcome
  | .preview _ _ => outcome.code = 1

/-- The first stage that fails decides how a run exits. A conversion fails on its output alone if no
text can be written there, which new content of the input does not change. It never lacks a rule, so
what it cannot convert is a fault of the input. -/
theorem run_exits (explain : String → String) (arguments : List String) (tree : FileTree)
    (request : Request) (accepted : readRequest false arguments = .ok request) :
    Exits explain tree (runOn explain arguments tree).1 request ∧
      (∀ input output netMap naming, request = .convert input output netMap naming →
        ∀ place, tree.resolve input = some place → ∀ content,
          let other := tree.put place content
          (runOn explain arguments other).1.code = 3 ↔ ¬Overwrites tree input output ∧
            (∀ message, ¬ConvertFault explain other naming input message) ∧ Unwritable tree output) ∧
      (∀ parent kind, (Writer.Rule.first? parent kind).isSome = true) ∧
      ∀ config footprint error, convert config footprint = .error error →
        blameOf error = .input ∧ ∀ kind ancestors, error ≠ .noRule kind ancestors := by
  have exits (tree : FileTree) : Exits explain tree (runOn explain arguments tree).1 request := by
    rw [runOn, run_request arguments tree accepted]
    cases request with
    | version | help | preview => rfl
    | convert input output netMap naming => exact convertExits input output netMap naming tree
    | pads input naming => exact padsExits input naming tree
  refine ⟨exits tree, ?_, fun parent kind => by rw [Writer.Rule.first?_eq]; rfl, ?_⟩
  case refine_2 =>
    intro config footprint error refused
    have blamed := blameOf_convert refused
    refine ⟨blamed, ?_⟩
    rintro kind ancestors rfl
    cases blamed
  rintro input output netMap naming rfl place found content other
  have stands := tree.isSome_entry?_of_resolve found
  have shape : tree.SameShape other := tree.sameShape_put place stands content
  have overwrites : Overwrites other input output ↔ Overwrites tree input output := by
    simp only [Overwrites, shape.isSame]
  have unwritable : Unwritable other output ↔ Unwritable tree output := by
    simp only [unwritable_iff, shape.outputPlace]
  rw [← overwrites, ← unwritable]
  exact (exits other).unwritable

/-- An input that is no text. Neither a config nor a directory for an output is there. -/
def lostFiles : FileTree :=
  ⟨[(["a"], ⟨#[255]⟩)], [], []⟩

/-- What is said of a config that is no mapping. -/
def scalarRefusal (_ : String) : String :=
  "invalid type: string, expected struct ConverterConfig"

/-- Of three faults the missing config is the first, also where the input holds a footprint. -/
theorem run_exits_lostFiles :
    let arguments := ["convert", "a", "--config", "c", "-o", "d/x"]
    let mended := lostFiles.put ["a"] "(footprint a)".toUTF8
    readRequest false arguments = .ok (.convert "a" (some "d/x") false { config := some "c" }) ∧
      lostFiles.resolve "a" = some ["a"] ∧
      NoText lostFiles "a" "Could not read a: stream did not contain valid UTF-8" ∧
      Unwritable lostFiles (some "d/x") ∧
      (runOn scalarRefusal arguments lostFiles).1.code = 2 ∧
      (runOn scalarRefusal arguments lostFiles).1.stderr =
        "Error: Could not read c: No such file or directory (os error 2)\n" ∧
      (runOn scalarRefusal arguments mended).1.code ≠ 3 := by
  intro arguments mended
  have accepted : readRequest false arguments =
      .ok (.convert "a" (some "d/x") false { config := some "c" }) := by rfl
  have found : lostFiles.resolve "a" = some ["a"] := by decide
  have apart : ¬Overwrites lostFiles "a" (some "d/x") := by
    rw [overwrites_iff]
    decide
  have missing (tree : FileTree) (read : tree.read "c" = .error .notFound) :
      ConvertFault scalarRefusal tree { config := some "c" } "a"
        "Could not read c: No such file or directory (os error 2)" :=
    .input (.config (.unread (.unreadable read)))
  have own := missing lostFiles (by rfl)
  have other := missing mended (by rfl)
  obtain ⟨exits, swapped, -⟩ := run_exits scalarRefusal arguments lostFiles _ accepted
  refine ⟨accepted, found, .binary (show lostFiles.read "a" = .ok ⟨#[255]⟩ by rfl) (by decide), ?_,
    exits.fault.mpr ⟨apart, _, own⟩, exits.message _ apart own, fun three => ?_⟩
  · exact unwritable_iff.mpr ⟨_, rfl, .notFound, by rfl⟩
  · exact ((swapped "a" (some "d/x") false _ rfl ["a"] found _).mp three).2.1 _ other

end Codes

end FootprintTemplate.CommandLine
