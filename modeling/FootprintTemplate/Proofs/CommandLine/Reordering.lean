import Mathlib
import FootprintTemplate.Proofs.CommandLine.Layers
import FootprintTemplate.Proofs.Sexpr.Grammar

/-! Runs whose flags, or the entries of whose config file, are put in another order. Net names for one
pad keep their order, since the last of them holds. All else may move, and the run does the same. -/
namespace FootprintTemplate.CommandLine

variable {explain : String → String}

section Shuffles

/-- The arguments are accepted, and give this to a command. -/
structure Accepts (arguments : List String) (command : Command) (given : List Given)
    (input : String) : Prop where
  gives : Gives arguments command given
  acceptable : Acceptable given
  input : inputsOf given = [input]

theorem Acceptable.head?_inputs {given : List Given} (acceptable : Acceptable given)
    {input : String} : (inputsOf given).head? = some input ↔ inputsOf given = [input] := by
  have one := acceptable.inputs
  match inputsOf given, one with
  | [], _ => simp
  | [_], _ => simp

theorem readRequest_accepts {arguments : List String} {asked : Request} (runs : asked ≠ .help)
    (knows : asked ≠ .version) :
    readRequest false arguments = .ok asked ↔ ∃ command given input,
      Accepts arguments command given input ∧
        request command (collected given) input = asked := by
  rw [readRequest_eq_ok runs knows]
  constructor
  · rintro ⟨command, given, gives, acceptable, input, first, asks⟩
    exact ⟨command, given, input, ⟨gives, acceptable, acceptable.head?_inputs.mp first⟩, asks⟩
  · rintro ⟨command, given, input, ⟨gives, acceptable, inputs⟩, asks⟩
    exact ⟨command, given, gives, acceptable, input, acceptable.head?_inputs.mpr inputs, asks⟩

theorem request_ne (command : Command) (arguments : Arguments) (input : String) :
    request command arguments input ≠ .help ∧ request command arguments input ≠ .version := by
  cases command <;> exact ⟨nofun, nofun⟩

theorem runOn_accepts {arguments : List String} {command : Command} {given : List Given}
    {input : String} (accepts : Accepts arguments command given input) (tree : FileTree) :
    runOn explain arguments tree = tree.done explain given input command := by
  obtain ⟨runs, knows⟩ := request_ne command (collected given) input
  have read := (readRequest_accepts runs knows).mpr ⟨command, given, input, accepts, rfl⟩
  exact (run_request arguments tree read).trans (run_request_collected tree given input command)

/-- Arguments with their flags moved. Net names for one pad keep their order, and the verbose flag can
also stand before the command. -/
inductive Shuffled (command : Command) : List String → List String → Prop where
  | within {lead : List String} {name : String} {blocks others : List (List String)}
      {tail : List String} (isLead : lead ∈ leads) (named : Command.ofName? name = some command)
      (movable : ∀ block ∈ blocks, Movable command.flags block) (perm : others.Perm blocks)
      (nets : SamePairs (netsOf (blocksGive command.flags blocks))
        (netsOf (blocksGive command.flags others))) :
      Shuffled command (lead ++ name :: (blocks.flatten ++ tail))
        (lead ++ name :: (others.flatten ++ tail))
  | behind {verbose name : String} {rest : List String} {given : List Given}
      (isLead : [verbose] ∈ leads) (named : Command.ofName? name = some command)
      (gives : given? command.flags none rest = some given) (new : textsOf given .verbose = []) :
      Shuffled command (verbose :: name :: rest) (name :: verbose :: rest)
  | before {verbose name : String} {rest : List String}
      (isLead : [verbose] ∈ leads) (named : Command.ofName? name = some command) :
      Shuffled command (name :: verbose :: rest) (verbose :: name :: rest)

/-- What the arguments behind the name of a command give. -/
theorem accepts_lead {lead : List String} (isLead : lead ∈ leads) {name : String}
    {command own : Command} (named : Command.ofName? name = some command) {rest : List String}
    {given : List Given} {input : String}
    (accepts : Accepts (lead ++ name :: rest) own given input) :
    ∃ given input, given? command.flags none rest = some given ∧ Acceptable given ∧
      inputsOf given = [input] := by
  obtain ⟨runs, knows⟩ := request_ne own (collected given) input
  have read := (readRequest_accepts runs knows).mpr ⟨own, given, input, accepts, rfl⟩
  rw [readRequest_lead isLead named] at read
  obtain ⟨given, gives, acceptable, input, first, -⟩ := (readCommand_eq_ok runs).mp read
  exact ⟨given, input, gives, acceptable, acceptable.head?_inputs.mp first⟩

theorem given?_verbose {verbose : String} (isLead : [verbose] ∈ leads) (command : Command)
    (rest : List String) :
    given? command.flags none (verbose :: rest) =
      (given? command.flags none rest).map (.flag .verbose "" :: ·) := by
  have single : verbose = "-v" ∨ verbose = "--verbose" := by simpa [leads] using isLead
  obtain ⟨goOn, gives⟩ : "--" ∉ [verbose] ∧
      given? command.flags none [verbose] = some [.flag .verbose ""] := by
    obtain rfl | rfl := single <;> cases command <;> decide
  exact given?_append gives goOn rest

theorem acceptable_verbose {given : List Given} :
    Acceptable (Given.flag .verbose "" :: given) ↔ Acceptable given ∧ textsOf given .verbose = [] := by
  have turned : (given ++ [Given.flag .verbose ""]).Perm (Given.flag .verbose "" :: given) :=
    List.perm_append_singleton _ _
  have whole := @acceptable_concat given (.flag .verbose "")
  constructor
  · intro acceptable
    obtain ⟨first, -, new, -⟩ := whole.mp (acceptable.perm turned)
    exact ⟨first, new .verbose "" rfl rfl⟩
  · rintro ⟨acceptable, new⟩
    refine (whole.mpr ⟨acceptable, rfl, ?_, nofun⟩).perm turned.symm
    rintro _ _ ⟨⟩ -
    exact new

theorem givenAlike_verbose (given : List Given) :
    GivenAlike given (Given.flag .verbose "" :: given) ∧
      GivenAlike (Given.flag .verbose "" :: given) given := by
  have texts (flag : Flag) (other : flag ≠ .verbose) :
      textsOf (Given.flag .verbose "" :: given) flag = textsOf given flag := by
    rw [textsOf, List.filterMap_cons_none]
    · rfl
    · exact if_neg (Ne.symm other)
  have nets : netsOf (Given.flag .verbose "" :: given) = netsOf given := by
    rw [netsOf, texts .net (by decide)]
    rfl
  exact ⟨⟨fun flag _ other => texts flag other, fun pad => by rw [nets]⟩,
    ⟨fun flag _ other => (texts flag other).symm, fun pad => by rw [nets]⟩⟩

theorem netsOf_append (given more : List Given) :
    netsOf (given ++ more) = netsOf given ++ netsOf more := by
  rw [netsOf, textsOf, List.filterMap_append, List.filterMap_append]
  rfl

/-- Moved flags are accepted again and give alike things to the command. -/
theorem Shuffled.accepts {command own : Command} {arguments others : List String}
    (shuffled : Shuffled command arguments others) {given : List Given} {input : String}
    (accepts : Accepts arguments own given input) :
    ∃ given more input, Accepts arguments command given input ∧
      Accepts others command more input ∧ GivenAlike given more := by
  cases shuffled with
  | @within lead name blocks others tail isLead named movable perm nets =>
    obtain ⟨given, input, gives, acceptable, inputs⟩ := accepts_lead isLead named accepts
    have whole := gives
    rw [given?_blocks movable] at whole
    obtain ⟨last, tailGives, rfl⟩ := Option.map_eq_some_iff.mp whole
    -- The tail stands still, so what is given moves as the blocks do.
    have moved : (blocksGive command.flags others ++ last).Perm
        (blocksGive command.flags blocks ++ last) := (perm.flatMap_right _).append_right last
    have givesToo : given? command.flags none (others.flatten ++ tail) =
        some (blocksGive command.flags others ++ last) := by
      rw [given?_blocks fun block member => movable block (perm.mem_iff.mp member), tailGives]
      rfl
    refine ⟨_, _, input, ⟨⟨lead, isLead, name, _, named, rfl, gives⟩, acceptable, inputs⟩,
      ⟨⟨lead, isLead, name, _, named, rfl, givesToo⟩, acceptable.perm moved,
        (acceptable.inputs_perm moved).trans inputs⟩, ?_, ?_⟩
    · exact fun flag once _ => acceptable.texts_perm moved once
    · rw [netsOf_append, netsOf_append]
      exact nets.append _
  | @behind verbose name rest given isLead named gives new =>
    obtain ⟨own, input, givesToo, acceptable, inputs⟩ :=
      accepts_lead isLead named (show Accepts ([verbose] ++ name :: rest) _ _ _ from accepts)
    cases gives.symm.trans givesToo
    refine ⟨_, _, input, ⟨⟨_, isLead, name, rest, named, rfl, gives⟩, acceptable, inputs⟩,
      ⟨⟨[], List.mem_cons_self, name, _, named, rfl, ?_⟩,
        acceptable_verbose.mpr ⟨acceptable, new⟩, inputs⟩, (givenAlike_verbose _).1⟩
    rw [given?_verbose isLead, gives]
    rfl
  | @before verbose name rest isLead named =>
    obtain ⟨own, input, gives, acceptable, inputs⟩ :=
      accepts_lead List.mem_cons_self named
        (show Accepts ([] ++ name :: verbose :: rest) _ _ _ from accepts)
    have whole := gives
    rw [given?_verbose isLead] at whole
    obtain ⟨more, givesToo, rfl⟩ := Option.map_eq_some_iff.mp whole
    exact ⟨_, _, input, ⟨⟨[], List.mem_cons_self, name, _, named, rfl, gives⟩, acceptable, inputs⟩,
      ⟨⟨_, isLead, name, rest, named, rfl, givesToo⟩, (acceptable_verbose.mp acceptable).1, inputs⟩,
      (givenAlike_verbose _).2⟩

end Shuffles

section Files

variable {tree : FileTree} {path input text again : String} {place : List String}
  {content : ByteArray}

/-- New content for the config file, which is not the input: its entries in another order, or a text
that is refused as the old one is. -/
structure Rewritten (tree : FileTree) (path input : String) (place : List String)
    (content : ByteArray) : Prop where
  found : tree.resolve path = some place
  apart : tree.resolve input ≠ some place
  reordered : ∃ text again, tree.textOf path = .ok text ∧
    String.fromUTF8? content = some again ∧ (Config.Reordered text again ∨
      Config.read? text = none ∧ Config.read? again = none)

theorem textOf_put (found : tree.resolve path = some place) (holds : tree.textOf path = .ok text)
    (bytes : String.fromUTF8? content = some again) :
    (tree.put place content).textOf path = .ok again := by
  obtain ⟨old, read⟩ : ∃ old, tree.read path = .ok old := by
    cases read : tree.read path with
    | error error => rw [FileTree.textOf, read] at holds; cases holds
    | ok old => exact ⟨old, rfl⟩
  obtain ⟨short, other, reached⟩ := (tree.read_eq_ok).mp read
  cases ((tree.resolve_eq_some).mpr ⟨_, reached⟩).symm.trans found
  obtain ⟨followed, there⟩ := (tree.reach_eq_ok).mp reached
  have free : tree.entry? place ≠ some .directory := by simp [there]
  have after : (tree.put place content).read path = .ok content :=
    (FileTree.read_eq_ok _).mpr ⟨short, place, (FileTree.reach_eq_ok _).mpr
      ⟨tree.follow_put place content followed, tree.entry?_put_self place content free⟩⟩
  rw [FileTree.textOf, after]
  dsimp only
  rw [bytes]

theorem read_put_of_apart (stands : (tree.entry? place).isSome = true)
    (apart : tree.resolve input ≠ some place) :
    (tree.put place content).read input = tree.read input := by
  have shape : tree.SameShape (tree.put place content) := tree.sameShape_put place stands content
  unfold FileTree.read FileTree.reach
  rw [shape.follow]
  split
  · rfl
  cases followed : tree.follow (pathNames input) with
  | error error => rfl
  | ok other =>
    have differs : other ≠ place := by
      rintro rfl
      obtain ⟨entry, there⟩ := Option.isSome_iff_exists.mp stands
      exact apart ((tree.resolve_eq_some).mpr ⟨entry, (tree.reach_eq_ok).mpr ⟨followed, there⟩⟩)
    dsimp only
    rw [tree.entry?_put_of_ne place content differs]

/-- The order of the entries does not show in what a command does, nor in what it writes. Only where
an entry is refused, what is said of it may. -/
theorem Rewritten.sameEffect (rewritten : Rewritten tree path input place content)
    {given : List Given} (file : (textsOf given .config).head? = some path) (command : Command) :
    SameExit tree (tree.put place content) (tree.done explain given input command)
        ((tree.put place content).done explain given input command) ∧
      ((tree.configOf explain (some path)).isOk = true →
        SameEffect tree (tree.put place content) (tree.done explain given input command)
          ((tree.put place content).done explain given input command)) := by
  obtain ⟨found, apart, text, again, holds, bytes, reordered⟩ := rewritten
  have stands := tree.isSome_entry?_of_resolve found
  have shape := tree.sameShape_put place stands content
  have holdsToo := textOf_put found holds bytes
  have footprint : (tree.put place content).footprintOf input = tree.footprintOf input := by
    rw [FileTree.footprintOf, FileTree.footprintOf, FileTree.textOf, FileTree.textOf,
      read_put_of_apart stands apart]
  have one : tree.configOf explain (some path) = configIn explain path text := by
    rw [FileTree.configOf, holds]
    rfl
  have another : (tree.put place content).configOf explain (some path) =
      configIn explain path again := by
    rw [FileTree.configOf, holdsToo]
    rfl
  obtain ⟨refused, refusedToo⟩ | ⟨config, same, read, readToo, alike⟩ :=
    reordered.elim Config.Reordered.read? .inl
  · rw [configIn, refused] at one
    rw [configIn, refusedToo] at another
    refine ⟨done_refused shape (file ▸ one) (file ▸ another) command, fun accepted => ?_⟩
    rw [one] at accepted
    cases accepted
  · rw [configIn, read] at one
    rw [configIn, readToo] at another
    have matched : Matched (tree.configOf explain (textsOf given .config).head?)
        ((tree.put place content).configOf explain (textsOf given .config).head?) := by
      rw [file, one, another]
      exact .settings alike
    have effect := done_alike shape footprint matched ⟨fun _ _ _ => rfl, fun _ => rfl⟩ command
    exact ⟨effect.sameExit, fun _ => effect⟩

end Files

section Runs

theorem Shuffled.run {command own : Command} {arguments others : List String} {given : List Given}
    {input : String} (shuffled : Shuffled command arguments others)
    (accepts : Accepts arguments own given input) (tree : FileTree) :
    (∃ own given input, Accepts others own given input) ∧
      runOn explain others tree = runOn explain arguments tree := by
  obtain ⟨given, more, input, accepts, acceptsToo, same⟩ := shuffled.accepts accepts
  refine ⟨⟨command, more, input, acceptsToo⟩, ?_⟩
  rw [runOn_accepts accepts, runOn_accepts acceptsToo]
  exact (done_alike ⟨rfl, fun _ => rfl⟩ rfl (matched_self tree _) same command).eq

theorem run_shuffled {command own : Command} {arguments others : List String} {given : List Given}
    {input : String} (shuffled : Relation.ReflTransGen (Shuffled command) arguments others)
    (accepts : Accepts arguments own given input) (tree : FileTree) :
    (∃ own given input, Accepts others own given input) ∧
      runOn explain others tree = runOn explain arguments tree := by
  induction shuffled with
  | refl => exact ⟨⟨own, given, input, accepts⟩, rfl⟩
  | tail _ step ih =>
    obtain ⟨⟨own, given, input, accepts⟩, ran⟩ := ih
    obtain ⟨acceptsToo, again⟩ := step.run accepts tree
    exact ⟨acceptsToo, again.trans ran⟩

/-- The flags of accepted arguments lie over the settings of the config file, with each net name split
at its first equals sign. The order of flags and of entries of the file does not show, but in what is
said of a file that is refused, and a conversion takes the overrides as a finite map. -/
theorem runOn_layered (explain : String → String) (arguments : List String) (asked : Request)
    (accepted : readRequest false arguments = .ok asked) (runs : asked ≠ .help)
    (knows : asked ≠ .version) (tree : FileTree) :
    (∃ command given input, Accepts arguments command given input ∧
      request command (collected given) input = asked ∧
      textsOf given .net = (netsOf given).map (fun pair => pair.1 ++ "=" ++ pair.2) ∧
      (∀ pair ∈ netsOf given, '=' ∉ pair.1.toList ∧ pair.2 ≠ "") ∧
      runOn explain arguments tree = tree.done explain given input command ∧
      ∀ path place content, (textsOf given .config).head? = some path →
        Rewritten tree path input place content →
        let ran := runOn explain arguments tree
        let again := runOn explain arguments (tree.put place content)
        SameExit tree (tree.put place content) ran again ∧
          ((tree.configOf explain (some path)).isOk = true →
            SameEffect tree (tree.put place content) ran again)) ∧
    (∀ command others, Relation.ReflTransGen (Shuffled command) arguments others →
      runOn explain others tree = runOn explain arguments tree) ∧
    ∀ base same : Config, base.Alike same →
      (∀ footprint, (convert same footprint).map (fun made => (made.code, made.netMap)) =
        (convert base footprint).map fun made => (made.code, made.netMap)) ∧
      ∀ pads, listPads same pads = listPads base pads := by
  obtain ⟨command, given, input, accepts, asks⟩ := (readRequest_accepts runs knows).mp accepted
  refine ⟨⟨command, given, input, accepts, asks, accepts.acceptable.nets.1,
    accepts.acceptable.nets.2, runOn_accepts accepts tree, ?_⟩, ?_, ?_⟩
  · intro path place content file rewritten
    dsimp only
    rw [runOn_accepts accepts, runOn_accepts accepts]
    exact rewritten.sameEffect file command
  · intro own others shuffled
    exact (run_shuffled shuffled accepts tree).2
  · intro base same alike
    refine ⟨fun footprint => ?_, alike.listPads⟩
    rw [alike.convert]
    cases convert base footprint <;> rfl

theorem runOn_pads {arguments : List String} {tree : FileTree} {input : String} {naming : Naming}
    {base : Config} {footprint : Sexpr.Node} {pads : List String}
    (asked : readRequest false arguments = .ok (.pads input naming))
    (config : tree.configOf explain naming.config = .ok base)
    (holds : tree.footprintOf input = .ok footprint) (scanned : scanPads footprint = .ok pads) :
    runOn explain arguments tree = (⟨0, netTable (listPads (naming.over base) pads), ""⟩, tree) := by
  rw [runOn, run_request arguments tree asked, runRequest, computes_runPads input naming tree]
  dsimp only
  rw [FileTree.listingOf, config, holds]
  dsimp only [Except.bind]
  rw [scanned]
  rfl

theorem fromUTF8?_toUTF8 (text : String) : String.fromUTF8? text.toUTF8 = some text := by
  unfold String.fromUTF8?
  split
  · rfl
  · rename_i invalid
    exact absurd text.isValidUTF8 (by simpa using invalid)

/-- A footprint of two pads, and a config file. -/
def padFiles (config : String) : FileTree :=
  ⟨[(["a.kicad_mod"], "(footprint a (pad 1) (pad 2))".toUTF8), (["c.yaml"], config.toUTF8)], [], []⟩

theorem textOf_padFiles (config : String) : (padFiles config).textOf "c.yaml" = .ok config := by
  have read : (padFiles config).read "c.yaml" = .ok config.toUTF8 := by rfl
  rw [FileTree.textOf, read]
  dsimp only
  rw [fromUTF8?_toUTF8]

theorem footprintOf_padFiles (config : String) :
    (padFiles config).footprintOf "a.kicad_mod" =
      .ok ⟨"footprint", [.atom "a", .node "pad" [.atom "1"], .node "pad" [.atom "2"]]⟩ := by
  have read : (padFiles config).read "a.kicad_mod" =
      .ok "(footprint a (pad 1) (pad 2))".toUTF8 := by rfl
  have parsed : Sexpr.parse "(footprint a (pad 1) (pad 2))" =
      .ok ⟨"footprint", [.atom "a", .node "pad" [.atom "1"], .node "pad" [.atom "2"]]⟩ :=
    Sexpr.parse_eq_ok.mpr ⟨by decide, by decide, by decide, by decide⟩
  rw [FileTree.footprintOf, FileTree.textOf, read]
  dsimp only
  rw [fromUTF8?_toUTF8]
  dsimp only [Except.bind]
  rw [parsed]
  rfl

theorem scanPads_padFiles : scanPads ⟨"footprint",
    [.atom "a", .node "pad" [.atom "1"], .node "pad" [.atom "2"]]⟩ = .ok ["1", "2"] := by decide

open Yaml.Token in
/-- A config of two overrides, taken apart into tokens. -/
def overrideTokens (first second : String × List Yaml.Token) : List Yaml.Token :=
  [blockMappingStart, key, scalar "net_name_overrides" .plain, value, blockMappingStart,
    key, scalar first.1 .doubleQuoted, value] ++ first.2 ++
    [key, scalar second.1 .doubleQuoted, value] ++ second.2 ++ [blockEnd, blockEnd]

/-- The tokens of the net of an override. -/
def netTokens (net : String) : List Yaml.Token :=
  [.scalar net .plain]

/-- The tokens of a mapping without members, which is no net. -/
def mappingTokens : List Yaml.Token :=
  [.flowMappingStart, .flowMappingEnd]

/-- The entry that these tokens are read as. -/
def entryOfTokens (entry : String × List Yaml.Token) : Option (String × String) :=
  match entry.2 with
  | [.scalar net .plain] => some (entry.1, net)
  | _ => none

theorem parts?_overrideTokens {text : String} (first second : String × List Yaml.Token)
    (tokens : Yaml.tokenize text = some (overrideTokens first second))
    (filled : Text.isBlankText text = false)
    (nets : ∀ entry ∈ [first, second], entry.2 = mappingTokens ∨ ∃ net, entry.2 = netTokens net) :
    Config.parts? text = some ⟨{}, [entryOfTokens first, entryOfTokens second]⟩ := by
  have one := nets first (by simp)
  have another := nets second (by simp)
  obtain ⟨pad, value⟩ := first
  obtain ⟨other, last⟩ := second
  unfold Config.parts? Yaml.readStream
  rw [filled, tokens]
  obtain rfl | ⟨net, rfl⟩ := one <;> obtain rfl | ⟨more, rfl⟩ := another <;> rfl

theorem configOf_padFiles {config : String} {first second : String × String}
    (parts : Config.parts? config = some ⟨{}, [some first, some second]⟩) :
    (padFiles config).configOf explain (some "c.yaml") =
      .ok { netNameOverrides := Overrides.ofPairs [first, second] } := by
  rw [FileTree.configOf, textOf_padFiles]
  dsimp only [Except.bind, configIn]
  rw [Config.read?_eq, parts]
  rfl

def padArguments : List String :=
  ["pads", "a.kicad_mod", "--config", "c.yaml", "--net", "1=A=B", "--net=3=C", "-v"]

def movedArguments : List String :=
  ["-v", "pads", "--net=3=C", "--net", "1=A=B", "--config", "c.yaml", "a.kicad_mod"]

theorem shuffled_padArguments :
    Relation.ReflTransGen (Shuffled .pads) padArguments movedArguments := by
  have within : Shuffled .pads padArguments ("pads" :: "-v" :: movedArguments.drop 2) :=
    @Shuffled.within .pads [] "pads"
      [["a.kicad_mod"], ["--config", "c.yaml"], ["--net", "1=A=B"], ["--net=3=C"], ["-v"]]
      [["-v"], ["--net=3=C"], ["--net", "1=A=B"], ["--config", "c.yaml"], ["a.kicad_mod"]]
      [] (by decide) rfl (by decide) (by decide) (samePairs_swap (by decide))
  exact (Relation.ReflTransGen.single within).tail (.before (by decide) rfl)

def firstTwo : String :=
  "net_name_overrides:\n  \"2\": B\n  \"1\": A\n"

def firstOne : String :=
  "net_name_overrides:\n  \"1\": A\n  \"2\": B\n"

theorem parts?_firstTwo : Config.parts? firstTwo = some ⟨{}, [some ("2", "B"), some ("1", "A")]⟩ :=
  parts?_overrideTokens ("2", netTokens "B") ("1", netTokens "A") (by decide +kernel)
    (by decide) (by simp [netTokens])

theorem parts?_firstOne : Config.parts? firstOne = some ⟨{}, [some ("1", "A"), some ("2", "B")]⟩ :=
  parts?_overrideTokens ("1", netTokens "A") ("2", netTokens "B") (by decide +kernel)
    (by decide) (by simp [netTokens])

/-- What is said of a mapping that stands for the net of the pad two, and where it stands. -/
def mappingRefusal (text : String) : String :=
  let before := text.toList.takeWhile (· != '\x7b')
  "net_name_overrides.2: invalid type: map, expected a string at line " ++
    toString (before.count '\n' + 1) ++ " column " ++
    toString ((before.reverse.takeWhile (· != '\n')).length + 1)

/-- Flags and entries for different pads are moved past each other. -/
theorem runOn_layered_movedNets :
    let rewritten := (padFiles firstTwo).put ["c.yaml"] firstOne.toUTF8
    readRequest false padArguments =
        .ok (.pads "a.kicad_mod" { config := some "c.yaml", nets := [("1", "A=B"), ("3", "C")] }) ∧
      Relation.ReflTransGen (Shuffled .pads) padArguments movedArguments ∧
      Rewritten (padFiles firstTwo) "c.yaml" "a.kicad_mod" ["c.yaml"] firstOne.toUTF8 ∧
      (runOn mappingRefusal padArguments (padFiles firstTwo)).1 = ⟨0, "1\tA=B\n2\tB\n", ""⟩ ∧
      runOn mappingRefusal movedArguments (padFiles firstTwo) =
        runOn mappingRefusal padArguments (padFiles firstTwo) ∧
      SameEffect (padFiles firstTwo) rewritten
        (runOn mappingRefusal padArguments (padFiles firstTwo))
        (runOn mappingRefusal padArguments rewritten) := by
  intro rewritten
  have asked : readRequest false padArguments =
      .ok (.pads "a.kicad_mod" { config := some "c.yaml", nets := [("1", "A=B"), ("3", "C")] }) := by
    rfl
  have rewrites : Rewritten (padFiles firstTwo) "c.yaml" "a.kicad_mod" ["c.yaml"]
      firstOne.toUTF8 :=
    ⟨by rfl, by decide, _, _, textOf_padFiles _, fromUTF8?_toUTF8 _, .inl ⟨_, _, parts?_firstTwo,
      parts?_firstOne, rfl, List.Perm.swap .., samePairs_swap (by decide)⟩⟩
  obtain ⟨⟨command, given, input, accepts, asks, -, -, -, entries⟩, moved, -⟩ :=
    runOn_layered mappingRefusal padArguments _ asked nofun nofun (padFiles firstTwo)
  obtain ⟨file, rfl⟩ : (textsOf given .config).head? = some "c.yaml" ∧ input = "a.kicad_mod" := by
    cases command with
    | convert | preview => cases asks
    | pads =>
      obtain ⟨rfl, naming⟩ := Request.pads.inj asks
      exact ⟨congrArg Naming.config naming, rfl⟩
  have config := @configOf_padFiles mappingRefusal _ _ _ parts?_firstTwo
  have ran := runOn_pads asked config (footprintOf_padFiles firstTwo) scanPads_padFiles
  refine ⟨asked, shuffled_padArguments, rewrites, ?_, moved _ _ shuffled_padArguments,
    (entries _ _ _ file rewrites).2 (by rw [config]; rfl)⟩
  rw [ran]
  decide

def lastA : String :=
  "net_name_overrides:\n  \"1\": B\n  \"1\": A\n"

def lastB : String :=
  "net_name_overrides:\n  \"1\": A\n  \"1\": B\n"

def mappingFirst : String :=
  "net_name_overrides:\n  \"2\": \x7b\x7d\n  \"1\": A\n"

def mappingLast : String :=
  "net_name_overrides:\n  \"1\": A\n  \"2\": \x7b\x7d\n"

theorem parts?_lastA : Config.parts? lastA = some ⟨{}, [some ("1", "B"), some ("1", "A")]⟩ :=
  parts?_overrideTokens ("1", netTokens "B") ("1", netTokens "A") (by decide +kernel)
    (by decide) (by simp [netTokens])

theorem parts?_lastB : Config.parts? lastB = some ⟨{}, [some ("1", "A"), some ("1", "B")]⟩ :=
  parts?_overrideTokens ("1", netTokens "A") ("1", netTokens "B") (by decide +kernel)
    (by decide) (by simp [netTokens])

theorem parts?_mappingFirst : Config.parts? mappingFirst = some ⟨{}, [none, some ("1", "A")]⟩ :=
  parts?_overrideTokens ("2", mappingTokens) ("1", netTokens "A") (by decide +kernel)
    (by decide) (by simp [netTokens])

theorem parts?_mappingLast : Config.parts? mappingLast = some ⟨{}, [some ("1", "A"), none]⟩ :=
  parts?_overrideTokens ("1", netTokens "A") ("2", mappingTokens) (by decide +kernel)
    (by decide) (by simp [netTokens])

theorem mappingRefusal_first : mappingRefusal mappingFirst =
    "net_name_overrides.2: invalid type: map, expected a string at line 2 column 8" := by decide +kernel

theorem mappingRefusal_last : mappingRefusal mappingLast =
    "net_name_overrides.2: invalid type: map, expected a string at line 3 column 8" := by decide +kernel

theorem runOn_refused {arguments : List String} {tree : FileTree} {input path text : String}
    (asked : readRequest false arguments = .ok (.pads input { config := some path }))
    (holds : tree.textOf path = .ok text) (refused : Config.read? text = none) :
    (runOn explain arguments tree).1.stderr = "Error: " ++ ("Could not parse config " ++ path ++
      ": invalid converter config: " ++ explain text) ++ "\n" := by
  rw [runOn, run_request arguments tree asked, runRequest, computes_runPads input _ tree]
  dsimp only
  rw [FileTree.listingOf, FileTree.configOf, holds]
  dsimp only [Except.bind, configIn]
  rw [refused]
  rfl

/-- The order of entries for one pad shows, since the last of them holds, and so does the place of an
entry that is refused. -/
theorem runOn_lastEntry :
    let arguments := ["pads", "a.kicad_mod", "--config", "c.yaml"]
    let refused := "Error: " ++ ("Could not parse config " ++ "c.yaml" ++
      ": invalid converter config: " ++
        "net_name_overrides.2: invalid type: map, expected a string at line 2 column 8") ++ "\n"
    let refusedLater := "Error: " ++ ("Could not parse config " ++ "c.yaml" ++
      ": invalid converter config: " ++
        "net_name_overrides.2: invalid type: map, expected a string at line 3 column 8") ++ "\n"
    (∃ parts others, Config.parts? lastA = some parts ∧ Config.parts? lastB = some others ∧
        others.settings = parts.settings ∧ others.entries.Perm parts.entries) ∧
      (runOn mappingRefusal arguments (padFiles lastA)).1 = ⟨0, "1\tA\n2\tP2\n", ""⟩ ∧
      (runOn mappingRefusal arguments (padFiles lastB)).1 = ⟨0, "1\tB\n2\tP2\n", ""⟩ ∧
      Config.Reordered mappingFirst mappingLast ∧
      (runOn mappingRefusal arguments (padFiles mappingFirst)).1.stderr = refused ∧
      (runOn mappingRefusal arguments (padFiles mappingLast)).1.stderr = refusedLater := by
  intro arguments refused refusedLater
  have asked : readRequest false arguments =
      .ok (.pads "a.kicad_mod" { config := some "c.yaml" }) := by rfl
  have unread {config : String} {entries : List (Option (String × String))}
      (parts : Config.parts? config = some ⟨{}, entries⟩) (bad : entries.all Option.isSome = false) :
      Config.read? config = none := by
    rw [Config.read?_eq, parts, Option.bind_some, Config.Parts.config?, bad]
    rfl
  refine ⟨⟨_, _, parts?_lastA, parts?_lastB, rfl, List.Perm.swap ..⟩, ?_, ?_,
    ⟨_, _, parts?_mappingFirst, parts?_mappingLast, rfl, List.Perm.swap .., fun _ => rfl⟩, ?_, ?_⟩
  · rw [runOn_pads asked (configOf_padFiles parts?_lastA) (footprintOf_padFiles lastA)
      scanPads_padFiles]
    decide
  · rw [runOn_pads asked (configOf_padFiles parts?_lastB) (footprintOf_padFiles lastB)
      scanPads_padFiles]
    decide
  · rw [runOn_refused asked (textOf_padFiles _) (unread parts?_mappingFirst rfl),
      mappingRefusal_first]
  · rw [runOn_refused asked (textOf_padFiles _) (unread parts?_mappingLast rfl),
      mappingRefusal_last]

end Runs

end FootprintTemplate.CommandLine
