import Mathlib.Data.List.Induction
import FootprintTemplate.CommandLine.Arguments

/-! What an argument list gives: flags with their texts, and inputs. Arguments are accepted, and what
they come to is settled, by what is given alone: which flags, with which texts, and the order only of
the net names. -/
namespace FootprintTemplate.CommandLine

/-- A flag with its text, which is empty if it takes none, or an input. -/
inductive Given where
  | flag (flag : Flag) (text : String)
  | input (path : String)
deriving DecidableEq, Repr

def Arguments.take (arguments : Arguments) : Given → Option Arguments
  | .flag flag text => arguments.give flag text
  | .input path => arguments.giveInput path

section Splitting

/-- What letters after a single dash give, and the flag that waits for its text. -/
def lettersGive? (flags : List Flag) : List Char → Option (List Given × Option Flag)
  | [] => some ([], none)
  | c :: rest =>
    match shortFlag? flags c with
    | none => none
    | some flag =>
      if !flag.takesValue then
        (lettersGive? flags rest).map fun (given, waiting) => (.flag flag "" :: given, waiting)
      else match rest with
        | [] => some ([], some flag)
        | '=' :: value | value => some ([.flag flag (String.ofList value)], none)

def flagGives? (flags : List Flag) : List Char → Option (List Given × Option Flag)
  | '-' :: '-' :: chars =>
    let (name, value) := splitEquals chars
    match longFlag? flags (String.ofList name), value with
    | none, _ => none
    | some flag, some value =>
      if flag.takesValue then some ([.flag flag (String.ofList value)], none) else none
    | some flag, none =>
      if flag.takesValue then some ([], some flag) else some ([.flag flag ""], none)
  | '-' :: chars => lettersGive? flags chars
  | _ => none

/-- What arguments give, if each can be told to be a flag, its text or an input. -/
def given? (flags : List Flag) (waiting : Option Flag) : List String → Option (List Given)
  | [] => if waiting.isSome then none else some []
  | argument :: rest =>
    match waiting with
    | some flag =>
      if isValueFor flag argument.toList then
        (given? flags none rest).map (.flag flag argument :: ·)
      else none
    | none =>
      if argument == "--" then some (rest.map .input)
      else if isFlagArgument argument.toList then
        (flagGives? flags argument.toList).bind fun gives =>
          (given? flags gives.2 rest).map (gives.1 ++ ·)
      else (given? flags none rest).map (.input argument :: ·)

variable {flags : List Flag}

theorem toOption_orUsage {α : Type} (a : Option α) : (orUsage a).toOption = a := by
  cases a <;> rfl

theorem foldlM_take_cons (arguments : Arguments) (one : Given) (rest : List Given) :
    (one :: rest).foldlM Arguments.take arguments =
      (arguments.take one).bind fun after => rest.foldlM Arguments.take after := by
  rw [List.foldlM_cons]
  rfl

theorem foldlM_take_single (arguments : Arguments) (one : Given) :
    [one].foldlM Arguments.take arguments = arguments.take one := by
  rw [foldlM_take_cons]
  exact Option.bind_fun_some _

theorem foldlM_take_append (arguments : Arguments) (given more : List Given) :
    (given ++ more).foldlM Arguments.take arguments =
      (given.foldlM Arguments.take arguments).bind fun after =>
        more.foldlM Arguments.take after := by
  rw [List.foldlM_append]
  rfl

/-- What comes first is taken first, and what follows only if that could be taken. -/
theorem bind_take_append (arguments : Arguments) (first : List Given) (rest : Option (List Given)) :
    (rest.map (first ++ ·)).bind (List.foldlM Arguments.take arguments) =
      (first.foldlM Arguments.take arguments).bind fun after =>
        rest.bind (List.foldlM Arguments.take after) := by
  cases rest with
  | none => cases first.foldlM Arguments.take arguments <;> rfl
  | some more => exact foldlM_take_append arguments first more

theorem bind_take_cons (arguments : Arguments) (one : Given) (rest : Option (List Given)) :
    (rest.map (one :: ·)).bind (List.foldlM Arguments.take arguments) =
      (arguments.take one).bind fun after => rest.bind (List.foldlM Arguments.take after) := by
  have appended := bind_take_append arguments [one] rest
  rw [foldlM_take_single] at appended
  exact appended

/-- What arguments come to that give this, if it can be taken. -/
def Arguments.takeAll (arguments : Arguments) (gives : List Given × Option Flag) :
    Option Waiting :=
  (gives.1.foldlM Arguments.take arguments).map (·, gives.2)

theorem bind_takeAll_cons (arguments : Arguments) (one : Given)
    (rest : Option (List Given × Option Flag)) :
    (rest.map fun (given, waiting) => (one :: given, waiting)).bind arguments.takeAll =
      (arguments.take one).bind fun after => rest.bind after.takeAll := by
  cases rest with
  | none => cases arguments.take one <;> rfl
  | some gives =>
    show ((one :: gives.1).foldlM Arguments.take arguments).map _ = _
    rw [foldlM_take_cons]
    exact Option.map_bind

theorem takeAll_single (arguments : Arguments) (one : Given) :
    arguments.takeAll ([one], none) = (arguments.take one).map (·, none) := by
  rw [Arguments.takeAll, foldlM_take_single]

/-- Letters are taken one after the other. -/
theorem readCluster_eq (arguments : Arguments) (chars : List Char) :
    (readCluster flags arguments chars).toOption =
      (lettersGive? flags chars).bind arguments.takeAll := by
  fun_induction readCluster flags arguments chars with
  | case1 => rfl
  | case2 arguments c rest unknown => simp [lettersGive?, unknown, Except.toOption]
  | case3 arguments c rest flag known plain after given ih =>
    rw [ih, lettersGive?, known]
    dsimp only
    rw [if_pos plain, bind_takeAll_cons, Arguments.take, given]
    rfl
  | case4 arguments c rest flag known plain refused =>
    rw [lettersGive?, known]
    dsimp only
    rw [if_pos plain, bind_takeAll_cons, Arguments.take, refused]
    rfl
  | case5 arguments c flag known takes =>
    simp [lettersGive?, known, takes, Except.toOption, Arguments.takeAll]
  | case6 arguments c flag known takes value =>
    simp [lettersGive?, known, takes, toOption_orUsage, takeAll_single, Arguments.take]
  | case7 arguments c flag known takes value some plain =>
    simp [lettersGive?, known, takes, toOption_orUsage, takeAll_single, Arguments.take]

theorem readFlag_eq (arguments : Arguments) (chars : List Char) :
    (readFlag flags arguments chars).toOption =
      (flagGives? flags chars).bind arguments.takeAll := by
  unfold readFlag
  split
  · rename_i long
    simp only [flagGives?]
    cases longFlag? flags (String.ofList (splitEquals long).1) with
    | none => rfl
    | some flag =>
      cases (splitEquals long).2 <;> dsimp only <;> split
      · rfl
      · rw [toOption_orUsage, Option.bind_some, takeAll_single, Arguments.take]
      · rw [toOption_orUsage, Option.bind_some, takeAll_single, Arguments.take]
      · rfl
  · rename_i short letters
    rw [flagGives?]
    · exact readCluster_eq arguments _
    · rintro long rfl
      exact letters long rfl
  · rename_i long short
    rw [flagGives?]
    · rfl
    · exact long
    · exact short

/-- Arguments are taken in the order in which they are given. -/
theorem readArguments_eq (waiting : Option Flag) (before : Arguments) (arguments : List String) :
    (readArguments flags waiting before arguments).toOption =
      (given? flags waiting arguments).bind (List.foldlM Arguments.take before) := by
  fun_induction readArguments flags waiting before arguments with
  | case1 waiting before waits => rw [given?, if_pos waits]; rfl
  | case2 waiting before done => rw [given?, if_neg done]; rfl
  | case3 before argument rest flag isValue after given ih =>
    rw [ih, given?, if_pos isValue, bind_take_cons, Arguments.take, given]
    rfl
  | case4 before argument rest flag isValue refused =>
    rw [given?, if_pos isValue, bind_take_cons, Arguments.take, refused]
    rfl
  | case5 before argument rest flag noValue => rw [given?, if_neg noValue]; rfl
  | case6 before argument rest dashes =>
    rw [given?, if_pos dashes, toOption_orUsage, Option.bind_some, List.foldlM_map]
    rfl
  | case7 before argument rest name isFlag refusal refused =>
    have own := @readFlag_eq flags before argument.toList
    rw [refused] at own
    rw [given?, if_neg name, if_pos isFlag, Option.bind_assoc]
    refine (Option.bind_eq_none_iff.mpr fun gives first => ?_).symm
    rw [first, Option.bind_some] at own
    rw [bind_take_append, Option.map_eq_none_iff.mp own.symm]
    rfl
  | case8 before argument rest name isFlag after waiting read ih =>
    have own := @readFlag_eq flags before argument.toList
    rw [read] at own
    obtain ⟨gives, first, taken⟩ := Option.bind_eq_some_iff.mp own.symm
    obtain ⟨_, settled, same⟩ := Option.map_eq_some_iff.mp taken
    cases same
    rw [ih, given?, if_neg name, if_pos isFlag, first, Option.bind_some, bind_take_append, settled]
    rfl
  | case9 before argument rest name isInput after given ih =>
    rw [ih, given?, if_neg name, if_neg isInput, bind_take_cons, Arguments.take, given]
    rfl
  | case10 before argument rest name isInput refused =>
    rw [given?, if_neg name, if_neg isInput, bind_take_cons, Arguments.take, refused]
    rfl

/-- Arguments before others do not change what those give, unless two dashes end the flags. -/
theorem given?_append {block : List String} {waiting : Option Flag} {given : List Given}
    (gives : given? flags waiting block = some given) (flagsGoOn : "--" ∉ block)
    (rest : List String) :
    given? flags waiting (block ++ rest) = (given? flags none rest).map (given ++ ·) := by
  induction block generalizing waiting given with
  | nil =>
    unfold given? at gives
    split at gives <;> cases gives
    rename_i settled
    rw [Option.not_isSome_iff_eq_none.mp settled]
    exact Option.map_id'.symm
  | cons argument block ih =>
    have name : (argument == "--") = false :=
      beq_false_of_ne fun same => flagsGoOn (same ▸ List.mem_cons_self)
    have goOn : "--" ∉ block := fun member => flagsGoOn (List.mem_cons_of_mem _ member)
    rw [List.cons_append]
    cases waiting with
    | some flag =>
      rw [given?] at gives ⊢
      split at gives
      case isFalse => cases gives
      obtain ⟨more, later, rfl⟩ := Option.map_eq_some_iff.mp gives
      rw [if_pos ‹_›, ih later goOn, Option.map_map]
      rfl
    | none =>
      rw [given?, name, if_neg Bool.false_ne_true] at gives ⊢
      split at gives
      · obtain ⟨first, read, gives⟩ := Option.bind_eq_some_iff.mp gives
        obtain ⟨more, later, rfl⟩ := Option.map_eq_some_iff.mp gives
        rw [if_pos ‹_›, read, Option.bind_some, ih later goOn, Option.map_map]
        exact congrArg (Option.map · _) (funext fun _ => (List.append_assoc ..).symm)
      · obtain ⟨more, later, rfl⟩ := Option.map_eq_some_iff.mp gives
        rw [if_neg ‹_›, ih later goOn, Option.map_map]
        rfl

/-- Arguments that can stand anywhere before two dashes: flags with their texts, and inputs. -/
def Movable (flags : List Flag) (block : List String) : Prop :=
  "--" ∉ block ∧ (given? flags none block).isSome = true

instance (flags : List Flag) (block : List String) : Decidable (Movable flags block) :=
  inferInstanceAs (Decidable (_ ∧ _))

/-- What blocks of arguments give, one after the other. -/
def blocksGive (flags : List Flag) (blocks : List (List String)) : List Given :=
  blocks.flatMap fun block => (given? flags none block).getD []

theorem given?_blocks {blocks : List (List String)} (movable : ∀ block ∈ blocks, Movable flags block)
    (rest : List String) :
    given? flags none (blocks.flatten ++ rest) =
      (given? flags none rest).map (blocksGive flags blocks ++ ·) := by
  induction blocks with
  | nil => exact Option.map_id'.symm
  | cons block blocks ih =>
    obtain ⟨goOn, some⟩ := movable block List.mem_cons_self
    obtain ⟨given, gives⟩ := Option.isSome_iff_exists.mp some
    rw [List.flatten_cons, List.append_assoc, given?_append gives goOn,
      ih fun block member => movable block (List.mem_cons_of_mem _ member), Option.map_map]
    have first : blocksGive flags (block :: blocks) = given ++ blocksGive flags blocks := by
      rw [blocksGive, List.flatMap_cons, gives, Option.getD_some]
      rfl
    rw [first]
    exact congrArg (Option.map · _) (funext fun _ => (List.append_assoc ..).symm)

end Splitting

section Collected

/-- The text that is given with a flag. -/
def Given.text? (flag : Flag) : Given → Option String
  | .flag other text => if other = flag then some text else none
  | .input _ => none

def Given.flag? : Given → Option Flag
  | .flag own _ => some own
  | .input _ => none

def Given.input? : Given → Option String
  | .flag _ _ => none
  | .input path => some path

variable (given : List Given)

/-- The texts given with a flag, in their order. -/
def textsOf (flag : Flag) : List String :=
  given.filterMap (Given.text? flag)

def inputsOf : List String :=
  given.filterMap Given.input?

/-- The pads with the nets that are given for them. -/
def netsOf : List (String × String) :=
  (textsOf given .net).filterMap readOverride?

/-- The text is one that can stand with its flag, and an input is a path. -/
def Given.isReadable : Given → Bool
  | .input path => (readPath? path).isSome
  | .flag .output text | .flag .config text => (readPath? text).isSome
  | .flag .net text => (readOverride? text).isSome
  | .flag .x text | .flag .y text | .flag .r text => (Number.readDouble? text).isSome
  | .flag _ _ => true

/-- What is given can be taken: only net names stand more than once. -/
structure Acceptable : Prop where
  readable : ∀ one ∈ given, one.isReadable = true
  flags : ∀ flag : Flag, flag.isRepeatable = false → (textsOf given flag).length ≤ 1
  inputs : (inputsOf given).length ≤ 1

def namingOf : Naming where
  config := (textsOf given .config).head?
  padPrefix := (textsOf given .namePrefix).head?
  prefixAll := (textsOf given .prefixAll).head?.isSome
  nets := netsOf given
  designator := (textsOf given .designator).head?

/-- The arguments in which everything given has its place. -/
def collected : Arguments where
  input := (inputsOf given).head?
  output := (textsOf given .output).head?
  netMap := (textsOf given .netMap).head?.isSome
  naming := namingOf given
  given := (given.filterMap Given.flag?).reverse

variable {given}

@[simp]
theorem textsOf_concat (flag : Flag) (one : Given) :
    textsOf (given ++ [one]) flag = textsOf given flag ++ (one.text? flag).toList := by
  rw [textsOf, List.filterMap_append]
  cases own : one.text? flag <;> simp [textsOf, own]

@[simp]
theorem inputsOf_concat (one : Given) :
    inputsOf (given ++ [one]) = inputsOf given ++ one.input?.toList := by
  rw [inputsOf, List.filterMap_append]
  cases own : one.input? <;> simp [inputsOf, own]

theorem mem_collected {flag : Flag} :
    flag ∈ (collected given).given ↔ textsOf given flag ≠ [] := by
  simp only [collected, List.mem_reverse, List.mem_filterMap, textsOf, ne_eq,
    List.filterMap_eq_nil_iff, not_forall]
  refine exists_congr fun one => ?_
  cases one <;> simp [Given.flag?, Given.text?]

/-- A flag that may stand here is taken if its text can stand with it. -/
theorem give_collected {flag : Flag} (text : String)
    (new : flag.isRepeatable = false → textsOf given flag = []) :
    (collected given).give flag text =
      if (Given.flag flag text).isReadable then some (collected (given ++ [Given.flag flag text]))
      else none := by
  have fresh : ¬((collected given).given.contains flag && !flag.isRepeatable) = true := by
    rw [Bool.and_eq_true, List.contains_iff_mem, mem_collected, Bool.not_eq_true']
    exact fun ⟨given, once⟩ => given (new once)
  rw [Arguments.give, if_neg fresh]
  cases flag
  case verbose | side =>
    simp [collected, namingOf, netsOf, Given.text?, Given.flag?, Given.input?, Given.isReadable]
  case net =>
    cases read : readOverride? text <;>
      simp [collected, namingOf, netsOf, Given.text?, Given.flag?, Given.input?, Given.isReadable,
        read]
  case x | y | r =>
    cases read : Number.readDouble? text <;>
      simp [collected, namingOf, netsOf, Given.text?, Given.flag?, Given.input?, Given.isReadable,
        read]
  case output | config =>
    by_cases empty : text = "" <;>
      simp [collected, namingOf, netsOf, Given.text?, Given.flag?, Given.input?, Given.isReadable,
        readPath?, empty, new rfl]
  case netMap | namePrefix | prefixAll | designator =>
    simp [collected, namingOf, netsOf, Given.text?, Given.flag?, Given.input?, Given.isReadable,
      new rfl]

theorem giveInput_collected (path : String) (new : inputsOf given = []) :
    (collected given).giveInput path =
      if (Given.input path).isReadable then some (collected (given ++ [Given.input path]))
      else none := by
  have fresh : ¬(collected given).input.isSome = true := by simp [collected, new]
  rw [Arguments.giveInput, if_neg fresh]
  by_cases empty : path = "" <;>
    simp [collected, namingOf, netsOf, Given.text?, Given.flag?, Given.input?, Given.isReadable,
      readPath?, empty, new]

theorem acceptable_nil : Acceptable [] :=
  ⟨nofun, fun _ _ => Nat.zero_le 1, Nat.zero_le 1⟩

theorem Given.text?_eq_some {flag : Flag} {one : Given} {text : String} :
    one.text? flag = some text ↔ one = .flag flag text := by
  cases one <;> simp [Given.text?]

theorem Given.input?_eq_some {one : Given} {path : String} :
    one.input? = some path ↔ one = .input path := by
  cases one <;> simp [Given.input?]

/-- More can be given as long as it can be read and does not stand twice. -/
theorem acceptable_concat {one : Given} :
    Acceptable (given ++ [one]) ↔ Acceptable given ∧ one.isReadable = true ∧
      (∀ flag text, one = .flag flag text → flag.isRepeatable = false → textsOf given flag = []) ∧
      ∀ path, one = .input path → inputsOf given = [] := by
  constructor
  · rintro ⟨readable, flags, inputs⟩
    refine ⟨⟨fun other member => readable other (List.mem_append_left _ member),
      fun flag once => ?_, ?_⟩, readable one (by simp), ?_, ?_⟩
    · have bound := flags flag once
      rw [textsOf_concat, List.length_append] at bound
      omega
    · rw [inputsOf_concat, List.length_append] at inputs
      omega
    · rintro flag text rfl once
      have bound := flags flag once
      rw [textsOf_concat, Given.text?_eq_some.mpr rfl, List.length_append] at bound
      exact List.length_eq_zero_iff.mp (by simpa using bound)
    · rintro path rfl
      rw [inputsOf_concat, Given.input?_eq_some.mpr rfl, List.length_append] at inputs
      exact List.length_eq_zero_iff.mp (by simpa using inputs)
  · rintro ⟨acceptable, readable, flags, inputs⟩
    refine ⟨fun other member => ?_, fun flag once => ?_, ?_⟩
    · rcases List.mem_append.mp member with member | member
      · exact acceptable.readable other member
      · exact List.mem_singleton.mp member ▸ readable
    · rw [textsOf_concat]
      cases own : one.text? flag with
      | none => simpa using acceptable.flags flag once
      | some text => simp [flags flag text (Given.text?_eq_some.mp own) once]
    · rw [inputsOf_concat]
      cases own : one.input? with
      | none => simpa using acceptable.inputs
      | some path => simp [inputs path (Given.input?_eq_some.mp own)]

theorem take_collected (acceptable : Acceptable given) (one : Given) (after : Arguments) :
    (collected given).take one = some after ↔
      Acceptable (given ++ [one]) ∧ collected (given ++ [one]) = after := by
  rw [acceptable_concat]
  cases one with
  | flag flag text =>
    by_cases new : flag.isRepeatable = false → textsOf given flag = []
    · rw [Arguments.take, give_collected text new]
      simp only [acceptable, Option.ite_none_right_eq_some, Option.some.injEq, Given.flag.injEq,
        true_and, reduceCtorEq, false_implies, implies_true, and_true, and_imp]
      exact ⟨fun ⟨readable, same⟩ => ⟨⟨readable, by rintro _ _ rfl _; exact new⟩, same⟩,
        fun ⟨⟨readable, _⟩, same⟩ => ⟨readable, same⟩⟩
    · have twice : ((collected given).given.contains flag && !flag.isRepeatable) = true := by
        rw [Bool.and_eq_true, List.contains_iff_mem, mem_collected, Bool.not_eq_true']
        exact (Classical.not_imp.mp new).symm
      rw [Arguments.take, Arguments.give, if_pos twice]
      simp [new]
  | input path =>
    by_cases new : inputsOf given = []
    · rw [Arguments.take, giveInput_collected path new]
      simp [acceptable, new]
    · have twice : (collected given).input.isSome = true := by
        simpa [collected] using new
      rw [Arguments.take, Arguments.giveInput, if_pos twice]
      simp [new]

/-- What is given can be taken if nothing but net names stands twice, and then has its place. -/
theorem foldlM_take_eq_some (after : Arguments) :
    given.foldlM Arguments.take {} = some after ↔ Acceptable given ∧ collected given = after := by
  -- From the end: whether the last one may stand is decided by those before it.
  induction given using List.reverseRecOn generalizing after with
  | nil => simp [acceptable_nil, collected, namingOf, netsOf, textsOf, inputsOf]
  | append_singleton before one ih =>
    rw [foldlM_take_append, Option.bind_eq_some_iff]
    simp only [ih, foldlM_take_single]
    constructor
    · rintro ⟨_, ⟨acceptable, rfl⟩, taken⟩
      exact (take_collected acceptable one after).mp taken
    · rintro ⟨acceptable, rfl⟩
      have first := (acceptable_concat.mp acceptable).1
      exact ⟨_, ⟨first, rfl⟩, (take_collected first one _).mpr ⟨acceptable, rfl⟩⟩

end Collected

section Nets

theorem splitEquals_cons (c : Char) (rest : List Char) :
    splitEquals (c :: rest) =
      if c = '=' then ([], some rest)
      else (c :: (splitEquals rest).1, (splitEquals rest).2) := by
  unfold splitEquals
  by_cases same : c = '='
  · simp [same]
  · simp only [List.dropWhile_cons, bne_iff_ne, ne_eq, same, not_false_eq_true, if_true,
      List.takeWhile_cons, if_false]
    split <;> rfl

/-- The first equals sign parts a text in two. -/
theorem splitEquals_eq_some {chars name value : List Char} :
    splitEquals chars = (name, some value) ↔ chars = name ++ '=' :: value ∧ '=' ∉ name := by
  induction chars generalizing name with
  | nil => simp [splitEquals]
  | cons c rest ih =>
    rw [splitEquals_cons]
    by_cases same : c = '='
    · subst same
      cases name <;> simp +contextual [Eq.comm]
    · rw [if_neg same]
      cases name with
      | nil => simp [same]
      | cons d name =>
        have own : (splitEquals rest).1 = name ∧ (splitEquals rest).2 = some value ↔
            rest = name ++ '=' :: value ∧ '=' ∉ name := by
          rw [← ih, Prod.ext_iff]
        simp only [Prod.mk.injEq, List.cons.injEq, List.cons_append, List.mem_cons, not_or,
          and_assoc, own]
        constructor
        · rintro ⟨rfl, split, plain⟩
          exact ⟨rfl, split, Ne.symm same, plain⟩
        · rintro ⟨rfl, split, -, plain⟩
          exact ⟨rfl, split, plain⟩

/-- A net name is given by a pad, an equals sign, and a net that is not empty. -/
theorem readOverride?_eq_some {text pad net : String} :
    readOverride? text = some (pad, net) ↔
      text = pad ++ "=" ++ net ∧ '=' ∉ pad.toList ∧ net ≠ "" := by
  constructor
  · intro read
    unfold readOverride? at read
    split at read <;> cases read
    rename_i own c rest parts
    obtain ⟨spelt, plain⟩ := splitEquals_eq_some.mp parts
    refine ⟨String.toList_inj.mp ?_, by rwa [String.toList_ofList], fun empty => ?_⟩
    · simp [spelt]
    · have none := congrArg String.toList empty
      rw [String.toList_ofList] at none
      cases none
  · rintro ⟨rfl, plain, more⟩
    have parts : splitEquals (pad ++ "=" ++ net).toList = (pad.toList, some net.toList) := by
      refine splitEquals_eq_some.mpr ⟨?_, plain⟩
      rw [String.toList_append, String.toList_append, List.append_assoc]
      rfl
    unfold readOverride?
    rw [parts]
    cases spelt : net.toList with
    | nil => exact absurd (String.toList_inj.mp spelt) more
    | cons c rest =>
      dsimp only
      rw [← spelt, String.ofList_toList, String.ofList_toList]

/-- Net names that can be read are written as pairs. -/
theorem Acceptable.nets {given : List Given} (acceptable : Acceptable given) :
    textsOf given .net = (netsOf given).map (fun pair => pair.1 ++ "=" ++ pair.2) ∧
      ∀ pair ∈ netsOf given, '=' ∉ pair.1.toList ∧ pair.2 ≠ "" := by
  have readable (text : String) (member : text ∈ textsOf given .net) :
      ∃ pair, readOverride? text = some pair := by
    obtain ⟨one, isGiven, own⟩ := List.mem_filterMap.mp member
    cases Given.text?_eq_some.mp own
    exact Option.isSome_iff_exists.mp (acceptable.readable _ isGiven)
  unfold netsOf
  generalize textsOf given .net = texts at readable ⊢
  induction texts with
  | nil => exact ⟨rfl, nofun⟩
  | cons text rest ih =>
    obtain ⟨⟨pad, net⟩, read⟩ := readable text List.mem_cons_self
    obtain ⟨spelt, plain, more⟩ := readOverride?_eq_some.mp read
    obtain ⟨others, parts⟩ := ih fun text member => readable text (List.mem_cons_of_mem _ member)
    rw [List.filterMap_cons_some read, List.map_cons, ← others, ← spelt]
    exact ⟨rfl, List.forall_mem_cons.mpr ⟨⟨plain, more⟩, parts⟩⟩

end Nets

section Order

theorem eq_of_perm_short {texts more : List String} (perm : more.Perm texts)
    (short : texts.length ≤ 1) : more = texts := by
  match texts, short with
  | [], _ => exact perm.eq_nil
  | [text], _ => exact List.perm_singleton.mp perm

variable {given others : List Given} (acceptable : Acceptable given) (same : others.Perm given)
include acceptable same

theorem Acceptable.perm : Acceptable others where
  readable one member := acceptable.readable one (same.mem_iff.mp member)
  flags flag once := (same.filterMap _).length_eq ▸ acceptable.flags flag once
  inputs := (same.filterMap _).length_eq ▸ acceptable.inputs

/-- The order can matter only to the net names. -/
theorem Acceptable.texts_perm {flag : Flag} (once : flag.isRepeatable = false) :
    textsOf others flag = textsOf given flag :=
  eq_of_perm_short (same.filterMap _) (acceptable.flags flag once)

theorem Acceptable.inputs_perm : inputsOf others = inputsOf given :=
  eq_of_perm_short (same.filterMap _) acceptable.inputs

end Order

section Requests

/-- What may stand before the command: the verbose flag, once. -/
def leads : List (List String) :=
  [[], ["-v"], ["--verbose"]]

/-- The arguments name a command and give this to it. -/
def Gives (arguments : List String) (command : Command) (given : List Given) : Prop :=
  ∃ lead ∈ leads, ∃ name rest, Command.ofName? name = some command ∧
    arguments = lead ++ name :: rest ∧ given? command.flags none rest = some given

theorem orUsage_eq_ok {α : Type} {a : Option α} {b : α} : orUsage a = .ok b ↔ a = some b := by
  cases a <;> simp [orUsage]

theorem readCommand_eq_ok {command : Command} {rest : List String} {asked : Request}
    (runs : asked ≠ .help) :
    readCommand command rest = .ok asked ↔
      ∃ given, given? command.flags none rest = some given ∧ Acceptable given ∧
        ∃ input, (inputsOf given).head? = some input ∧
          request command (collected given) input = asked := by
  have own := @readArguments_eq command.flags none {} rest
  unfold readCommand
  cases read : readArguments command.flags none {} rest with
  | error refusal =>
    rw [read] at own
    refine ⟨fun asks => ?_, fun ⟨given, gives, acceptable, _⟩ => ?_⟩
    · cases refusal <;> cases asks
      exact absurd rfl runs
    · rw [gives, Option.bind_some, (foldlM_take_eq_some _).mpr ⟨acceptable, rfl⟩] at own
      cases own
  | ok arguments =>
    rw [read] at own
    obtain ⟨given, gives, taken⟩ := Option.bind_eq_some_iff.mp own.symm
    obtain ⟨acceptable, rfl⟩ := (foldlM_take_eq_some _).mp taken
    dsimp only
    rw [orUsage_eq_ok, Option.map_eq_some_iff]
    constructor
    · exact fun asks => ⟨given, gives, acceptable, asks⟩
    · rintro ⟨_, same, -, asks⟩
      cases gives.symm.trans same
      exact asks

theorem readRequest_lead {lead : List String} (isLead : lead ∈ leads) {name : String}
    {command : Command} (named : Command.ofName? name = some command) (rest : List String) :
    readRequest false (lead ++ name :: rest) = readCommand command rest := by
  have direct (verbose : Bool) :
      readRequest verbose (name :: rest) = readCommand command rest := by
    rw [readRequest, named]
  simp only [leads, List.mem_cons, List.not_mem_nil, or_false] at isLead
  obtain rfl | rfl | rfl := isLead
  · exact direct false
  · exact direct true
  · exact direct true

theorem readHelp_eq_ok {arguments : List String} {asked : Request}
    (read : readHelp arguments = .ok asked) : asked = .help := by
  unfold readHelp at read
  split at read
  · cases read; rfl
  · split at read <;> cases read
    rfl
  · cases read

theorem readLeading_eq_inr {verbose : Bool} {letters : List Char} {asked : Request}
    (read : readLeading verbose letters = .ok (.inr asked)) : asked = .version ∨ asked = .help := by
  fun_induction readLeading verbose letters with
  | case1 => cases read
  | case2 => cases read; exact .inl rfl
  | case3 => cases read; exact .inr rfl
  | case4 _ _ _ _ _ _ ih => exact ih read
  | case5 => cases read

theorem readLeading_eq_inl {verbose after : Bool} {letters : List Char}
    (read : readLeading verbose letters = .ok (.inl after)) :
    (letters = [] ∧ after = verbose) ∨ (verbose = false ∧ letters = ['v'] ∧ after = true) := by
  fun_induction readLeading verbose letters with
  | case1 => cases read; exact .inl ⟨rfl, rfl⟩
  | case2 | case3 | case5 => cases read
  | case4 verbose c rest _ _ isVerbose ih =>
    obtain ⟨isV, silent⟩ := Bool.and_eq_true_iff.mp isVerbose
    obtain ⟨rfl, rfl⟩ | ⟨again, -⟩ := ih read
    · exact .inr ⟨by simpa using silent, by rw [eq_of_beq isV], rfl⟩
    · cases again

/-- Arguments that ask for a command hold at most the verbose flag before it. -/
theorem lead_of_readRequest {verbose : Bool} {arguments : List String} {asked : Request}
    (read : readRequest verbose arguments = .ok asked) (runs : asked ≠ .help)
    (knows : asked ≠ .version) :
    ∃ lead ∈ leads, (verbose = true → lead = []) ∧ ∃ name rest command,
      Command.ofName? name = some command ∧ arguments = lead ++ name :: rest ∧
        readCommand command rest = .ok asked := by
  fun_induction readRequest verbose arguments with
  | case1 => cases read
  | case2 verbose name rest command named =>
    exact ⟨[], List.mem_cons_self, fun _ => rfl, name, rest, command, named, rfl, read⟩
  | case3 => exact absurd (readHelp_eq_ok read) runs
  | case4 => cases read; exact absurd rfl runs
  | case5 => cases read; exact absurd rfl knows
  | case6 verbose argument rest _ _ _ _ isVerbose ih =>
    obtain ⟨isFlag, silent⟩ := Bool.and_eq_true_iff.mp isVerbose
    obtain ⟨lead, -, alone, name, more, command, named, rfl, asks⟩ := ih read
    refine ⟨["--verbose"], by decide, ?_, name, more, command, named, ?_, asks⟩
    · rintro rfl
      cases silent
    · rw [alone rfl, eq_of_beq isFlag]
      rfl
  | case7 => cases read
  | case8 => cases read
  | case9 _ _ _ _ _ _ _ _ _ _ _ _ request leading =>
    cases read
    obtain rfl | rfl := readLeading_eq_inr leading
    · exact absurd rfl knows
    · exact absurd rfl runs
  | case10 verbose argument rest _ _ _ _ _ c letters _ spelt after leading ih =>
    obtain ⟨none, -⟩ | ⟨rfl, isV, rfl⟩ := readLeading_eq_inl leading
    · cases none
    · obtain ⟨lead, -, alone, name, more, command, named, rfl, asks⟩ := ih read
      refine ⟨["-v"], by decide, nofun, name, more, command, named, ?_, asks⟩
      have isFlag : argument = "-v" := by
        rw [← String.ofList_toList (s := argument), spelt, isV]
      rw [alone rfl, isFlag]
      rfl
  | case11 => cases read

/-- A command is run with what the arguments give if that can be taken and holds an input. -/
theorem readRequest_eq_ok {arguments : List String} {asked : Request} (runs : asked ≠ .help)
    (knows : asked ≠ .version) :
    readRequest false arguments = .ok asked ↔
      ∃ command given, Gives arguments command given ∧ Acceptable given ∧
        ∃ input, (inputsOf given).head? = some input ∧
          request command (collected given) input = asked := by
  constructor
  · intro read
    obtain ⟨lead, isLead, -, name, rest, command, named, rfl, asks⟩ :=
      lead_of_readRequest read runs knows
    obtain ⟨given, gives, acceptable, asks⟩ := (readCommand_eq_ok runs).mp asks
    exact ⟨command, given, ⟨lead, isLead, name, rest, named, rfl, gives⟩, acceptable, asks⟩
  · rintro ⟨command, given, ⟨lead, isLead, name, rest, named, rfl, gives⟩, acceptable, asks⟩
    rw [readRequest_lead isLead named]
    exact (readCommand_eq_ok runs).mpr ⟨given, gives, acceptable, asks⟩

end Requests

end FootprintTemplate.CommandLine
