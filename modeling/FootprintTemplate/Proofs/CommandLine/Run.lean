import FootprintTemplate.Proofs.CommandLine.Files
import FootprintTemplate.Proofs.CommandLine.Stages

/-! Runs of the command line on a tree of files. Stages before the write only read the tree, so a
run that fails leaves it as it was, and one that succeeds has changed at most its output file. -/
namespace FootprintTemplate.CommandLine

variable {explain : String → String}

section Conversions

theorem text?_eq (tree : FileTree) (path : String) :
    tree.text? path = (tree.textOf path).toOption := by
  rw [FileTree.text?, FileTree.textOf]
  cases tree.read path with
  | error error => rfl
  | ok bytes =>
    show String.fromUTF8? bytes = _
    dsimp only
    cases String.fromUTF8? bytes <;> rfl

theorem settings?_eq (naming : Naming) (tree : FileTree) :
    naming.settings? tree = ((tree.configOf explain naming.config).map naming.over).toOption := by
  unfold Naming.settings?
  cases naming.config with
  | none => rfl
  | some path =>
    dsimp only [FileTree.configOf]
    rw [text?_eq]
    cases tree.textOf path with
    | error message => rfl
    | ok text =>
      show (Config.read? text).map naming.over = ((configIn explain path text).map naming.over).toOption
      unfold configIn
      cases Config.read? text <;> rfl

theorem conversion?_eq (tree : FileTree) (naming : Naming) (input : String) :
    conversion? tree naming input = (tree.conversionOf explain naming input).toOption := by
  rw [conversion?, settings?_eq, FileTree.conversionOf]
  cases tree.configOf explain naming.config with
  | error message => rfl
  | ok config =>
    show ((tree.text? input).bind fun text => (convertText (naming.over config) text).toOption) = _
    rw [text?_eq]
    dsimp only [Except.bind, FileTree.footprintOf]
    cases tree.textOf input with
    | error message => rfl
    | ok text =>
      show (convertText (naming.over config) text).toOption = _
      dsimp only [convertText]
      cases Sexpr.parse text with
      | error error => rfl
      | ok footprint => dsimp only [Except.mapError]; cases convert _ footprint <;> rfl

/-- What a conversion comes to: it fails and leaves the tree, it prints the code, or it writes the
code to a path that does not lead to its input. -/
theorem runConvert_cases (input : String) (output : Option String) (netMap : Bool)
    (naming : Naming) (tree : FileTree) :
    (∃ failure, (runConvert explain FileTree.system input output netMap naming).run.run tree =
      (.error failure, tree)) ∨
    ∃ conversion table, conversion? tree naming input = some conversion ∧
      ((output = none ∧ (runConvert explain FileTree.system input output netMap naming).run.run tree =
        (.ok ⟨0, conversion.code, table⟩, tree)) ∨
      ∃ path after, output = some path ∧ tree.isSame path input = false ∧
        tree.write path conversion.code = .ok after ∧
        (runConvert explain FileTree.system input output netMap naming).run.run tree =
          (.ok ⟨0, "", table⟩, after)) := by
  rw [run_runConvert, conversion?_eq]
  cases same : output.any (tree.isSame · input) with
  | true => exact .inl ⟨_, rfl⟩
  | false =>
  rw [if_neg Bool.false_ne_true]
  cases tree.conversionOf explain naming input with
  | error message => exact .inl ⟨_, rfl⟩
  | ok conversion =>
  dsimp only [FileTree.delivered]
  cases output with
  | none => exact .inr ⟨conversion, _, rfl, .inl ⟨rfl, rfl⟩⟩
  | some path =>
    dsimp only
    cases written : tree.write path conversion.code with
    | error error => exact .inl ⟨_, rfl⟩
    | ok after => exact .inr ⟨conversion, _, rfl, .inr ⟨path, after, rfl, same, written, rfl⟩⟩

end Conversions

section Frames

/-- Trees that differ at most in the file at one place. -/
structure FileTree.SameBut (tree after : FileTree) (place : List String) : Prop where
  dirs : after.dirs = tree.dirs
  working : after.working = tree.working
  files : ∀ other, other ≠ place → after.files.lookup other = tree.files.lookup other

/-- What a path leads to is at the same place in both trees, and has not changed. -/
def FileTree.Keeps (tree after : FileTree) (path : String) : Prop :=
  after.read path = tree.read path ∧ after.resolve path = tree.resolve path ∧
    ∀ place, tree.resolve path = some place → after.entry? place = tree.entry? place

theorem FileTree.keeps_self (tree : FileTree) (path : String) : tree.Keeps tree path :=
  ⟨rfl, rfl, fun _ _ => rfl⟩

variable {tree after : FileTree} {path text : String}

/-- A write to a path that does not lead to the input. -/
theorem FileTree.write_spec {input : String} {bytes : ByteArray}
    (written : tree.write path text = .ok after) (readable : tree.read input = .ok bytes)
    (apart : tree.isSame path input = false) :
    tree.Keeps after input ∧ after.read path = .ok text.toUTF8 ∧
      ∃ place, after.resolve path = some place ∧ tree.SameBut after place := by
  obtain ⟨short, place, followed, free, rfl⟩ := FileTree.write_eq_ok written
  obtain ⟨inputShort, found, reached⟩ := (tree.read_eq_ok).mp readable
  obtain ⟨inputFollowed, there⟩ := (tree.reach_eq_ok).mp reached
  have inputResolved := (tree.resolve_eq_some).mpr ⟨_, reached⟩
  have differs : found ≠ place := by
    rintro rfl
    have resolved : tree.resolve path = some found :=
      (tree.resolve_eq_some).mpr ⟨_, (tree.reach_eq_ok).mpr ⟨followed, there⟩⟩
    simp [FileTree.isSame, resolved, inputResolved] at apart
  have kept := tree.entry?_put_of_ne place text.toUTF8 differs
  have reachedAfter := ((tree.put place text.toUTF8).reach_eq_ok).mpr
    ⟨tree.follow_put place text.toUTF8 inputFollowed, kept.trans there⟩
  have writtenAfter := ((tree.put place text.toUTF8).reach_eq_ok).mpr
    ⟨tree.follow_put place text.toUTF8 followed, tree.entry?_put_self place text.toUTF8 free⟩
  refine ⟨⟨?_, ?_, ?_⟩, ?_, place, ?_, rfl, rfl, fun other => tree.lookup_put_of_ne place _⟩
  · rw [readable]
    exact (FileTree.read_eq_ok _).mpr ⟨inputShort, found, reachedAfter⟩
  · rw [inputResolved]
    exact (FileTree.resolve_eq_some _).mpr ⟨_, reachedAfter⟩
  · intro other resolved
    cases inputResolved.symm.trans resolved
    exact kept
  · exact (FileTree.read_eq_ok _).mpr ⟨short, place, writtenAfter⟩
  · exact (FileTree.resolve_eq_some _).mpr ⟨_, writtenAfter⟩

end Frames

/-- What a run that succeeds does for its request. -/
def Fulfils (tree after : FileTree) (stdout : String) : Request → Prop
  | .convert input output _ naming =>
    ∃ conversion, conversion? tree naming input = some conversion ∧
      match output with
      | none => after = tree ∧ stdout = conversion.code
      | some path => stdout = "" ∧ after.read path = .ok conversion.code.toUTF8 ∧
          ∃ place, after.resolve path = some place ∧ tree.SameBut after place
  | .version | .help | .pads _ _ | .preview _ _ => after = tree

/-- The outcome of a stage that ran, or of its failure. -/
def settled (result : Except Failure Outcome) : Outcome :=
  match result with
  | .ok outcome => outcome
  | .error failure => failure.outcome

theorem run_request (arguments : List String) (tree : FileTree) {request : Request}
    (h : readRequest false arguments = .ok request) :
    (run explain FileTree.system arguments).run tree =
      (settled ((runRequest explain FileTree.system request).run.run tree).1,
        ((runRequest explain FileTree.system request).run.run tree).2) := by
  unfold run
  rw [h, StateT.run_bind]
  show (match (runRequest explain FileTree.system request).run.run tree with
    | (result, after) => _) = _
  rcases (runRequest explain FileTree.system request).run.run tree with ⟨_ | _, _⟩ <;> rfl

/-- The outcome of arguments that ask for nothing that runs. -/
def Refusal.outcome : Refusal → Outcome
  | help => ⟨0, usageText, ""⟩
  | usage => ⟨Blame.usage.code, "", usageText⟩

theorem run_refusal (arguments : List String) (tree : FileTree) {refusal : Refusal}
    (h : readRequest false arguments = .error refusal) :
    (run explain FileTree.system arguments).run tree = (refusal.outcome, tree) := by
  unfold run
  rw [h]
  cases refusal <;> rfl

theorem Blame.code_ne_zero (blame : Blame) : blame.code ≠ 0 := by
  cases blame <;> decide

/-- What a run has done: it failed and left the tree, or it did what was asked for. -/
def Settled (tree after : FileTree) (request : Request) (outcome : Outcome) : Prop :=
  (outcome.code ≠ 0 ∧ outcome.stdout = "" ∧ after = tree) ∨
    (outcome.code = 0 ∧ Fulfils tree after outcome.stdout request ∧
      ∀ input ∈ request.input?, tree.Keeps after input)

theorem settled_convert (input : String) (output : Option String) (netMap : Bool) (naming : Naming)
    (tree : FileTree) :
    ∃ result after, (runConvert explain FileTree.system input output netMap naming).run.run tree =
        (result, after) ∧
      Settled tree after (.convert input output netMap naming) (settled result) := by
  rcases runConvert_cases input output netMap naming tree with
    ⟨failure, ran⟩ | ⟨conversion, table, made, ⟨rfl, ran⟩ | ⟨path, after, rfl, apart, written, ran⟩⟩
  · exact ⟨_, _, ran, .inl ⟨failure.blame.code_ne_zero, rfl, rfl⟩⟩
  · refine ⟨_, _, ran, .inr ⟨rfl, ⟨conversion, made, rfl, rfl⟩, fun path _ => tree.keeps_self path⟩⟩
  · obtain ⟨bytes, readable⟩ : ∃ bytes, tree.read input = .ok bytes := by
      obtain ⟨_, -, made⟩ := Option.bind_eq_some_iff.mp made
      obtain ⟨_, made, -⟩ := Option.bind_eq_some_iff.mp made
      obtain ⟨bytes, made, -⟩ := Option.bind_eq_some_iff.mp made
      cases read : tree.read input with
      | error => rw [read] at made; cases made
      | ok bytes => exact ⟨bytes, rfl⟩
    obtain ⟨kept, holds, changed⟩ := FileTree.write_spec written readable apart
    refine ⟨_, _, ran, .inr ⟨rfl, ⟨conversion, made, rfl, holds, changed⟩, ?_⟩⟩
    rintro _ ⟨⟩
    exact kept

theorem settled_pads (input : String) (naming : Naming) (tree : FileTree) :
    ∃ result after, (runPads explain FileTree.system input naming).run.run tree = (result, after) ∧
      Settled tree after (.pads input naming) (settled result) := by
  refine ⟨_, tree, computes_runPads input naming tree, ?_⟩
  dsimp only
  cases tree.listingOf explain naming input with
  | error message => exact .inl ⟨Blame.input.code_ne_zero, rfl, rfl⟩
  | ok pairs => exact .inr ⟨rfl, rfl, fun path _ => tree.keeps_self path⟩

theorem settled_request (request : Request) (tree : FileTree) :
    ∃ result after, (runRequest explain FileTree.system request).run.run tree = (result, after) ∧
      Settled tree after request (settled result) := by
  cases request with
  | version | help => exact ⟨_, _, rfl, .inr ⟨rfl, rfl, fun path _ => tree.keeps_self path⟩⟩
  | convert input output netMap naming => exact settled_convert input output netMap naming tree
  | pads input naming => exact settled_pads input naming tree
  | preview input naming => exact ⟨_, _, rfl, .inl ⟨Blame.usage.code_ne_zero, rfl, rfl⟩⟩

theorem Settled.keeps {tree after : FileTree} {request : Request} {outcome : Outcome}
    (h : Settled tree after request outcome) :
    ∀ input ∈ request.input?, tree.Keeps after input := by
  obtain ⟨-, -, rfl⟩ | ⟨-, -, kept⟩ := h
  · exact fun input _ => after.keeps_self input
  · exact kept

/-- What the arguments bring about on a tree of files. -/
def runOn (explain : String → String) (arguments : List String) (tree : FileTree) :
    Outcome × FileTree :=
  (run explain FileTree.system arguments).run tree

/-- A run that fails changes nothing and prints nothing. A conversion that succeeds has its code in
the file of its output, which is the only one changed, or on stdout. The input always stays. -/
theorem run_all_or_nothing (explain : String → String) (arguments : List String) (tree : FileTree) :
    let outcome := (runOn explain arguments tree).1
    let after := (runOn explain arguments tree).2
    (outcome.code ≠ 0 → after = tree ∧ outcome.stdout = "") ∧
      (∀ refusal, readRequest false arguments = .error refusal → after = tree) ∧
      ∀ request, readRequest false arguments = .ok request →
        (outcome.code = 0 → Fulfils tree after outcome.stdout request) ∧
        ∀ input ∈ request.input?, tree.Keeps after input := by
  intro outcome after
  have ran : (run explain FileTree.system arguments).run tree = (outcome, after) := rfl
  clear_value outcome after
  cases read : readRequest false arguments with
  | error refusal =>
    cases (run_refusal arguments tree read).symm.trans ran
    refine ⟨fun failed => ⟨rfl, ?_⟩, fun _ _ => rfl, fun _ => nofun⟩
    cases refusal with
    | help => exact absurd rfl failed
    | usage => rfl
  | ok request =>
    obtain ⟨result, last, ranRequest, done⟩ := settled_request request tree
    rw [run_request arguments tree read, ranRequest] at ran
    cases ran
    refine ⟨?_, fun _ => nofun, ?_⟩
    · intro failed
      obtain ⟨-, silent, same⟩ | ⟨succeeded, -⟩ := done
      · exact ⟨same, silent⟩
      · exact absurd succeeded failed
    · rintro _ ⟨⟩
      refine ⟨fun succeeded => ?_, done.keeps⟩
      obtain ⟨failed, -⟩ | ⟨-, fulfilled, -⟩ := done
      · exact absurd succeeded failed
      · exact fulfilled

/-- The output is spelt through a directory that is left again. -/
example : (runOn id ["convert", "./a", "-o", "s/../a"]
    ⟨[(["a"], "(footprint a)".toUTF8)], [["s"]], []⟩).1.code = 1 := by decide

end FootprintTemplate.CommandLine
