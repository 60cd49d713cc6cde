import FootprintTemplate.Proofs.Preview.Drawn
import FootprintTemplate.Proofs.Preview.Exported
import FootprintTemplate.Proofs.Script.Exporting

/-! The script of a module runs as the module that is filled in directly. It loads with the same
parameters, gives the same texts and messages for one placement after another, and is left as ready
for the next one. -/
namespace FootprintTemplate.Preview

open FootprintTemplate.Script (Equipped Exports HasValue IsClosure Store bind_error bind_ok drawingClosure
  exportProgram paramsOf run_exportProgram)
open Script.Interpreter (full machine)
open Sexpr (Node)
open Text (Units units unitsOfChars)

section Running

variable {loaded : Loaded} {placement : Placement} {defaults : List (String × String)}
  {store after start : Store} {place id : Nat}

/-- Nothing is running in a store in which the routine of a module can be called. -/
structure Ready (conversion : Conversion) (store : Store) (id : Nat) : Prop where
  equipped : Equipped store
  body : IsClosure store id (drawingClosure (routineTrees conversion.namer.netOf conversion.written))
  idle : store.joining = []
  resting : store.depth = 0

theorem Ready.grows {conversion : Conversion} (ready : Ready conversion store id)
    (grows : store.Grows after) : Ready conversion after id where
  equipped := ready.equipped.mono grows.keeps
  body := ready.body.mono grows.keeps
  idle := grows.joining.trans ready.idle
  resting := grows.depth.trans ready.resting

section Calls

variable (reads : readParams (.record (declaredParams loaded.conversion.written defaults)) =
    .ok loaded.params)
  (read : loaded.conversion.written.IsRead loaded.conversion.namer.netOf defaults)
  (declared : IsDeclared loaded.conversion)
  (ready : Ready loaded.conversion start id)
  (presents : Presents loaded.params placement start place)

theorem beq_units (one other : String) : (units one == units other) = (one == other) := by
  rw [Bool.eq_iff_iff, beq_iff_eq, beq_iff_eq]
  exact Text.units_injective.eq_iff

/-- The placement is on the other face of the footprint. -/
def isTurned (loaded : Loaded) (placement : Placement) : Bool :=
  placement.side == loaded.conversion.written.side.opposite.letter

/-- The placement is on none of the two faces. -/
def isAstray (loaded : Loaded) (placement : Placement) : Bool :=
  !isTurned loaded placement && placement.side != loaded.conversion.written.side.letter

section Known

include reads read declared ready presents

/-- On a known side the routine gives back the text of the footprint. -/
theorem call_known (known : isAstray loaded placement = false) :
    ∃ after, full.call (.object id) .undefined [.object place] start =
      (.ok (.text (unitsOfChars (loaded.conversion.written.fill (placeLine loaded placement)
        (filling loaded placement (isTurned loaded placement))))), after) ∧ start.Grows after := by
  have keeps := Script.keeps_deeper start
  have equipped := ready.equipped.mono keeps
  have sides : (units placement.side == units loaded.conversion.written.side.opposite.letter) =
      isTurned loaded placement := beq_units _ _
  obtain ⟨added, adds⟩ := addsLines_drawing reads (presents.mono keeps) equipped read declared
    (units placement.side == units loaded.conversion.written.side.opposite.letter) 999984
  have supported : (!(units placement.side == units loaded.conversion.written.side.opposite.letter) &&
      units placement.side != units loaded.conversion.written.side.letter) = false := by
    rw [sides, bne, beq_units]
    exact known
  have ran := Script.runBody_known equipped (presents.side.mono keeps) supported ready.idle adds
  have called := Script.call_drawing ready.body (by rw [ready.resting]; decide) .undefined
    (.object place) ran
  have text : (((lineTexts loaded placement (isTurned loaded placement)).map
      unitsOfChars).intersperse (units "\n")).flatten =
        unitsOfChars (loaded.conversion.written.fill (placeLine loaded placement)
          (filling loaded placement (isTurned loaded placement))) := by
    rw [← join_lineTexts]
    exact unitsOfChars_join '\n' _
  rw [sides, text] at called
  exact ⟨_, called, (Script.grows_drawing start.deeper _ _ _).of_deeper⟩

end Known

theorem fillIn_eq_ite : fillIn loaded placement =
    if isAstray loaded placement = true then .error (.unsupportedSide placement.side)
    else .ok (String.ofList (loaded.conversion.written.fill (placeLine loaded placement)
      (filling loaded placement (isTurned loaded placement)))) :=
  rfl

include ready presents

/-- On any other side the routine fails, with an error that names the side. -/
theorem call_astray (astray : isAstray loaded placement = true) :
    ∃ error after, full.call (.object id) .undefined [.object place] start =
      (.error (.thrown (.object error)), after) ∧ start.Grows after ∧
        after.objects[error]? = some (Script.failureOf (Script.sideMessage ++ units placement.side)) := by
  have keeps := Script.keeps_deeper start
  have equipped := ready.equipped.mono keeps
  have sides : (units placement.side == units loaded.conversion.written.side.opposite.letter) =
      isTurned loaded placement := beq_units _ _
  have unknown : (!(units placement.side == units loaded.conversion.written.side.opposite.letter) &&
      units placement.side != units loaded.conversion.written.side.letter) = true := by
    rw [sides, bne, beq_units]
    exact astray
  have called : (machine (999993 + 6 + 1)).call (.object id) .undefined [.object place] start = _ :=
    Script.call_drawing ready.body (by rw [ready.resting]; decide) _ _
      (Script.runBody_unsupported equipped (presents.side.mono keeps) unknown)
  refine ⟨_, _, called, ?_, ?_⟩
  · exact ((Script.grows_drawing start.deeper _ _ _).trans (.pushObject _ _)).of_deeper
  · have size : (start.deeper.drawing (.object place)
        (some (.truth (units placement.side == units loaded.conversion.written.side.opposite.letter)))
        []).objects.size = start.deeper.objects.size + 1 := Array.size_push _
    rw [← size]
    exact Array.getElem?_push_size

end Calls

section Errors

variable {text : Units}

theorem errorPart_eq {name default shown : String}
    (found : Script.Member.get full id (.ofString name) store = (.ok (.ofString shown), store)) :
    Session.errorPart id name default store = (.ok shown, store) := by
  refine (bind_ok found).trans ?_
  exact congrArg (fun text => (Except.ok text, store)) (Text.ofUnits_units shown)

/-- What is reported of an error that is as it was made. -/
theorem causeOf_failure (equipped : Equipped store) {message : String} (filled : message ≠ "")
    (found : store.objects[id]? = some (Script.failureOf (units message))) :
    Session.causeOf (.thrown (.object id)) store = "Error" ++ ": " ++ message := by
  have name : Session.errorPart id "name" "Error" store = (.ok "Error", store) := by
    have lacks : Script.Lacks store id (.ofString "name") (some (Script.Origin.error .error).id) :=
      ⟨_, found, rfl, (Script.own?_failureOf _ (units "name")).trans (if_neg (by decide)), rfl⟩
    refine errorPart_eq ?_
    change Script.Member.getWithin _ (9998 + 1 + 1) id _ _ store = _
    rw [lacks.get_base, equipped.errorName.get]
  have own : Session.errorPart id "message" "" store = (.ok message, store) := by
    have has : HasValue store id (.ofString "message") (.ofString message) :=
      ⟨_, _, _, _, found, rfl, (Script.own?_failureOf _ (units "message")).trans (if_pos rfl)⟩
    exact errorPart_eq has.get
  have thrown : Session.thrownText (.object id) store = (.ok ("Error" ++ ": " ++ message), store) := by
    refine (bind_ok (Script.object_of_getElem? found)).trans ?_
    refine (bind_ok name).trans ?_
    refine (bind_ok own).trans ?_
    rw [beq_false_of_ne filled]
    rfl
  rw [Session.causeOf, thrown]

end Errors

section Placements

theorem ofUnits?_unitsOfChars (chars : List Char) :
    Text.ofUnits? (unitsOfChars chars) = some (String.ofList chars) := by
  have text := Text.ofUnits?_units (String.ofList chars)
  rwa [units, String.toList_ofList] at text

/-- A text or the message of an error. -/
def shownText (result : Except PreviewError String) : Except String String :=
  result.mapError PreviewError.message

variable (reads : readParams (.record (declaredParams loaded.conversion.written defaults)) =
    .ok loaded.params)
  (read : loaded.conversion.written.IsRead loaded.conversion.namer.netOf defaults)
  (declared : IsDeclared loaded.conversion)

include reads read declared

theorem place_session (ready : Ready loaded.conversion store id) (placement : Placement) :
    ∃ result after, Session.place ⟨store, .object id⟩ loaded.params placement =
        (result, ⟨after, .object id⟩) ∧ Ready loaded.conversion after id ∧
      shownText result = shownText (fillIn loaded placement) := by
  obtain ⟨place, start, made, grows, presents⟩ := argument_eq loaded.params placement store
  have ready := ready.grows grows
  unfold Session.place
  rw [fillIn_eq_ite]
  by_cases astray : isAstray loaded placement = true
  · obtain ⟨error, after, failed, grows, found⟩ := call_astray ready presents astray
    have built : Session.build (.object id) loaded.params placement store =
        (.error (.thrown (.object error)), after) :=
      (bind_ok made).trans (bind_error failed _)
    have filled : "unsupported side: " ++ placement.side ≠ "" := by
      rw [← String.toList_inj.ne, String.toList_append]
      exact List.append_ne_nil_of_left_ne_nil (by decide) _
    have message : Script.sideMessage ++ units placement.side =
        units ("unsupported side: " ++ placement.side) := (Text.units_append _ _).symm
    rw [message] at found
    have cause := causeOf_failure (ready.grows grows).equipped filled found
    rw [built, if_pos astray]
    refine ⟨.error (.failed ("Error" ++ ": " ++ ("unsupported side: " ++ placement.side))), after, ?_,
      ready.grows grows, congrArg Except.error ?_⟩
    · rw [← cause]
    · change "template script failed: " ++ _ = "template script failed: Error: unsupported side: " ++ _
      rw [← String.append_assoc, ← String.append_assoc]
      exact congrArg (· ++ placement.side) (by decide)
  · have known := Bool.eq_false_of_not_eq_true astray
    obtain ⟨after, called, grows⟩ := call_known reads read declared ready presents known
    have built : Session.build (.object id) loaded.params placement store =
        (.ok (String.ofList (loaded.conversion.written.fill (placeLine loaded placement)
          (filling loaded placement (isTurned loaded placement)))), after) := by
      refine (bind_ok made).trans ((bind_ok called).trans ?_)
      dsimp only
      rw [ofUnits?_unitsOfChars]
      rfl
    rw [built, if_neg astray]
    exact ⟨_, after, rfl, ready.grows grows, rfl⟩

/-- One placement after another, a script gives the texts that its module is filled to. -/
theorem renderAll_session_eq (ready : Ready loaded.conversion store id)
    (filled : loaded.session = none) (placements : List Placement) :
    (renderAll { loaded with session := some ⟨store, .object id⟩ } placements).map shownText =
      (renderAll loaded placements).map shownText := by
  induction placements generalizing store with
  | nil => rfl
  | cons placement rest ih =>
    obtain ⟨result, after, placed, next, same⟩ := place_session reads read declared ready placement
    have own : place { loaded with session := some ⟨store, .object id⟩ } placement =
        (result, { loaded with session := some ⟨after, .object id⟩ }) := by
      simp only [place, placed]
    have other : place loaded placement = (fillIn loaded placement, loaded) := by
      simp only [place, filled]
    rw [renderAll, renderAll, own, other]
    exact congrArg₂ List.cons same (ih next)

end Placements

end Running

variable {conversion : Conversion} {defaults : List (String × String)} {store : Store}

section Loading

theorem paramsTrees_paramFields (m : Module) (defaults : List (String × String)) :
    Script.paramsTrees (units m.designator) (paramFields m defaults) =
      paramsOf m.designator m.side.letter (netDefaults m defaults) := by
  rw [paramsOf, paramFields, netDefaults, List.map_map]
  rfl

/-- A script that exports these parameters and this routine starts. -/
theorem start_eq {program : Script.Program} {side designator : String}
    {fields : List (String × Script.Constant)} {body : List Script.Tree}
    {record params routine first : Nat} {object : Script.Object}
    {entries : List (String × Script.Value)} {shown : Value} {before : Store}
    (ran : Script.Interpreter.run program before = (.ok (.object record), store))
    (exports : Exports store designator side fields body record params routine first object entries)
    (exported : Session.exported 1000 (.object params) store = (.ok shown, store)) :
    Session.start program before = (.ok (shown, .object routine), store) := by
  have own : Script.Member.get full record (.ofString "params") store =
      (.ok (.object params), store) := exports.ofParams.get
  have made : Script.Member.get full record (.ofString "body") store =
      (.ok (.object routine), store) := exports.ofBody.get
  refine (bind_ok ran).trans ?_
  refine (bind_ok own).trans ?_
  refine (bind_ok exported).trans ?_
  exact (bind_ok made).trans rfl

theorem load_of_start {code : String} {program : Script.Program} {shown : Value}
    {body : Script.Value} {params : List (String × Param)}
    (parsed : Script.parse (Session.wrapped code).toList = some program)
    (started : Session.start program Script.Library.startStore = (.ok (shown, body), store))
    (reads : readParams shown = .ok params) :
    Session.load code = .ok (params, ⟨store, body⟩) := by
  unfold Session.load
  rw [parsed]
  dsimp only
  rw [started]
  dsimp only
  rw [reads]

/-- The script of a module starts with the parameters that the module declares. -/
theorem load_session (read : conversion.written.IsRead conversion.namer.netOf defaults)
    {params : List (String × Param)}
    (reads : readParams (.record (declaredParams conversion.written defaults)) = .ok params) :
    ∃ store id, loadScript conversion defaults =
      .ok ⟨conversion, params, some ⟨store, .object id⟩⟩ ∧ Ready conversion store id := by
  let m := conversion.written
  obtain ⟨store, record, own, routine, first, object, entries, ran, exports⟩ :=
    run_exportProgram m.designator m.side.letter (netDefaults m defaults)
      (routineTrees conversion.namer.netOf m)
  obtain ⟨members, exported, same⟩ :=
    exported_params exports.isParams exports.made read.once exports.found 997
  have parsed := parse_wrapped read
  rw [moduleProgram, paramsTrees_paramFields] at parsed
  have started := start_eq ran exports exported
  have loads := load_of_start parsed started (same.trans reads)
  refine ⟨store, routine, ?_, exports.equipped, exports.closure, exports.idle, exports.resting⟩
  rw [loadScript, loads]
  rfl

end Loading

section Converted

variable {config : Config} {footprint : Node} {loaded running : Loaded} {placement : Placement}

theorem isDeclared_convert (converted : convert config footprint = .ok conversion) :
    IsDeclared conversion := by
  obtain ⟨-, layer, sections, ok, shape⟩ := convert_eq_ok.mp converted
  obtain ⟨-, nets⟩ := (gathers_asks footprint.kind).draftBody ok
  intro pad place
  have written : Template.Fragment.net pad ∈
      conversion.written.statements.flatMap Statement.fragments := by
    refine (List.mem_append.mp place).resolve_left fun inside => ?_
    rw [shape] at inside
    simp [header] at inside
  obtain ⟨statement, own, inside⟩ := List.mem_flatMap.mp written
  rw [shape] at own
  exact netOf_mem_nets converted (nets.subset (mem_statementPads.mpr ⟨statement, own, inside⟩))

/-- The lines of a script that is not this short could be too many for a list. -/
def IsShort (conversion : Conversion) (defaults : List (String × String)) : Prop :=
  (conversion.written.codeWith conversion.namer.netOf (defaultChars defaults)).toList.length <
    Script.indexLimit

theorem isRead_convert (converted : convert config footprint = .ok conversion)
    (enclosed : conversion.written.isEnclosed = true) (script : conversion.written.isScript = true)
    (short : IsShort conversion defaults) :
    conversion.written.IsRead conversion.namer.netOf defaults := by
  have increasing := increasing_nets converted
  obtain ⟨-, layer, sections, ok, rfl⟩ := convert_eq_ok.mp converted
  exact {
    header := guarded_header footprint
    guarded := ((gathers_writes footprint.kind).draftBody ok).1
    enclosed := enclosed
    script := script
    once := increasing.imp String.ne_of_lt
    short := short }

/-- One module gives what the other gives: its parameters, and for one placement after another the
same texts and the same messages. -/
structure Loaded.RunsAs (running loaded : Loaded) : Prop where
  conversion : running.conversion = loaded.conversion
  params : running.params = loaded.params
  shown : ∀ placements, (renderAll running placements).map shownText =
    (renderAll loaded placements).map shownText

/-- A conversion that is loaded to be filled in directly runs as its script does. -/
theorem exists_running (converted : convert config footprint = .ok conversion)
    (enclosed : conversion.written.isEnclosed = true) (short : IsShort conversion defaults)
    (loads : load conversion defaults = .ok loaded) :
    ∃ running, loadScript conversion defaults = .ok running ∧ running.RunsAs loaded := by
  obtain ⟨script, params, reads, rfl⟩ := (load_eq_ok_iff enclosed).mp loads
  have read := isRead_convert converted enclosed script short
  obtain ⟨store, id, started, ready⟩ := load_session read reads
  have declared := isDeclared_convert converted
  exact ⟨_, started, rfl, rfl, fun placements =>
    @renderAll_session_eq { conversion, params } _ _ _ reads read declared ready rfl placements⟩

/-- A conversion that is loaded, to be filled in directly or to run as the script that it is written
as. -/
inductive IsLoaded (conversion : Conversion) (defaults : List (String × String)) : Loaded → Prop
  | filled {loaded : Loaded} (loads : load conversion defaults = .ok loaded) :
      IsLoaded conversion defaults loaded
  | running {loaded : Loaded} (short : IsShort conversion defaults)
      (loads : loadScript conversion defaults = .ok loaded) : IsLoaded conversion defaults loaded

/-- A loaded conversion with the parameters that it declares. Where it can be filled in, that is what it
renders, whatever was rendered before. -/
structure Loaded.Fills (loaded : Loaded) (conversion : Conversion)
    (defaults : List (String × String)) : Prop where
  conversion_eq : loaded.conversion = conversion
  reads : readParams (.record (declaredParams conversion.written defaults)) = .ok loaded.params
  gives : ∀ before placement out, fillIn loaded placement = .ok out →
    renderAll loaded (before ++ [placement]) = renderAll loaded before ++ [.ok out]

theorem Loaded.Fills.render (fills : loaded.Fills conversion defaults) {out : String}
    (filled : fillIn loaded placement = .ok out) : render loaded placement = .ok out := by
  have alone : renderAll loaded [placement] = [.ok out] := fills.gives [] placement out filled
  exact (List.cons.inj alone).1

/-- Ways to load a conversion differ in the session alone. -/
theorem Loaded.Fills.exists_session (fills : loaded.Fills conversion defaults)
    {params : List (String × Param)}
    (reads : readParams (.record (declaredParams conversion.written defaults)) = .ok params) :
    ∃ session, loaded = { conversion, params, session } := by
  obtain ⟨own, members, session⟩ := loaded
  obtain ⟨same, again, -⟩ := fills
  cases same
  cases Except.ok.inj (again.symm.trans reads)
  exact ⟨session, rfl⟩

theorem exists_renderAll_concat (loaded : Loaded) (before : List Placement) (placement : Placement) :
    ∃ last, renderAll loaded (before ++ [placement]) = renderAll loaded before ++ [last] := by
  induction before generalizing loaded with
  | nil => exact ⟨_, rfl⟩
  | cons first rest ih =>
    obtain ⟨last, more⟩ := ih (place loaded first).2
    exact ⟨last, congrArg (_ :: ·) more⟩

theorem Loaded.RunsAs.gives (runs : running.RunsAs loaded) {before : List Placement} {out : String}
    (given : renderAll loaded (before ++ [placement]) = renderAll loaded before ++ [.ok out]) :
    renderAll running (before ++ [placement]) = renderAll running before ++ [.ok out] := by
  obtain ⟨last, own⟩ := exists_renderAll_concat running before placement
  have shown := runs.shown (before ++ [placement])
  rw [own, given, List.map_append, List.map_append, runs.shown before] at shown
  have text : shownText last = .ok out := (List.cons.inj (List.append_cancel_left shown)).1
  cases last with
  | error => cases text
  | ok own => cases text; assumption

theorem Loaded.RunsAs.render (runs : running.RunsAs loaded) {out : String}
    (given : render loaded placement = .ok out) : render running placement = .ok out := by
  have alone : renderAll running ([] ++ [placement]) = renderAll running [] ++ [.ok out] :=
    runs.gives (congrArg ([·]) given)
  exact (List.cons.inj alone).1

/-- A conversion loads, and its script loads unless it is too long. -/
theorem exists_loaded (converted : convert config footprint = .ok conversion)
    (enclosed : conversion.written.isEnclosed = true) (script : conversion.written.isScript = true)
    (defaults : List (String × String)) : (∃ loaded, load conversion defaults = .ok loaded) ∧
      (IsShort conversion defaults → ∃ loaded, loadScript conversion defaults = .ok loaded) := by
  obtain ⟨params, loads, -⟩ := load_eq_ok enclosed script defaults
  refine ⟨⟨_, loads⟩, fun short => ?_⟩
  obtain ⟨running, starts, -⟩ := exists_running converted enclosed short loads
  exact ⟨running, starts⟩

/-- However a conversion is loaded, it renders what it is filled to. -/
theorem IsLoaded.fills (isLoaded : IsLoaded conversion defaults loaded)
    (converted : convert config footprint = .ok conversion)
    (enclosed : conversion.written.isEnclosed = true)
    (script : conversion.written.isScript = true) : loaded.Fills conversion defaults := by
  obtain ⟨params, loads, -⟩ := load_eq_ok enclosed script defaults
  obtain ⟨-, _, reads, same⟩ := (load_eq_ok_iff enclosed).mp loads
  cases same
  have direct (before : List Placement) (placement : Placement) (out : String)
      (filled : fillIn { conversion, params } placement = .ok out) :
      renderAll { conversion, params } (before ++ [placement]) =
        renderAll { conversion, params } before ++ [.ok out] := by
    rw [renderAll_append rfl, ← filled]
    rfl
  cases isLoaded with
  | filled own =>
    cases loads.symm.trans own
    exact ⟨rfl, reads, direct⟩
  | running short own =>
    obtain ⟨running, starts, runs⟩ := exists_running converted enclosed short loads
    cases own.symm.trans starts
    obtain ⟨_, _, session⟩ := loaded
    obtain ⟨rfl, rfl, -⟩ := id runs
    exact ⟨rfl, reads, fun before placement out filled => runs.gives (direct before placement out filled)⟩

end Converted

theorem isShort_tab : IsShort tabConversion [] := by
  refine Nat.lt_of_le_of_lt (Nat.le_of_eq (congrArg List.length String.toList_ofList)) ?_
  decide +kernel

end FootprintTemplate.Preview
