import FootprintTemplate.Proofs.Preview.OwnNames
import FootprintTemplate.Proofs.Preview.Program
import FootprintTemplate.Proofs.Script.Provided
import FootprintTemplate.Proofs.Writer.Evaluated

/-! What the routine of a module is given for a placement, and what it gives back. It is given the
place, the rotation and the side, and over them the nets, each an object that is shown as the net.
Each line that it adds is the text that the line is filled to, so that the lines joined are the text
that the module is filled to. -/
namespace FootprintTemplate.Preview

open FootprintTemplate.Script (Adds AddsLines Binds Equipped HasValue IsLabel Key Lacks Object Run Shown
  Store bind_ok)
open Script.Interpreter (machine)
open Template (Fragment fill)
open Text (Units units unitsOfChars)
open Writer (Guarded ShowsNet Supplies Turns literalTree)

section Argument

variable {nets : List (String × BoardNet)} {params : List (String × Param)} {store : Store}

/-- A value of a parameter: where the parameter is a net of the board, an object that is shown as it. -/
def StandsFor (nets : List (String × BoardNet)) (store : Store) (name : String)
    (value : Script.Value) : Prop :=
  ∀ net, nets.lookup name = some net →
    ∃ id, value = .object id ∧ IsLabel store id (unitsOfChars net.text)

theorem memberValue_eq (nets : List (String × BoardNet)) (name : String) (param : Param)
    (store : Store) : ∃ value after,
      Session.memberValue nets name param store = (.ok value, after) ∧ store.Grows after ∧
        StandsFor nets after name value := by
  unfold Session.memberValue
  cases known : nets.lookup name with
  | some net =>
    obtain ⟨id, after, ran, grows, label⟩ := Script.makeLabel_eq (.ofString net.name)
      (.ofNat net.index) (unitsOfChars net.text) store
    refine ⟨.object id, after, ran, grows, fun other same => ?_⟩
    obtain rfl := Option.some.inj (known.symm.trans same)
    exact ⟨id, rfl, label⟩
  | none =>
    refine ⟨_, store, rfl, .refl store, fun other same => ?_⟩
    cases known.symm.trans same

theorem memberValues_eq (nets : List (String × BoardNet)) (params : List (String × Param))
    (store : Store) : ∃ members after,
      (params.mapM fun (name, param) => do
        return (name, ← Session.memberValue nets name param) : Run _) store = (.ok members, after) ∧
        store.Grows after ∧ members.map Prod.fst = params.map Prod.fst ∧
        ∀ member ∈ members, StandsFor nets after member.1 member.2 := by
  induction params generalizing store with
  | nil => exact ⟨[], store, rfl, .refl store, rfl, nofun⟩
  | cons entry rest ih =>
    obtain ⟨name, param⟩ := entry
    obtain ⟨value, middle, one, grows, stands⟩ := memberValue_eq nets name param store
    obtain ⟨members, after, ran, more, names, each⟩ := ih middle
    refine ⟨(name, value) :: members, after, ?_, grows.trans more, congrArg (name :: ·) names,
      List.forall_mem_cons.mpr ⟨fun net known => ?_, each⟩⟩
    · rw [List.mapM_cons]
      refine (bind_ok ((bind_ok one).trans rfl)).trans ?_
      exact (bind_ok ran).trans rfl
    · obtain ⟨id, same, label⟩ := stands net known
      exact ⟨id, same, label.mono more.keeps⟩

/-- An object gives the parts of a placement, and a net in the place of any of them but the side. -/
structure Presents (params : List (String × Param)) (placement : Placement) (store : Store)
    (place : Nat) : Prop where
  side : HasValue store place (.ofString "side") (.text (units placement.side))
  net : ∀ name net, (boardNets placement.nets [] params).lookup name = some net →
    ∃ id, HasValue store place (.ofString name) (.object id) ∧
      IsLabel store id (unitsOfChars net.text)
  line : "at" ∉ params.map Prod.fst →
    HasValue store place (.ofString "at") (.text (unitsOfChars (atChars placement)))
  rotation : "r" ∉ params.map Prod.fst →
    HasValue store place (.ofString "r") (.number placement.r)
  base : prototypeName ∉ params.map Prod.fst →
    Lacks store place (.ofString prototypeName) (some Script.Origin.object.id)

theorem argument_eq (params : List (String × Param)) (placement : Placement) (store : Store) :
    ∃ place after, Session.argument params placement store = (.ok (.object place), after) ∧
      store.Grows after ∧ Presents params placement after place := by
  let nets := boardNets placement.nets [] params
  obtain ⟨members, middle, ran, grows, names, stands⟩ :=
    memberValues_eq nets (params.filter (·.1 != "side")) store
  let first : List (String × Script.Value) :=
    [("at", .text (unitsOfChars (atChars placement))), ("r", .number placement.r),
      ("rot", .number placement.r), ("side", .ofString placement.side)]
  let object := Script.putMembers { prototype := some Script.Origin.object.id } (first ++ members)
  let after := middle.pushObject object
  have found : after.objects[middle.objects.size]? = some object := Array.getElem?_push_size
  have more : middle.Grows after := .pushObject _ _
  have record := (Object.IsRecord.blank (some Script.Origin.object.id)).putMembers (first ++ members)
  have base : object.prototype = some Script.Origin.object.id :=
    Script.prototype_putMembers _ _
  have own (name : String) : object.own? (.ofString name) =
      (Script.withMembers (fun _ => none) (first ++ members) (.ofString name)).map
        Script.Slot.ordinary := record.own? _
  have has {name : String} {value : Script.Value}
      (held : Script.withMembers (fun _ => none) (first ++ members) (.ofString name) = some value) :
      HasValue after middle.objects.size (.ofString name) value :=
    ⟨_, _, _, object, found, record.keyed.isProxy, (own name).trans (congrArg _ held)⟩
  have given {name : String} (free : name ∉ (params.filter (·.1 != "side")).map Prod.fst) :
      Script.withMembers (fun _ => none) (first ++ members) (.ofString name) =
        Script.withMembers (fun _ => none) first (.ofString name) := by
    rw [Script.withMembers_append, Script.withMembers_of_notMem (by rwa [names])]
  have outside {name : String} (free : name ∉ params.map Prod.fst) :
      name ∉ (params.filter (·.1 != "side")).map Prod.fst :=
    fun inside => free (((List.filter_sublist).map Prod.fst).subset inside)
  refine ⟨middle.objects.size, after, (bind_ok ran).trans rfl, grows.trans more, ?_, ?_, ?_, ?_, ?_⟩
  · have apart : "side" ∉ (params.filter (·.1 != "side")).map Prod.fst := by simp
    exact has ((given apart).trans rfl)
  · intro name net known
    have isSome : (nets.lookup name).isSome = true := by rw [known]; rfl
    obtain ⟨other, param, declared, -⟩ := isSome_lookup_boardNets.mp isSome
    have inside : name ∈ members.map Prod.fst := by
      rw [names]
      exact List.mem_map.mpr ⟨_, List.mem_filter.mpr ⟨declared, by simpa using other⟩, rfl⟩
    obtain ⟨value, member, held⟩ := Script.withMembers_of_mem _ inside
    obtain ⟨id, rfl, label⟩ := stands _ member net known
    rw [← Script.withMembers_append] at held
    exact ⟨id, has held, label.mono more.keeps⟩
  · exact fun free => has ((given (outside free)).trans rfl)
  · exact fun free => has ((given (outside free)).trans rfl)
  · exact fun free => ⟨object, found, record.keyed.isProxy,
      (own _).trans (congrArg _ ((given (outside free)).trans
        (Script.withMembers_of_notMem (by decide : prototypeName ∉ ["at", "r", "rot", "side"])))), base⟩

end Argument

variable {loaded : Loaded} {placement : Placement} {defaults : List (String × String)}
  {store after start : Store} {place : Nat} {flip : Bool}

theorem Presents.mono {params : List (String × Param)} (presents : Presents params placement store place)
    (keeps : store.Keeps after) : Presents params placement after place where
  side := presents.side.mono keeps
  net name net known := by
    obtain ⟨id, has, label⟩ := presents.net name net known
    exact ⟨id, has.mono keeps, label.mono keeps⟩
  line free := (presents.line free).mono keeps
  rotation free := (presents.rotation free).mono keeps
  base free := (presents.base free).mono keeps

/-- A parameter is a net, or one of the two that are none. -/
theorem param_cases {m : Module} {params : List (String × Param)}
    (reads : readParams (.record (declaredParams m defaults)) = .ok params) {name : String}
    {param : Param} (inside : (name, param) ∈ params) :
    name ≠ prototypeName ∧ (name = "designator" ∨ name = "side" ∨ param.kind = .net) := by
  obtain ⟨same, again, mem⟩ := readParams_members m defaults
  cases Except.ok.inj (reads.symm.trans again)
  obtain ⟨value, declared, read⟩ := (mem name param).mp inside
  obtain ⟨-, text, own, -⟩ | ⟨-, other, rfl⟩ := declared_cases declared
  · simp only [List.mem_cons, Prod.mk.injEq, List.not_mem_nil, or_false] at own
    obtain ⟨rfl, -⟩ | ⟨rfl, -⟩ := own
    · exact ⟨by decide, .inl rfl⟩
    · exact ⟨by decide, .inr (.inl rfl)⟩
  · refine ⟨other, .inr (.inr ?_)⟩
    obtain rfl := Except.ok.inj ((read_netDeclaration _).symm.trans read)
    rfl

section Places

variable (reads : readParams (.record (declaredParams loaded.conversion.written defaults)) =
    .ok loaded.params)
  (presents : Presents loaded.params placement store place)

/-- A net in the place of a member is a label behind a parenthesis. -/
theorem Presents.label (presents : Presents loaded.params placement store place) {name : String}
    {text : List Char} (known : (netTexts loaded placement).lookup name = some text) :
    ∃ id rest, HasValue store place (.ofString name) (.object id) ∧
      IsLabel store id (unitsOfChars text) ∧ text = '(' :: rest := by
  rw [lookup_netTexts] at known
  obtain ⟨net, found, rfl⟩ := Option.map_eq_some_iff.mp known
  obtain ⟨id, has, label⟩ := presents.net name net found
  exact ⟨id, _, has, label, rfl⟩

include reads

theorem notMem_params {name : String} (designator : name ≠ "designator") (side : name ≠ "side")
    (free : (netTexts loaded placement).lookup name = none) : name ∉ loaded.params.map Prod.fst := by
  intro inside
  obtain ⟨⟨_, param⟩, declared, rfl⟩ := List.mem_map.mp inside
  obtain same | same | isNet := (param_cases reads declared).2
  · exact designator same
  · exact side same
  · rw [lookup_netTexts, Option.map_eq_none_iff, ← Option.not_isSome_iff_eq_none] at free
    exact free (isSome_lookup_boardNets.mpr ⟨side, param, declared, isNet⟩)

include presents

theorem turns_filling (flip : Bool) : Turns store place (filling loaded placement flip).rotation := by
  cases known : (netTexts loaded placement).lookup "r" with
  | some text =>
    have shape : (filling loaded placement flip).rotation = .inr text := by simp only [filling, known]
    rw [shape]
    exact presents.label known
  | none =>
    have shape : (filling loaded placement flip).rotation = .inl placement.r := by
      simp only [filling, known]
    rw [shape]
    exact presents.rotation (notMem_params reads (by decide) (by decide) known)

theorem prints_net {net : String} (declared : net ∈ loaded.conversion.written.nets) :
    ShowsNet store place net (unitsOfChars (memberText placement (netTexts loaded placement) net)) := by
  unfold memberText
  cases known : (netTexts loaded placement).lookup net with
  | some text =>
    obtain ⟨id, rest, has, label, -⟩ := presents.label known
    exact .inl ⟨_, has, .label label⟩
  | none =>
    dsimp only
    by_cases side : net = "side"
    · subst side
      exact .inl ⟨_, presents.side, .text _⟩
    rw [if_neg (by simpa using side)]
    by_cases proto : net = prototypeName
    · subst proto
      have free : prototypeName ∉ loaded.params.map Prod.fst := by
        intro inside
        obtain ⟨⟨_, param⟩, member, same⟩ := List.mem_map.mp inside
        exact (param_cases reads member).1 same
      exact .inr ⟨rfl, presents.base free, rfl⟩
    · have areParams := (areParams_of_readParams reads).1
      exact absurd declared ((lookup_netTexts_eq_none areParams side proto placement).mp known)

theorem shown_line : ∃ value, HasValue store place (.ofString "at") value ∧
    Shown store value (unitsOfChars (placeLine loaded placement)) := by
  unfold placeLine
  cases known : (netTexts loaded placement).lookup "at" with
  | some text =>
    obtain ⟨id, rest, has, label, -⟩ := presents.label known
    exact ⟨_, has, .label label⟩
  | none =>
    exact ⟨_, presents.line (notMem_params reads (by decide) (by decide) known), .text _⟩

end Places

section Lines

/-- The nets that a module reads are among those that it declares. -/
def IsDeclared (conversion : Conversion) : Prop :=
  ∀ pad, .net pad ∈ conversion.written.header ++
      conversion.written.statements.flatMap Statement.fragments →
    conversion.namer.netOf pad ∈ conversion.written.nets

variable (reads : readParams (.record (declaredParams loaded.conversion.written defaults)) =
    .ok loaded.params)
  (presents : Presents loaded.params placement start place) (equipped : Equipped start)

include reads presents equipped

theorem supplies_drawing {fragments : List Fragment}
    (declared : ∀ pad, .net pad ∈ fragments →
      loaded.conversion.namer.netOf pad ∈ loaded.conversion.written.nets)
    (flip : Bool) (values : List Script.Value) :
    Supplies loaded.conversion.namer.netOf
      (start.drawing (.object place) (some (.truth flip)) values) start.scopes.size place
        (filling loaded placement flip) fragments := by
  have keeps := Script.keeps_drawing start (.object place) (some (.truth flip)) values
  have given := presents.mono keeps
  exact {
    equipped := equipped.mono keeps
    placement := Script.binds_place _ _ _ _
    face := Script.knows_face _ _ _ _
    rotation := turns_filling reads given flip
    nets pad asked := prints_net reads given (declared pad asked) }

theorem adds_literal {fragments : List Fragment} (guarded : Guarded fragments)
    (declared : ∀ pad, .net pad ∈ fragments →
      loaded.conversion.namer.netOf pad ∈ loaded.conversion.written.nets)
    (flip : Bool) (depth : Nat) :
    Adds start (.object place) (some (.truth flip)) (depth + 13)
      (literalTree loaded.conversion.namer.netOf fragments)
      (.text (unitsOfChars (fill (filling loaded placement flip) fragments))) :=
  ⟨rfl, fun values => Writer.evaluate_literal
    (supplies_drawing reads presents equipped declared flip values) guarded depth⟩

/-- The texts of the lines of a module. -/
def lineTexts (loaded : Loaded) (placement : Placement) (flip : Bool) : List (List Char) :=
  fill (filling loaded placement flip) loaded.conversion.written.header ::
    placeLine loaded placement :: (loaded.conversion.written.enabled.map (fun statement =>
      fill (filling loaded placement flip) statement.fragments) ++ [[')']])

theorem addsLines_drawing
    (read : loaded.conversion.written.IsRead loaded.conversion.namer.netOf defaults)
    (declared : IsDeclared loaded.conversion) (flip : Bool) (depth : Nat) :
    ∃ added, AddsLines start place flip (depth + 13)
      (literalTree loaded.conversion.namer.netOf loaded.conversion.written.header)
      (loaded.conversion.written.enabled.map fun statement =>
        literalTree loaded.conversion.namer.netOf statement.fragments) added
        ((lineTexts loaded placement flip).map unitsOfChars) := by
  let m := loaded.conversion.written
  let filled (fragments : List Fragment) : List Char :=
    fill (filling loaded placement flip) fragments
  let own (fragments : List Fragment) : Script.Value := .text (unitsOfChars (filled fragments))
  obtain ⟨value, has, shown⟩ := shown_line reads presents
  have header := adds_literal reads presents equipped read.header
    (fun pad asked => declared pad (List.mem_append_left _ asked)) flip depth
  have line : Adds start (.object place) (some (.truth flip)) (depth + 13) Script.placeTree value :=
    ⟨rfl, fun values => Script.evaluate_own ((Script.binds_place _ _ _ _).evaluate (depth + 11))
      (has.mono (Script.keeps_drawing _ _ _ _))⟩
  have last : Adds start (.object place) (some (.truth flip)) (depth + 13) Script.lastTree
      (.text (units ")")) := ⟨rfl, fun values => rfl⟩
  have lines : List.Forall₂ (Adds start (.object place) (some (.truth flip)) (depth + 13))
      (m.enabled.map fun statement => literalTree loaded.conversion.namer.netOf statement.fragments)
      (m.enabled.map fun statement => own statement.fragments) := by
    rw [List.forall₂_map_left_iff, List.forall₂_map_right_iff, List.forall₂_same]
    intro statement member
    have written := (List.mem_filter.mp member).1
    exact adds_literal reads presents equipped (read.guarded statement written)
      (fun pad asked => declared pad (List.mem_append_right _
        (List.mem_flatMap.mpr ⟨statement, written, asked⟩))) flip depth
  refine ⟨own m.header :: value :: (m.enabled.map (fun statement => own statement.fragments) ++
    [.text (units ")")]), ?_, ?_, ?_⟩
  · exact .cons header (.cons line (List.rel_append lines (.cons last .nil)))
  · refine .cons (.text _) (.cons shown ?_)
    rw [List.map_append, List.map_map]
    refine List.rel_append ?_ (.cons (.text _) .nil)
    rw [List.forall₂_map_left_iff, List.forall₂_map_right_iff, List.forall₂_same]
    exact fun statement _ => .text _
  · have few : m.nets.length + (Statement.call loaded.conversion.namer.netOf m.header).length +
        (calls loaded.conversion.namer.netOf m.enabled).length < 4294967295 := read.few
    have enabled := length_le_calls loaded.conversion.namer.netOf m.enabled
    have call := length_call loaded.conversion.namer.netOf m.header
    simp only [List.length_cons, List.length_append, List.length_map, List.length_nil]
    change _ ≤ 4294967295
    omega

end Lines

section Joined

theorem unitsOfChars_join (separator : Char) (lines : List (List Char)) :
    ((lines.map unitsOfChars).intersperse (unitsOfChars [separator])).flatten =
      unitsOfChars (Text.join separator lines) := by
  induction lines with
  | nil => rfl
  | cons line rest ih =>
    cases rest with
    | nil => exact List.append_nil _
    | cons next others =>
      have split : separator :: Text.join separator (next :: others) =
          [separator] ++ Text.join separator (next :: others) := rfl
      rw [Text.join_cons _ _ (List.cons_ne_nil _ _), split, Text.unitsOfChars_append,
        Text.unitsOfChars_append, ← ih]
      simp only [List.map_cons, List.intersperse_cons_cons, List.flatten_cons]

theorem join_lineTexts (loaded : Loaded) (placement : Placement) (flip : Bool) :
    Text.join '\n' (lineTexts loaded placement flip) = loaded.conversion.written.fill
      (placeLine loaded placement) (filling loaded placement flip) := by
  have lines : loaded.conversion.written.statements.flatMap
      (Statement.lines (filling loaded placement flip)) =
        loaded.conversion.written.enabled.map fun statement =>
          fill (filling loaded placement flip) statement.fragments := by
    rw [← lines_enabled, List.map_eq_flatMap]
    refine List.flatMap_congr fun statement member => ?_
    have enabled : statement.disabled = false := by simpa using (List.mem_filter.mp member).2
    rw [Statement.lines, enabled]
    rfl
  rw [Module.fill, lines]
  rfl

end Joined

end FootprintTemplate.Preview
