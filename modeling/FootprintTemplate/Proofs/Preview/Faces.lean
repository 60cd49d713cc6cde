import FootprintTemplate.Proofs.Preview.Simulated
import FootprintTemplate.Proofs.Writer.Faced

/-! Faces of rendered footprints. The side on which a footprint was drawn, the face that its module
asks for and the layer that it renders come from one name, and they agree. -/
namespace FootprintTemplate.Preview

open Sexpr (Item Node quotedChars unquote)
open Template (Filling Fragment fill)
open Writer (Draft LayersAgree Rule layerName)

section OwnLayer

/-- The name of a layer on a face of the board. -/
def faceLayer (face : Side) (rest : String) : String :=
  face.letter ++ "." ++ rest

/-- A layer on a face, up to its further items. -/
def faceChars (face : Side) (rest : String) : List Char :=
  "(layer ".toList ++ quotedChars (faceLayer face rest).toList

theorem toList_faceLayer (face : Side) (rest : String) :
    (faceLayer face rest).toList = face.letter.toList ++ '.' :: rest.toList := by
  rw [faceLayer, String.toList_append, String.toList_append, List.append_assoc]
  rfl

theorem side_faceLayer (face : Side) (rest : String) : Layer.side (faceLayer face rest) = face := by
  rw [Layer.side, toList_faceLayer]
  cases face <;> rfl

theorem swapFace?_faceLayer (face : Side) (rest : String) :
    Layer.swapFace? (faceLayer face rest) = some (faceLayer face.opposite rest) := by
  have swapped : Layer.swapFaceChars? (faceLayer face rest).toList =
      some (faceLayer face.opposite rest).toList := by
    rw [toList_faceLayer, toList_faceLayer]
    cases face <;> rfl
  rw [Layer.swapFace?, swapped, Option.map_some, String.ofList_toList]

theorem fill_ownLayer (filling : Filling) (face : Side) (rest : String) :
    fill filling [.punct "(layer ", .punct "\"", layerName (faceLayer face rest), .punct "\""] =
      faceChars (if filling.flip then face.opposite else face) rest := by
  have name : layerName (faceLayer face rest) =
      .faced (faceLayer face.opposite rest) (faceLayer face rest) := by
    rw [layerName, swapFace?_faceLayer]
  have shown (flipped plain : String) :
      fill filling [.punct "(layer ", .punct "\"", .faced flipped plain, .punct "\""] =
        "(layer ".toList ++ quotedChars (if filling.flip then flipped else plain).toList := by
    cases flip : filling.flip <;> simp [fill, Fragment.fill, quotedChars, flip]
  have faced : (if filling.flip then faceLayer face.opposite rest else faceLayer face rest) =
      faceLayer (if filling.flip then face.opposite else face) rest := by
    split
    · rfl
    · rfl
  rw [name, shown, faced]
  rfl

variable {config : Config} {footprint : Node} {conversion : Conversion} {text : String}

theorem layer_of_child? {layer : Node} (own : footprint.child? "layer" = some layer) :
    layer.kind = "layer" := by
  have found := List.find?_some own
  exact eq_of_beq found

/-- The statement of the footprint's own layer shows the layer's name on the face. -/
theorem exists_ownLayer (converted : convert config footprint = .ok conversion)
    (own : (footprint.child? "layer").bind Node.firstAtom? = some text) :
    conversion.written.side = Layer.side (unquote text) ∧
      ∃ more, conversion.written.layer = some ⟨false,
        [.punct "(layer ", .punct "\"", layerName (unquote text), .punct "\""] ++ more⟩ := by
  obtain ⟨-, statement, sections, ok, rfl⟩ := convert_eq_ok.mp converted
  refine ⟨by simp [sideOf, own], ?_⟩
  obtain ⟨⟨kind, items⟩, child, first⟩ := Option.bind_eq_some_iff.mp own
  obtain rfl : kind = "layer" := layer_of_child? child
  obtain ⟨okLayer, -⟩ := draftBody_eq_ok.mp ok
  have emits : (Rule.select (some footprint.kind) "layer").disposition ≠ .skip := by
    rw [show Rule.select (some footprint.kind) "layer" = .layer from rfl]
    decide
  rw [draftLayer, child] at okLayer
  dsimp only at okLayer
  rw [draftStatement_write emits] at okLayer
  obtain ⟨fragments, written, rfl⟩ := Draft.bind_pure_eq_ok.mp okLayer
  obtain ⟨rest, rfl⟩ : ∃ rest, items = .atom text :: rest := by
    cases items with
    | nil => cases first
    | cons item rest =>
      cases item with
      | atom own => exact ⟨rest, by rw [Option.some.inj first]⟩
      | node => cases first
  change (Writer.writeItem (some footprint.kind) (.node "layer" (.atom text :: rest))).outcome = _
    at written
  have lays : Writer.Lays "layer" .layer (.atom text :: rest) _ := .layer
  rw [Writer.writeItem_node, show Rule.select (some footprint.kind) "layer" = .layer from rfl,
    lays.compose_eq] at written
  obtain ⟨inner, -, rfl⟩ := Writer.Layout.draft_eq_ok.mp written
  exact ⟨inner ++ [Fragment.punct ")"], by rw [← List.append_assoc]; rfl⟩

end OwnLayer

section Rendering

variable {conversion : Conversion} {loaded : Loaded} {placement : Placement}

/-- What a module with an own layer renders: its head, the line of its place, and its layer. -/
theorem fillIn_layer {own : List Fragment} (layer : loaded.conversion.written.layer =
      some ⟨false, own⟩) (known : placement.side = "F" ∨ placement.side = "B") :
    let shown := filling loaded placement (placement.side != loaded.conversion.written.side.letter)
    ∃ out after, fillIn loaded placement = .ok out ∧
      out.toList = fill shown loaded.conversion.written.header ++
        '\n' :: (placeLine loaded placement ++ '\n' :: (fill shown own ++ after)) := by
  intro shown
  have own_line : Statement.lines shown ⟨false, own⟩ = [fill shown own] := rfl
  refine ⟨_, ((loaded.conversion.written.sections.flatMap Section.statements).flatMap
    (Statement.lines shown) ++ [[')']]).flatMap ('\n' :: ·), fillIn_known known, ?_⟩
  rw [String.toList_ofList, Module.fill, join_eq, Module.statements, layer, Option.toList_some,
    List.singleton_append, List.flatMap_cons,
    List.flatMap_cons, own_line]
  simp only [List.flatMap_cons, List.cons_append, List.nil_append, shown]

/-- A module drawn on a side, whose own layer has the rest of its name behind that side. Once it is
loaded, to be filled in directly or to run as a script, it shows the layer on the face where it is
placed. -/
structure ShowsFace (conversion : Conversion) (side : Side) (rest : String) : Prop where
  side_eq : conversion.written.side = side
  loads : conversion.written.isEnclosed = true → conversion.written.isScript = true →
    ∀ defaults, (∃ loaded, load conversion defaults = .ok loaded) ∧
      (IsShort conversion defaults → ∃ loaded, loadScript conversion defaults = .ok loaded)
  shows : conversion.written.isEnclosed = true → conversion.written.isScript = true →
    ∀ defaults loaded, IsLoaded conversion defaults loaded → ∀ (placement : Placement) (face : Side),
      placement.side = face.letter → ∃ out after, render loaded placement = .ok out ∧
        out.toList = fill (filling loaded placement (placement.side != side.letter))
            conversion.written.header ++
          '\n' :: (placeLine loaded placement ++ '\n' :: (faceChars face rest ++ after))

theorem letter_bne (face side : Side) :
    (face.letter != side.letter) = !decide (face = side) := by
  cases face <;> cases side <;> decide

theorem turned_side (face side : Side) :
    (if (face.letter != side.letter) = true then side.opposite else side) = face := by
  rw [letter_bne]
  cases face <;> cases side <;> rfl

theorem showsFace {config : Config} {footprint : Node} {text : String} {side : Side}
    {rest : String} (converted : convert config footprint = .ok conversion)
    (own : (footprint.child? "layer").bind Node.firstAtom? = some text)
    (tied : unquote text = faceLayer side rest) : ShowsFace conversion side rest := by
  obtain ⟨drawn, more, layer⟩ := exists_ownLayer converted own
  rw [tied, side_faceLayer] at drawn
  rw [tied] at layer
  refine ⟨drawn, fun enclosed script defaults => exists_loaded converted enclosed script defaults,
    fun enclosed script defaults loaded isLoaded => ?_⟩
  · intro placement face placed
    have fills := isLoaded.fills converted enclosed script
    obtain ⟨rfl, -, -⟩ := id fills
    have known : placement.side = "F" ∨ placement.side = "B" := by
      rw [placed]
      cases face
      · exact .inl rfl
      · exact .inr rfl
    obtain ⟨out, after, filled, shown⟩ := fillIn_layer layer known
    have turned :
      (if (filling loaded placement (placement.side != side.letter)).flip
        then side.opposite else side) = face := by
      change (if placement.side != side.letter then side.opposite else side) = face
      rw [placed]
      exact turned_side face side
    rw [drawn, Writer.fill_append, fill_ownLayer, turned, List.append_assoc] at shown
    exact ⟨out, _, fills.render filled, shown⟩

/-- The faces agree. A layer alone and in a list shows one name between quotes: its own, or where it
is turned over and tied to a face, that of the other face. A footprint whose own layer is tied to a
face is drawn there, and shows the layer on the face on which it is placed. -/
theorem render_faces (config : Config) (footprint : Node) (conversion : Conversion) (text : String)
    (side : Side) (rest : String) :
    (∀ netOf parent flip name, '\r' ∉ (unquote name).toList →
      LayersAgree netOf parent flip name (Writer.seenLayer flip (unquote name))) ∧
      (convert config footprint = .ok conversion →
        (footprint.child? "layer").bind Node.firstAtom? = some text →
        unquote text = faceLayer side rest → ShowsFace conversion side rest) :=
  ⟨fun netOf parent flip _ plain => Writer.layersAgree netOf parent flip plain, showsFace⟩

def backFootprint : Node :=
  ⟨"footprint", [.atom "a", .node "layer" [.atom "\"B.$\x7b\""]]⟩

def backConversion : Conversion where
  written := { (plainConversion "XX" [] ⟨"footprint", [.atom "a"]⟩ (some ⟨false, [.punct "(layer ",
    .punct "\"", .faced "F.$\x7b" "B.$\x7b", .punct "\"", .punct ")"]⟩) []).written with
      side := .back }
  namer := ⟨{}, []⟩

/-- A layer of the back turns over with a footprint on the front. -/
theorem render_faces_back :
    convert {} backFootprint = .ok backConversion ∧ backConversion.written.isEnclosed = true ∧
      backConversion.written.isScript = true ∧ IsShort backConversion [] ∧
      ∃ loaded, loadScript backConversion [] = .ok loaded ∧
        ∃ out after, render loaded {} = .ok out ∧ out.toList =
          "(footprint a".toList ++ '\n' :: (placeLine loaded {} ++ '\n' ::
            ("(layer \"F.$\x7b\"".toList ++ after)) := by
  have converted : convert {} backFootprint = .ok backConversion := by cbv
  have shown := (render_faces {} backFootprint backConversion "\"B.$\x7b\"" .back "$\x7b").2
    converted rfl (by decide)
  have short : IsShort backConversion [] := by
    refine Nat.lt_of_le_of_lt (Nat.le_of_eq (congrArg List.length String.toList_ofList)) ?_
    decide +kernel
  obtain ⟨loaded, loads⟩ := (shown.loads rfl rfl []).2 short
  obtain ⟨out, after, rendered, chars⟩ :=
    shown.shows rfl rfl [] loaded (.running short loads) {} .front rfl
  exact ⟨converted, rfl, rfl, short, loaded, loads, out, after, rendered, chars⟩

end Rendering

end FootprintTemplate.Preview
