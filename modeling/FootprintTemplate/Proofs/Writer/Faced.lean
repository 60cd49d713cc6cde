import FootprintTemplate.Proofs.Script.Choice
import FootprintTemplate.Proofs.Writer.Numbers
import Mathlib.Data.List.Forall2

/-! Layers on either face. A layer that stands alone and one among others are written in different
ways; a script that evaluates what is written finds the same name in both. -/
namespace FootprintTemplate.Writer

open Script (Knows ReadsTemplate chosenText scriptOf)
open Script.Interpreter (full)
open Sexpr (Item quoted quotedChars toList_quoted unquote)
open Template (Filling Fragment fill)
open Text (Units unitsOfChars)

section Evaluated

/-- A script has this text for the expression, wherever it knows the face. -/
def HasText (flip : Bool) (expression : List Char) (text : Units) : Prop :=
  ∃ tree, Script.parse expression = some (scriptOf tree) ∧ ∀ store scope, Knows store scope flip →
    full.evaluate scope tree store = (.ok (.text text), store)

/-- A template literal of these pieces is read whole, and stands for this text with the values of its
expressions. -/
def Evaluates (netOf : String → String) (flip : Bool) (fragments : List Fragment) (text : Units) :
    Prop :=
  ∃ held values,
    (∀ rest, ReadsTemplate (Template.chars netOf fragments ++ '\x60' :: rest) held rest) ∧
    List.Forall₂ (fun part value => HasText flip part.1 value) held.more values ∧
    held.filled values = text

theorem hasText_faced (netOf : String → String) (filling : Filling) (flipped plain : String) :
    HasText filling.flip (expression netOf (.faced flipped plain))
      (unitsOfChars ((Fragment.faced flipped plain).fill filling)) := by
  have own : expression netOf (.faced flipped plain) = Script.choiceText
      (Script.stringLiteral flipped.toList) (Script.stringLiteral plain.toList) :=
    expression_substitution (choice_eq _ _)
  have value : (Fragment.faced flipped plain).fill filling =
      if filling.flip then flipped.toList else plain.toList := rfl
  rw [own, value]
  exact ⟨_, Script.parse_choiceText _ _,
    fun store scope knows => Script.evaluate_chosenText knows _ _ 999997⟩

/-- Text, or a choice between two texts. -/
def IsFaced : Fragment → Prop
  | .punct _ | .source _ | .faced _ _ => True
  | _ => False

theorem evaluates_fill {fragments : List Fragment} (guarded : Guarded fragments)
    (faced : ∀ fragment ∈ fragments, IsFaced fragment) (netOf : String → String) (filling : Filling) :
    Evaluates netOf filling.flip fragments (unitsOfChars (fill filling fragments)) := by
  refine ⟨contents netOf fragments, _, guarded.reads netOf, ?_,
    filled_contents netOf filling fragments⟩
  refine List.forall₂_map_left_iff.mp ?_
  rw [expressions_contents, List.forall₂_map_left_iff, List.forall₂_map_right_iff,
    List.forall₂_same]
  intro place member
  obtain ⟨own, isPlace⟩ := List.mem_filter.mp member
  have kind := faced place own
  cases place with
  | faced flipped plain => exact hasText_faced netOf filling flipped plain
  | punct | source => cases isPlace
  | coordinate | rotation | mirrorFlag | net => cases kind

end Evaluated

section Names

/-- The name of a layer on a face: on the other face the letter of its own face has changed. -/
inductive SeenAs : Bool → String → String → Prop where
  | own (name : String) : SeenAs false name name
  | front (rest : String) : SeenAs true ("F." ++ rest) ("B." ++ rest)
  | back (rest : String) : SeenAs true ("B." ++ rest) ("F." ++ rest)
  | faceless {name : String} (free : ∀ rest, name ≠ "F." ++ rest ∧ name ≠ "B." ++ rest) :
      SeenAs true name name

theorem ofList_face (letter : Char) (rest : List Char) :
    String.ofList (letter :: '.' :: rest) = String.ofList [letter, '.'] ++ String.ofList rest := by
  rw [← String.ofList_append]
  rfl

theorem seenAs_seenLayer (flip : Bool) (name : String) :
    SeenAs flip name (seenLayer flip name) := by
  cases flip with
  | false => exact .own name
  | true =>
    have swap : seenLayer true name = (Layer.swapFace? name).getD name := rfl
    rw [swap, Layer.swapFace?]
    unfold Layer.swapFaceChars?
    split
    · rename_i rest shape
      have same : name = "F." ++ String.ofList rest := by
        rw [← ofList_face, ← shape, String.ofList_toList]
      rw [Option.map_some, Option.getD_some, ofList_face, same]
      exact .front _
    · rename_i rest shape
      have same : name = "B." ++ String.ofList rest := by
        rw [← ofList_face, ← shape, String.ofList_toList]
      rw [Option.map_some, Option.getD_some, ofList_face, same]
      exact .back _
    · rename_i notFront notBack
      refine .faceless fun rest => ⟨?_, ?_⟩
      · rintro rfl
        exact notFront rest.toList (by rw [String.toList_append]; rfl)
      · rintro rfl
        exact notBack rest.toList (by rw [String.toList_append]; rfl)

theorem SeenAs.carriage {flip : Bool} {name seen : String} (sees : SeenAs flip name seen)
    (plain : '\r' ∉ name.toList) : '\r' ∉ seen.toList := by
  cases sees with
  | own => exact plain
  | front rest => simpa using plain
  | back rest => simpa using plain
  | faceless => exact plain

end Names

section Layers

theorem isFaced_layerName (name : String) : IsFaced (layerName name) := by
  unfold layerName
  split <;> trivial

theorem isFaced_layerEntry (name : String) : ∀ fragment ∈ layerEntry name, IsFaced fragment := by
  unfold layerEntry layerParts
  split <;> simp [IsFaced]

/-- A stance and a filling of which only the face counts. -/
def faceOnly (flip : Bool) : Stance × Filling :=
  (⟨flip, .nan, fun _ => ⟨0, ""⟩⟩, ⟨flip, .inl .nan, fun _ => []⟩)

theorem fits_faceOnly (flip : Bool) : (faceOnly flip).1.Fits [] (faceOnly flip).2 :=
  ⟨rfl, rfl, nofun⟩

theorem placedLayer_plain {name : String} (flip : Bool) (plain : '\r' ∉ name.toList) :
    placedLayer flip name = .atom (quoted (seenLayer flip name)) := by
  unfold placedLayer
  split
  · rfl
  · rename_i free
    have none : Layer.swapFace? name = none := Option.not_isSome_iff_eq_none.mp free
    have same : seenLayer flip name = name := by simp [seenLayer, none]
    rw [cooked_eq_self plain, same]

/-- A layer alone shows its name on the face between quotes. -/
theorem evaluates_layer (netOf : String → String) (parent : Option String) (flip : Bool)
    {text : String} (plain : '\r' ∉ (unquote text).toList) : ∃ fragments,
      (write parent ⟨"layer", [.atom text]⟩).outcome = .ok fragments ∧
        Evaluates netOf flip fragments (unitsOfChars
          ("(layer ".toList ++ (quotedChars (seenLayer flip (unquote text)).toList ++ [')']))) := by
  let fragments : List Fragment :=
    [.punct "(layer ", .punct "\"", layerName (unquote text), .punct "\"", .punct ")"]
  refine ⟨fragments, rfl, ?_⟩
  have guarded : Guarded fragments :=
    .firm rfl (guarded_layerName _ (.firm rfl (.firm rfl .nil)))
  have faced : ∀ fragment ∈ fragments, IsFaced fragment := by
    simp only [fragments, List.forall_mem_cons]
    exact ⟨trivial, trivial, isFaced_layerName _, trivial, trivial, List.forall_mem_nil _⟩
  have evaluated := evaluates_fill guarded faced netOf (faceOnly flip).2
  have shown : fill (faceOnly flip).2 fragments = "(layer ".toList ++
      (quotedChars (seenLayer flip (unquote text)).toList ++ [')']) := by
    have front : fill (faceOnly flip).2 fragments = fill (faceOnly flip).2
        [.punct "(layer ", .punct "\"", layerName (unquote text), .punct "\""] ++ [')'] := by
      rw [show fragments = [.punct "(layer ", .punct "\"", layerName (unquote text), .punct "\""] ++
        [.punct ")"] from rfl, fill_append]
      rfl
    rw [front, fill_layerName (fits_faceOnly flip), placedLayer_plain _ plain, List.append_assoc]
    simp [faceOnly, Item.chars]
  rwa [shown] at evaluated

/-- Names of a list of layers on a face, each between quotes after a space. -/
def entriesChars (flip : Bool) (names : List String) : List Char :=
  names.flatMap fun text => ' ' :: quotedChars (cooked (seenLayer flip (unquote text))).toList

theorem charsAll_entries (flip : Bool) (names : List String) :
    Item.charsAll (names.map fun text => placedEntry flip (.atom text)) =
      entriesChars flip names := by
  induction names with
  | nil => rfl
  | cons name rest ih =>
    have entry : (placedEntry flip (.atom name)).chars =
        quotedChars (cooked (seenLayer flip (unquote name))).toList := toList_quoted _
    rw [List.map_cons, Item.charsAll, ih, entry]
    rfl

/-- So do layers in a list. -/
theorem evaluates_layers (netOf : String → String) (parent : Option String) (flip : Bool)
    (names : List String) : ∃ fragments,
    (write parent ⟨"layers", names.map .atom⟩).outcome = .ok fragments ∧
      Evaluates netOf flip fragments
        (unitsOfChars ("(layers".toList ++ (entriesChars flip names ++ [')']))) := by
  let entries : List Fragment := names.flatMap fun text => layerEntry (unquote text)
  let fragments : List Fragment := .punct "(layers" :: (entries ++ [Fragment.punct ")"])
  have written : (write parent ⟨"layers", names.map .atom⟩).outcome = .ok fragments := by
    change (writeItem parent (.node "layers" (names.map .atom))).outcome = _
    have lays : Lays "layers" .layers (names.map .atom) _ := .layers
    rw [writeItem_node, show Rule.select parent "layers" = .layers from rfl, lays.compose_eq]
    exact Layout.draft_eq_ok.mpr ⟨[], rfl, by simp [fragments, entries]⟩
  refine ⟨fragments, written, ?_⟩
  have guarded : Guarded fragments :=
    .firm rfl ((guarded_layerEntries names).append (.firm rfl .nil))
  have faced : ∀ fragment ∈ fragments, IsFaced fragment := by
    refine List.forall_mem_cons.mpr ⟨trivial, List.forall_mem_append.mpr ⟨?_, ?_⟩⟩
    · intro fragment member
      obtain ⟨text, -, own⟩ := List.mem_flatMap.mp member
      exact isFaced_layerEntry _ fragment own
    · exact List.forall_mem_singleton.mpr trivial
  have evaluated := evaluates_fill guarded faced netOf (faceOnly flip).2
  have shown : fill (faceOnly flip).2 fragments =
      "(layers".toList ++ (entriesChars flip names ++ [')']) := by
    have whole : fill (faceOnly flip).2 fragments =
        "(layers".toList ++ (fill (faceOnly flip).2 entries ++ [')']) := by
      change "(layers".toList ++ fill (faceOnly flip).2 (entries ++ [Fragment.punct ")"]) = _
      rw [fill_append]
      rfl
    have each : fill (faceOnly flip).2 entries = entriesChars flip names :=
      (fill_layerEntries (fits_faceOnly flip) names).trans (charsAll_entries flip names)
    rw [whole, each]
  rwa [shown] at evaluated

/-- A layer and each list of layers that holds it show the same name between quotes. -/
structure LayersAgree (netOf : String → String) (parent : Option String) (flip : Bool)
    (text seen : String) : Prop where
  sees : SeenAs flip (unquote text) seen
  alone : ∃ fragments, (write parent ⟨"layer", [.atom text]⟩).outcome = .ok fragments ∧
    Evaluates netOf flip fragments
      (unitsOfChars ("(layer ".toList ++ (quotedChars seen.toList ++ [')'])))
  among : ∀ front back other, unquote other = unquote text →
    ∃ fragments,
      (write parent ⟨"layers", (front ++ other :: back).map .atom⟩).outcome = .ok fragments ∧
        Evaluates netOf flip fragments (unitsOfChars ("(layers".toList ++ (entriesChars flip front ++
          (' ' :: quotedChars seen.toList ++ (entriesChars flip back ++ [')'])))))

theorem layersAgree (netOf : String → String) (parent : Option String) (flip : Bool) {text : String}
    (plain : '\r' ∉ (unquote text).toList) :
    LayersAgree netOf parent flip text (seenLayer flip (unquote text)) := by
  have sees := seenAs_seenLayer flip (unquote text)
  refine ⟨sees, evaluates_layer netOf parent flip plain, fun front back other same => ?_⟩
  have entries : entriesChars flip (front ++ other :: back) = entriesChars flip front ++
      (' ' :: quotedChars (seenLayer flip (unquote text)).toList ++ entriesChars flip back) := by
    rw [entriesChars, List.flatMap_append, List.flatMap_cons, same,
      cooked_eq_self (sees.carriage plain)]
    rfl
  have list := evaluates_layers netOf parent flip (front ++ other :: back)
  rw [entries] at list
  simpa only [List.append_assoc] using list

end Layers

end FootprintTemplate.Writer
