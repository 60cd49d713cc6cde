import FootprintTemplate.Proofs.Script.Drawn
import FootprintTemplate.Proofs.Script.Statements
import FootprintTemplate.Proofs.Writer.Faced
import FootprintTemplate.Proofs.Writer.Rotation

/-! The places of a template as a script evaluates them. A script reads each place of a written text
as one tree, and the literal of the text as a template of these trees. Each of them has the value
whose text fills the place, and the whole template is the text that it is filled to. -/
namespace FootprintTemplate.Writer

open Number (Literal isAscii isNumber mirroredSigns)
open Script (IsTemplate IsValue Lexed Token Tree chosen isValue_bareChoice isValue_choice
  isValue_chosenText isValue_member isValue_turned manyTokens maxParts memberTree signedNumber)
open Template (Fragment)
open Text (Units units unitsOfChars)

section Trees

/-- A place as a script reads it. -/
def placeTree (netOf : String → String) : Fragment → Tree
  | .punct _ | .source _ => .absent
  | .coordinate x => ((Literal.read? x.toList).map fun literal =>
      chosen (signedNumber (mirroredSigns literal.sign.toList) literal.magnitude)
        (signedNumber literal.sign.toList literal.magnitude)).getD .absent
  | .faced flipped plain => Script.chosenText flipped.toList plain.toList
  | .rotation delta => (Fragment.angle delta).tree
  | .mirrorFlag mirrored => .choice (.name "flip")
      (.constant (.text (unitsOfChars (Fragment.mirrorText !mirrored))))
      (.constant (.text (unitsOfChars (Fragment.mirrorText mirrored))))
  | .net pad => memberTree (unitsOfChars (netOf pad).toList)

variable (netOf : String → String)

/-- A place whose number is in ASCII is read as its tree. -/
theorem isValue_place {fragment : Fragment} (firm : isFirm fragment = true)
    (place : literal? fragment = none) (script : fragment.isScript = true) :
    IsValue (expression netOf fragment) (placeTree netOf fragment) := by
  cases fragment with
  | punct | source => cases place
  | coordinate x =>
    obtain ⟨literal, read⟩ := Option.isSome_iff_exists.mp firm
    have ascii := (Script.isAscii_body read).symm.trans script
    rw [expression_coordinate, placeTree, read]
    exact isValue_choice read ascii
  | faced flipped plain =>
    have own : expression netOf (.faced flipped plain) = _ :=
      expression_substitution (choice_eq _ _)
    rw [own]
    exact isValue_chosenText _ _
  | rotation delta =>
    cases delta with
    | none => exact isValue_member ['r']
    | some delta =>
      obtain ⟨literal, read⟩ := Option.isSome_iff_exists.mp firm
      have ascii := (Script.isAscii_body read).symm.trans script
      have angle : Fragment.angle (some delta) = .turned delta := rfl
      rw [expression_rotation, placeTree, angle, tree_turned read]
      exact isValue_turned read ascii
  | mirrorFlag mirrored =>
    rw [expression_substitution rfl]
    exact isValue_bareChoice _ _
  | net pad =>
    rw [expression_substitution rfl]
    exact isValue_member _

/-- The template that the pieces are, as a script reads it. -/
def literalTree (fragments : List Fragment) : Tree :=
  Script.templateTree (contents netOf fragments) ((places fragments).map (placeTree netOf))

variable {netOf}

/-- The tokens of a template literal, as they stand in a script before some text. -/
structure ReadsLiteral (netOf : String → String) (fragments : List Fragment) (rest : List Char)
    (tokens : List (Token × Bool)) : Prop where
  isTemplate : IsTemplate tokens (literalTree netOf fragments)
  few : tokens.length ≤ (manyTokens + 2) * (places fragments).length + 1
  lexed : ∀ braces, Lexed ⟨braces, false, '\x60' :: (Template.chars netOf fragments ++ '\x60' :: rest)⟩
    tokens ⟨braces, false, rest⟩

theorem length_contents (fragments : List Fragment) :
    (contents netOf fragments).more.length = (places fragments).length := by
  have lengths := congrArg List.length (expressions_contents netOf fragments)
  rwa [List.length_map, List.length_map] at lengths

theorem Guarded.exists_tokens (netOf : String → String) {fragments : List Fragment}
    (guarded : Guarded fragments)
    (script : fragments.all Fragment.isScript = true)
    (few : (places fragments).length < maxParts) (rest : List Char) :
    ∃ tokens, ReadsLiteral netOf fragments rest tokens := by
  have areValues : List.Forall₂ (fun value part => IsValue part.1 value)
      ((places fragments).map (placeTree netOf)) (contents netOf fragments).more := by
    have flipped : List.Forall₂ (fun part value => IsValue part value)
        ((contents netOf fragments).more.map Prod.fst) ((places fragments).map (placeTree netOf)) := by
      rw [expressions_contents, List.forall₂_map_left_iff, List.forall₂_map_right_iff,
        List.forall₂_same]
      intro place member
      obtain ⟨own, isPlace⟩ := List.mem_filter.mp member
      have noText : literal? place = none := by simpa using isPlace
      exact isValue_place netOf (guarded.isFirm own noText) noText (List.all_eq_true.mp script _ own)
    exact (List.forall₂_map_left_iff.mp flipped).flip
  obtain ⟨run, written, final, more, short, lexed, reads⟩ :=
    (guarded.reads netOf rest).reads areValues (by rwa [length_contents])
  rw [length_contents] at short
  exact ⟨_, ⟨⟨_, _, _, _, _, rfl⟩, fun depth => reads depth false⟩, Nat.succ_le_succ short,
    fun braces => lexed braces false⟩

end Trees

end FootprintTemplate.Writer

namespace FootprintTemplate

namespace Number

/-- A number behind its signs. -/
def signed (signs : List Char) (value : Double) : Double :=
  signs.foldr (fun sign value => if sign == '-' then value.negate else value) value

variable {chars rest : List Char} {literal : Literal}

theorem length_mirroredSigns (signs : List Char) :
    (mirroredSigns signs).length ≤ signs.length + 1 := by
  unfold mirroredSigns
  split <;> simp

theorem read?_rest {sign : Option Char} (front : takeSign chars = (sign, rest))
    (unsigned : takeSign rest = (none, rest)) :
    Literal.read? rest = (Literal.read? chars).map fun literal => { literal with sign := none } := by
  simp only [Literal.read?, front, unsigned]
  split
  · rfl
  · rw [Option.map_map]
    rfl

theorem valueOf_body (read : Literal.read? chars = some literal) :
    valueOf literal.body = literal.magnitude := by
  have value {sign : Option Char} (front : takeSign chars = (sign, literal.body))
      (unsigned : takeSign literal.body = (none, literal.body)) :
      valueOf literal.body = literal.magnitude := by
    rw [valueOf_unsigned unsigned, read?_rest front unsigned, read]
    rfl
  have spelt := (spelling_of_read? read).1
  have isSome : (Literal.read? chars).isSome = true := by rw [read]; rfl
  have sign := (Literal.formed_of_read? read).sign
  simp only [List.mem_cons, List.not_mem_nil, or_false] at sign
  obtain none | plus | minus := sign
  · have unsigned := takeSign_of_read? read none
    rw [none] at spelt
    obtain rfl : chars = literal.body := spelt
    exact value unsigned unsigned
  · rw [plus] at spelt
    obtain rfl : chars = '+' :: literal.body := spelt
    exact value rfl (takeSign_rest_of_read? (.inl rfl) isSome)
  · rw [minus] at spelt
    obtain rfl : chars = '-' :: literal.body := spelt
    exact value rfl (takeSign_rest_of_read? (.inr rfl) isSome)

/-- The value of a number and that of its mirror image, by the signs before the same literal. -/
theorem valueOf_of_read? (read : Literal.read? chars = some literal) :
    valueOf chars = signed literal.sign.toList literal.magnitude ∧
      valueOf (mirrorChars chars) =
        signed (mirroredSigns literal.sign.toList) literal.magnitude := by
  obtain ⟨own, mirrored⟩ := spelling_of_read? read
  have body := valueOf_body read
  rw [mirrored]
  have sign := (Literal.formed_of_read? read).sign
  simp only [List.mem_cons, List.not_mem_nil, or_false] at sign
  rw [← body]
  obtain none | plus | minus := sign
  · rw [none] at own ⊢
    exact ⟨congrArg valueOf own, rfl⟩
  · rw [plus] at own ⊢
    have front : valueOf ('+' :: literal.body) = valueOf literal.body := by rw [valueOf]
    exact ⟨(congrArg valueOf own).trans front, rfl⟩
  · rw [minus] at own ⊢
    exact ⟨congrArg valueOf own, rfl⟩

end Number

namespace Script

open Interpreter (machine)
open Number (Double)

variable {store : Store} {scope : Nat} {flip : Bool}

theorem evaluate_number (scope depth : Nat) (n : Double) (store : Store) :
    (machine (depth + 1)).evaluate scope (.constant (.number n)) store = (.ok (.number n), store) :=
  rfl

theorem evaluate_signed (scope : Nat) (store : Store) (signs : List Char) (value : Double) (depth : Nat) :
    (machine (depth + signs.length + 1)).evaluate scope (signedNumber signs value) store =
      (.ok (.number (Number.signed signs value)), store) := by
  induction signs with
  | nil => rfl
  | cons sign rest ih =>
    have tree : signedNumber (sign :: rest) value =
        .unary (if sign == '-' then .minus else .plus) (signedNumber rest value) := rfl
    have number : Number.signed (sign :: rest) value =
        if sign == '-' then (Number.signed rest value).negate else Number.signed rest value := rfl
    rw [tree, number]
    cases sign == '-' with
    | true => exact (bind_ok ih).trans rfl
    | false => exact (bind_ok ih).trans rfl

theorem evaluate_chosen (knows : Knows store scope flip) {flipped plain : Tree}
    {value : Value} {depth : Nat}
    (ran : (machine (depth + 1)).evaluate scope (if flip then flipped else plain) store =
      (.ok value, store)) :
    (machine (depth + 3)).evaluate scope (chosen flipped plain) store = (.ok value, store) := by
  refine (bind_ok (Binds.evaluate knows depth)).trans ?_
  cases flip with
  | true => exact ran
  | false => exact ran

section Turned

open Text (Units units unitsOfChars)

theorem trim_parenthesis (text : Units) : ∃ more, trim (40 :: text) = 40 :: more := by
  have front : trimStart (40 :: text) = 40 :: text := by
    rw [trimStart, List.dropWhile_cons_of_neg (by decide)]
  have last : [(40 : UInt16)].dropWhile (fun u => Regex.isSpace u.toNat) = [40] :=
    List.dropWhile_cons_of_neg (by decide)
  rw [trim, front, trimEnd, trimStart, List.reverse_cons, List.dropWhile_append, last]
  split
  · exact ⟨[], rfl⟩
  · exact ⟨_, List.reverse_append⟩

theorem ofUnits_parenthesis (text : Units) : ∃ more, (Text.ofUnits (40 :: text)).toList = '(' :: more := by
  have point : ∃ others, Text.points (40 :: text) = 40 :: others := by
    cases text with
    | nil => exact ⟨[], rfl⟩
    | cons low rest => exact ⟨Text.points (low :: rest), rfl⟩
  obtain ⟨others, points⟩ := point
  rw [Text.ofUnits, points, String.toList_ofList]
  exact ⟨_, rfl⟩

/-- A text after a parenthesis is no number. -/
theorem textNumber_parenthesis (text : Units) : textNumber (40 :: text) = .nan := by
  obtain ⟨more, trimmed⟩ := trim_parenthesis text
  obtain ⟨chars, shown⟩ := ofUnits_parenthesis more
  rw [textNumber, trimmed, shown]
  rfl

theorem evaluate_binary {op : BinaryOp} {left right : Tree} {a b : Value} {depth : Nat}
    (first : (machine (depth + 1)).evaluate scope left store = (.ok a, store))
    (second : (machine (depth + 1)).evaluate scope right store = (.ok b, store)) :
    (machine (depth + 2)).evaluate scope (.binary op left right) store =
      Operators.apply (machine (depth + 1)) op a b store :=
  (bind_ok first).trans (bind_ok second)

theorem evaluate_enclosed {inner : Tree} {result : Except Stop Value × Store} {depth : Nat}
    (ran : (machine depth).evaluate scope inner store = result) :
    (machine (depth + 1)).evaluate scope (.enclosed inner) store = result :=
  ran

variable {first sum : Value} {delta : Tree} {d n t : Double} {depth : Nat}

/-- Once the two rotations are added, what is left of whole turns is a number. -/
theorem evaluate_turned
    (placed : (machine (depth + 2)).evaluate scope (memberTree (units "r")) store =
      (.ok first, store))
    (added : (machine (depth + 2)).evaluate scope delta store = (.ok (.number d), store))
    (sums : Operators.apply (machine (depth + 2)) .add first (.number d) store = (.ok sum, store))
    (left : Operators.apply (machine (depth + 4)) .rem sum (.number t) store =
      (.ok (.number n), store)) :
    (machine (depth + 9)).evaluate scope (turned delta (.constant (.number t))) store =
      (.ok (.number ((n.add t).rem t)), store) := by
  let inner : Tree := .binary .add (memberTree (units "r")) delta
  have one : (machine (depth + 4)).evaluate scope (.enclosed inner) store = (.ok sum, store) :=
    evaluate_enclosed ((evaluate_binary placed added).trans sums)
  have two : (machine (depth + 6)).evaluate scope
      (.enclosed (.binary .rem (.enclosed inner) (.constant (.number t)))) store =
        (.ok (.number n), store) :=
    evaluate_enclosed ((evaluate_binary one (evaluate_number scope (depth + 3) t store)).trans left)
  have three : (machine (depth + 8)).evaluate scope
      (.enclosed (.binary .add (.enclosed (.binary .rem (.enclosed inner) (.constant (.number t))))
        (.constant (.number t)))) store = (.ok (.number (n.add t)), store) :=
    evaluate_enclosed (evaluate_binary two (evaluate_number scope (depth + 5) t store))
  exact evaluate_binary three (evaluate_number scope (depth + 7) t store)

/-- A net in the place of the rotation is no number, whatever is added to it. -/
theorem apply_label {id : Nat} {rest : List Char} (equipped : Equipped store)
    (label : IsLabel store id (unitsOfChars ('(' :: rest))) :
    ∃ sum, Operators.apply (machine (depth + 1)) .add (.object id) (.number d) store =
        (.ok sum, store) ∧
      Operators.apply (machine (depth + 3)) .rem sum (.number t) store =
        (.ok (.number .nan), store) := by
  refine ⟨.text (unitsOfChars ('(' :: rest) ++ numberText d), ?_, ?_⟩
  · exact (bind_ok (toPlain_label equipped depth label .default)).trans rfl
  · have none : textNumber (unitsOfChars ('(' :: rest) ++ numberText d) = .nan := by
      rw [Text.unitsOfChars_cons, List.append_assoc]
      exact textNumber_parenthesis _
    have numeric : Coerce.toNumeric (machine (depth + 3))
        (.text (unitsOfChars ('(' :: rest) ++ numberText d)) store = (.ok (.inl .nan), store) := by
      rw [← none]
      rfl
    exact (bind_ok numeric).trans rfl

end Turned

end Script

namespace Writer

open Number (Double Literal isAscii)
open Script (Adds Binds Equipped HasValue IsLabel Knows Lacks Shown Store Tree Value memberTree)
open Script.Interpreter (machine)
open Template (Filling Fragment)
open Text (Units units unitsOfChars)

section Places

variable {store : Store} {scope place : Nat} {filling : Filling} {netOf : String → String}

/-- What a placement gives for a name is shown as this text. -/
def ShowsNet (store : Store) (place : Nat) (name : String) (text : Units) : Prop :=
  (∃ value, HasValue store place (.ofString name) value ∧ Shown store value text) ∨
    (name = "__proto__" ∧ Lacks store place (.ofString name) (some Script.Origin.object.id) ∧
      text = units "[object Object]")

/-- What a placement gives as its rotation: a number, or a net that is shown behind a parenthesis. -/
def Turns (store : Store) (place : Nat) : Double ⊕ List Char → Prop
  | .inl n => HasValue store place (.ofString "r") (.number n)
  | .inr text => ∃ id rest, HasValue store place (.ofString "r") (.object id) ∧
      IsLabel store id (unitsOfChars text) ∧ text = '(' :: rest

/-- A script in which the places of a template are filled this way. -/
structure Supplies (netOf : String → String) (store : Store) (scope place : Nat) (filling : Filling)
    (fragments : List Fragment) : Prop where
  equipped : Equipped store
  placement : Binds store scope "p" (.object place)
  face : Knows store scope filling.flip
  rotation : Turns store place filling.rotation
  nets : ∀ pad, .net pad ∈ fragments →
    ShowsNet store place (netOf pad) (unitsOfChars (filling.net pad))

/-- An expression has a value that is shown as this text. -/
def Yields (store : Store) (scope depth : Nat) (tree : Tree) (text : Units) : Prop :=
  ∃ value, (machine depth).evaluate scope tree store = (.ok value, store) ∧ Shown store value text

variable {fragments : List Fragment}

theorem evaluate_coordinate (knows : Knows store scope filling.flip) {x : String}
    (firm : isFirm (.coordinate x) = true) (depth : Nat) :
    Yields store scope (depth + 12) (placeTree netOf (.coordinate x))
      (unitsOfChars ((Fragment.coordinate x).fill filling)) := by
  obtain ⟨literal, read⟩ := Option.isSome_iff_exists.mp firm
  obtain ⟨own, mirrored⟩ := Number.valueOf_of_read? read
  have tree : placeTree netOf (.coordinate x) =
      Script.chosen (Script.signedNumber (Number.mirroredSigns literal.sign.toList) literal.magnitude)
        (Script.signedNumber literal.sign.toList literal.magnitude) := by
    rw [placeTree, read]
    rfl
  let signs := if filling.flip then Number.mirroredSigns literal.sign.toList
    else literal.sign.toList
  have few : signs.length ≤ 2 := by
    have one : literal.sign.toList.length ≤ 1 := by cases literal.sign <;> simp
    have two := Number.length_mirroredSigns literal.sign.toList
    unfold signs
    split <;> omega
  have ran := Script.evaluate_signed scope store signs literal.magnitude
    (depth + 9 - signs.length)
  rw [show depth + 9 - signs.length + signs.length + 1 = depth + 9 + 1 by omega] at ran
  have value : Number.valueOf (if filling.flip then Number.mirrorChars x.toList else x.toList) =
      Number.signed signs literal.magnitude := by
    unfold signs
    split
    · exact mirrored
    · exact own
  refine ⟨.number (Number.signed signs literal.magnitude), ?_, ?_⟩
  · rw [tree]
    have same : (if filling.flip then
        Script.signedNumber (Number.mirroredSigns literal.sign.toList) literal.magnitude
        else Script.signedNumber literal.sign.toList literal.magnitude) =
          Script.signedNumber signs literal.magnitude := by
      unfold signs
      split <;> rfl
    exact Script.evaluate_chosen knows (by rw [same]; exact ran)
  · rw [← value]
    exact .number _

theorem evaluate_faced (knows : Knows store scope filling.flip) (flipped plain : String)
    (depth : Nat) : Yields store scope (depth + 12) (placeTree netOf (.faced flipped plain))
      (unitsOfChars ((Fragment.faced flipped plain).fill filling)) := by
  refine ⟨_, Script.evaluate_chosenText knows flipped.toList plain.toList (depth + 9), ?_⟩
  have value : (Fragment.faced flipped plain).fill filling =
      if filling.flip then flipped.toList else plain.toList := rfl
  rw [value]
  exact .text _

theorem evaluate_mirrorFlag (knows : Knows store scope filling.flip) (mirrored : Bool)
    (depth : Nat) : Yields store scope (depth + 12) (placeTree netOf (.mirrorFlag mirrored))
      (unitsOfChars ((Fragment.mirrorFlag mirrored).fill filling)) := by
  refine ⟨.text (unitsOfChars ((Fragment.mirrorFlag mirrored).fill filling)), ?_, .text _⟩
  refine (Script.bind_ok (Binds.evaluate knows (depth + 10))).trans ?_
  rw [Fragment.fill]
  cases filling.flip <;> cases mirrored <;> rfl

/-- A name of the placement is read as what the placement gives for it. -/
theorem evaluate_name (equipped : Equipped store) (placement : Binds store scope "p" (.object place))
    {name : String} {text : Units} (shows : ShowsNet store place name text) (depth : Nat) :
    Yields store scope (depth + 12) (memberTree (units name)) text := by
  obtain ⟨value, has, shown⟩ | ⟨rfl, lacks, rfl⟩ := shows
  · exact ⟨value, Script.evaluate_own (placement.evaluate (depth + 10)) has, shown⟩
  · refine ⟨_, Script.evaluate_member (placement.evaluate (depth + 10)) ?_, .base⟩
    obtain ⟨getter, setter, enumerable, configurable, holds, native⟩ := equipped.baseOf
    change Script.Member.getWithin _ (9998 + 1 + 1) place (.ofString "__proto__") _ _ = _
    rw [lacks.get_base, holds.get_computed, Script.call_native native rfl]
    exact (Script.bind_ok lacks.prototype).trans rfl

theorem evaluate_placedRotation (placement : Binds store scope "p" (.object place))
    (turns : Turns store place filling.rotation) (depth : Nat) :
    Yields store scope (depth + 12) (placeTree netOf (.rotation none))
      (unitsOfChars ((Fragment.rotation none).fill filling)) := by
  unfold Fragment.fill
  cases rotation : filling.rotation with
  | inl n =>
    rw [rotation] at turns
    exact ⟨_, Script.evaluate_own (placement.evaluate (depth + 10)) turns, .number n⟩
  | inr text =>
    rw [rotation] at turns
    obtain ⟨id, rest, has, label, -⟩ := turns
    exact ⟨_, Script.evaluate_own (placement.evaluate (depth + 10)) has, .label label⟩

theorem valueOf_fullTurn : Number.valueOf "360".toList = Script.fullTurn :=
  rfl

theorem evaluate_turnedRotation (equipped : Equipped store)
    (placement : Binds store scope "p" (.object place)) (turns : Turns store place filling.rotation)
    {delta : String} (firm : isFirm (.rotation (some delta)) = true) (depth : Nat) :
    Yields store scope (depth + 12) (placeTree netOf (.rotation (some delta)))
      (unitsOfChars ((Fragment.rotation (some delta)).fill filling)) := by
  obtain ⟨literal, read⟩ := Option.isSome_iff_exists.mp firm
  have few : literal.sign.toList.length ≤ 1 := by cases literal.sign <;> simp
  have added := Script.evaluate_signed scope store literal.sign.toList
    literal.magnitude (depth + 4 - literal.sign.toList.length)
  rw [show depth + 4 - literal.sign.toList.length + literal.sign.toList.length + 1 =
    depth + 3 + 2 by omega, ← (Number.valueOf_of_read? read).1] at added
  have tree : placeTree netOf (.rotation (some delta)) =
      Script.turned (Script.signedNumber literal.sign.toList literal.magnitude)
        (.constant (.number Script.fullTurn)) := tree_turned read
  rw [tree]
  unfold Fragment.fill
  cases rotation : filling.rotation with
  | inl n =>
    rw [rotation] at turns
    have placed := Script.evaluate_own (placement.evaluate (depth + 3)) turns
    refine ⟨_, Script.evaluate_turned placed added rfl rfl, ?_⟩
    rw [← valueOf_fullTurn]
    exact .number _
  | inr text =>
    rw [rotation] at turns
    obtain ⟨id, rest, has, label, rfl⟩ := turns
    have placed := Script.evaluate_own (placement.evaluate (depth + 3)) has
    obtain ⟨sum, adds, left⟩ := Script.apply_label equipped label
    exact ⟨_, Script.evaluate_turned placed added adds left, .number _⟩

/-- Every place has a value whose text is what the place is filled with. -/
theorem evaluate_place (supplies : Supplies netOf store scope place filling fragments)
    {fragment : Fragment} (member : fragment ∈ fragments) (isPlace : literal? fragment = none)
    (firm : isFirm fragment = true) (depth : Nat) :
    Yields store scope (depth + 12) (placeTree netOf fragment)
      (unitsOfChars (fragment.fill filling)) := by
  cases fragment with
  | punct | source => cases isPlace
  | coordinate x => exact evaluate_coordinate supplies.face firm depth
  | faced flipped plain => exact evaluate_faced supplies.face flipped plain depth
  | rotation delta =>
    cases delta with
    | none => exact evaluate_placedRotation supplies.placement supplies.rotation depth
    | some delta =>
      exact evaluate_turnedRotation supplies.equipped supplies.placement supplies.rotation firm depth
  | mirrorFlag mirrored => exact evaluate_mirrorFlag supplies.face mirrored depth
  | net pad =>
    have shows := supplies.nets pad member
    have named : unitsOfChars (netOf pad).toList = units (netOf pad) := rfl
    exact evaluate_name supplies.equipped supplies.placement shows depth

theorem evaluate_stretches (equipped : Equipped store) {depth : Nat} {trees : List Tree}
    {texts : List Units} (yields : List.Forall₂ (Yields store scope (depth + 1)) trees texts)
    (more : List (List Char × Units)) :
    Script.Evaluate.stretches (machine (depth + 1)) scope
      ((trees.zip more).map fun (value, part) => .stretch value part.2) store =
        (.ok ((more.zip texts).flatMap fun (part, value) => value ++ part.2), store) := by
  induction yields generalizing more with
  | nil => cases more <;> rfl
  | @cons tree text trees texts one _ ih =>
    cases more with
    | nil => rfl
    | cons part more =>
      obtain ⟨value, ran, shown⟩ := one
      refine (Script.bind_ok ran).trans ?_
      refine (Script.bind_ok (shown.toText equipped depth)).trans ?_
      refine (Script.bind_ok (ih more)).trans ?_
      rfl

/-- A template literal is the text that its pieces are filled to. -/
theorem evaluate_literal (supplies : Supplies netOf store scope place filling fragments)
    (guarded : Guarded fragments) (depth : Nat) :
    (machine (depth + 13)).evaluate scope (literalTree netOf fragments) store =
      (.ok (.text (unitsOfChars (Template.fill filling fragments))), store) := by
  have yields : List.Forall₂ (Yields store scope (depth + 12))
      ((places fragments).map (placeTree netOf))
      ((places fragments).map fun fragment => unitsOfChars (fragment.fill filling)) := by
    rw [List.forall₂_map_left_iff, List.forall₂_map_right_iff, List.forall₂_same]
    intro fragment member
    obtain ⟨own, isPlace⟩ := List.mem_filter.mp member
    have noText : literal? fragment = none := by simpa using isPlace
    exact evaluate_place supplies own noText (guarded.isFirm own noText) depth
  have stretches := evaluate_stretches supplies.equipped yields (contents netOf fragments).more
  rw [← filled_contents netOf filling fragments]
  exact (Script.bind_ok stretches).trans rfl

end Places

end Writer

end FootprintTemplate
