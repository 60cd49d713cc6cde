import FootprintTemplate.Proofs.Script.Expression
import FootprintTemplate.Proofs.Writer.Literal

/-! Numbers in the text of a node. Where the source is mirrored or turned, a number of it stands in an
expression of the script, and nothing else of the source does. -/
namespace FootprintTemplate.Writer

open Number (DecimalLiteral Double isAscii isNumber mirroredSigns)
open Script (chosen scriptOf signedNumber turned)
open Sexpr (Item Node)
open Template (Fragment)

section Expressions

/-- The number of the source that a place computes with. -/
def number? : Fragment → Option String
  | .coordinate x => some x
  | .rotation delta => delta
  | _ => none

theorem expression_substitution {netOf : String → String} {fragment : Fragment}
    {chars : List Char} (own : fragment.chars netOf = Fragment.substitution chars) :
    expression netOf fragment = chars := by
  rw [expression, own]
  exact List.dropLast_concat

theorem choice_eq (flipped plain : List Char) :
    Fragment.choice flipped plain = Fragment.substitution (Script.choiceText flipped plain) := by
  have pieces (front colon back : List Char) :
      front ++ flipped ++ colon ++ plain ++ back =
        front ++ (flipped ++ (colon ++ (plain ++ back))) := by
    simp only [List.append_assoc]
  exact congrArg Fragment.substitution (pieces _ _ _)

theorem expression_coordinate (netOf : String → String) (x : String) :
    expression netOf (.coordinate x) =
      Script.choiceText (Number.mirrorChars x.toList) x.toList :=
  expression_substitution (choice_eq _ _)

theorem expression_rotation (netOf : String → String) (delta : String) :
    expression netOf (.rotation (some delta)) = Script.turnedText delta.toList := by
  have pieces (placed plus added percent turn : List Char) :
      '(' :: ('(' :: ('(' :: (placed ++ plus ++ added ++ [')']) ++ percent ++ turn ++ [')']) ++
          plus ++ turn ++ [')']) ++ percent ++ turn =
        '(' :: '(' :: '(' :: (placed ++ (plus ++ (added ++ (')' :: (percent ++ (turn ++
          (')' :: (plus ++ (turn ++ (')' :: (percent ++ turn))))))))))) := by
    simp only [List.append_assoc, List.cons_append, List.nil_append]
  exact expression_substitution
    (congrArg Fragment.substitution (pieces "p.r".toList " + ".toList _ " % ".toList "360".toList))

end Expressions

section Written

/-- A number is a sign before a body, and its mirror image the same body behind other signs. Just where
all is ASCII, the body is a decimal literal, and the expressions that the number is written into are
read by a script, with the number as their operand. -/
structure ScriptNumber (netOf : String → String) (text : String) (sign body : List Char)
    (value : Double) : Prop where
  isSign : sign ∈ [[], ['+'], ['-']]
  spelt : text.toList = sign ++ body
  mirrored : Number.mirrorChars text.toList = mirroredSigns sign ++ body
  literal : DecimalLiteral body ↔ isAscii text.toList = true
  chosen : Script.parse (expression netOf (.coordinate text)) =
    if isAscii text.toList then
      some (scriptOf (chosen (signedNumber (mirroredSigns sign) value) (signedNumber sign value)))
    else none
  turned : Script.parse (expression netOf (.rotation (some text))) =
    if isAscii text.toList then
      some (scriptOf (turned (signedNumber sign value) (.constant (.number Script.fullTurn))))
    else none

theorem scriptNumber (netOf : String → String) {text : String} (number : isNumber text = true) :
    ∃ sign body value, ScriptNumber netOf text sign body value := by
  obtain ⟨literal, read⟩ := Option.isSome_iff_exists.mp number
  have formed := Number.Literal.formed_of_read? read
  obtain ⟨spelt, mirrored⟩ := Number.spelling_of_read? read
  refine ⟨literal.sign.toList, literal.body, literal.magnitude,
    ⟨(Script.sign_cases formed.sign).1, spelt, mirrored, ?_, ?_, ?_⟩⟩
  · rw [Script.isAscii_body read]
    exact ⟨DecimalLiteral.ascii, fun ascii => (formed.ascii ascii).decimalLiteral⟩
  · rw [expression_coordinate]
    exact Script.parse_choice read
  · rw [expression_rotation]
    exact Script.parse_turned read

variable {parent : Option String} {node : Node} {fragments : List Fragment}

theorem met_of_ok (written : (write parent node).outcome = .ok fragments) :
    ∀ expectation ∈ (Rule.select parent node.kind).expected?, expectation.Met node.items := by
  intro expectation expected
  refine Classical.byContradiction fun unmet => ?_
  change (writeItem parent (.node node.kind node.items)).outcome = _ at written
  rw [writeItem_node, compose_unmet expected unmet] at written
  cases written

/-- A coordinate node that can be written holds two numbers; a placement holds two or three before an
atom that is none. Whatever an expression of the text computes with is such a number. And each number,
accepted or not by a script, is signs and digits whose mirror image and expressions are as said. -/
theorem write_numbers (written : (write parent node).outcome = .ok fragments)
    (netOf : String → String) :
    (Rule.select parent node.kind = .xy →
      ∃ x y, node.items = [.atom x, .atom y] ∧ isNumber x = true ∧ isNumber y = true) ∧
    (Rule.select parent node.kind = .at →
      ∃ x y delta flags, node.items = placementItems x y delta flags ∧
        IsPlacement x y delta flags) ∧
    (∀ place ∈ fragments, ∀ text ∈ number? place, isNumber text = true) ∧
    ∀ text, isNumber text = true → ∃ sign body value, ScriptNumber netOf text sign body value := by
  have met := met_of_ok written
  refine ⟨fun rule => ?_, fun rule => ?_, fun place member text holds => ?_,
    fun text => scriptNumber netOf⟩
  · rw [rule] at met
    exact met .twoNumbers rfl
  · rw [rule] at met
    exact met .placement rfl
  · have guarded : Guarded fragments := guarded_node (spaced_items node.kind node.items) written
    have firm (noText : literal? place = none) := guarded.isFirm member noText
    cases place with
    | coordinate x =>
      cases holds
      exact firm rfl
    | rotation delta =>
      cases holds
      exact firm rfl
    | punct | source | faced | mirrorFlag | net => cases holds

/-- A placement with a sign, a fraction and a flag. -/
def signedPlacement : Node :=
  ⟨"at", [.atom "-1.5", .atom "2", .atom "+90", .atom "unlocked"]⟩

theorem write_numbers_signedPlacement :
    ∃ fragments, (write none signedPlacement).outcome = .ok fragments ∧
      fragments.filterMap number? = ["-1.5", "+90"] ∧
      (∀ place ∈ fragments, ∀ text ∈ number? place, isNumber text = true) ∧
      (Script.parse (expression id (.coordinate "-1.5"))).isSome = true ∧
      (Script.parse (expression id (.rotation (some "+90")))).isSome = true := by
  obtain ⟨-, -, numbers, script⟩ := @write_numbers none signedPlacement _ rfl id
  refine ⟨_, rfl, rfl, numbers, ?_, ?_⟩
  · obtain ⟨_, _, _, own⟩ := script "-1.5" (by decide)
    rw [own.chosen]
    rfl
  · obtain ⟨_, _, _, own⟩ := script "+90" (by decide)
    rw [own.turned]
    rfl

/-- A coordinate whose second digit is Arabic. -/
def foreignStart : Node :=
  ⟨"start", [.atom "1٣", .atom "0"]⟩

/-- It is written, and yet it is no decimal literal, and no script reads the expression. -/
theorem write_foreignStart :
    (∃ fragments, (write (some "fp_line") foreignStart).outcome = .ok fragments ∧
      .coordinate "1٣" ∈ fragments) ∧
    (¬∃ sign ∈ [[], ['+'], ['-']], ∃ literal, DecimalLiteral literal ∧
      "1٣".toList = sign ++ literal) ∧
    Script.parse (expression id (.coordinate "1٣")) = none := by
  refine ⟨⟨_, rfl, by decide⟩, ?_, ?_⟩
  · rintro ⟨sign, isSign, literal, decimal, same⟩
    have ascii : ∀ sign ∈ [[], ['+'], ['-']], isAscii sign = true := by decide
    have whole : isAscii "1٣".toList = true := by
      rw [same, Number.isAscii_append, ascii sign isSign, decimal.ascii]
      rfl
    exact absurd whole (by decide)
  · obtain ⟨_, _, _, own⟩ := scriptNumber id (show isNumber "1٣" = true by decide)
    rw [own.chosen]
    rfl

end Written

end FootprintTemplate.Writer
