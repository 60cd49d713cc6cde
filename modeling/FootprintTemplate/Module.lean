import FootprintTemplate.Layer
import FootprintTemplate.Script.Literal
import FootprintTemplate.Script.Quoted
import FootprintTemplate.Template.Fragment

/-! Footprint modules. A module declares its nets and builds the text of the footprint when it is
placed. It can be written out as a script, or filled in directly. -/
namespace FootprintTemplate

open Template (Fragment Filling)

/-- One line of the footprint's text. A disabled one is written as a comment. -/
structure Statement where
  disabled : Bool
  fragments : List Fragment
deriving DecidableEq, Repr

/-- Statements under a heading. An empty heading is not written. -/
structure Section where
  label : String
  statements : List Statement
deriving DecidableEq, Repr

structure Module where
  designator : String
  /-- The side on which the footprint was drawn. -/
  side : Side
  nets : List String
  header : List Fragment
  /-- The layer of the footprint itself. -/
  layer : Option Statement
  sections : List Section
deriving DecidableEq, Repr

namespace Script

/-- The lines of a text with their ends. -/
def splitLines : List Char → List (List Char)
  | [] => []
  | c :: rest =>
    if isLineEnd c then [c] :: splitLines rest
    else match splitLines rest with
      | [] => [[c]]
      | line :: lines => (c :: line) :: lines

theorem flatten_splitLines (text : List Char) : (splitLines text).flatten = text := by
  fun_induction splitLines text with
  | case1 => rfl
  | case2 c rest hc ih => exact congrArg (c :: ·) ih
  | case3 c rest hc h ih => rw [h] at ih; exact congrArg (c :: ·) ih
  | case4 c rest hc line lines h ih => rw [h] at ih; exact congrArg (c :: ·) ih

/-- The text with each of its lines in a comment of its own. -/
def commentOut (text : List Char) : List Char :=
  ((splitLines text).flatMap fun line => '/' :: '/' :: ' ' :: line) ++
    (if text.getLast?.any isLineEnd then [] else ['\n'])

end Script

namespace Statement

def call (netOf : String → String) (fragments : List Fragment) : List Char :=
  "fp.push(\x60".toList ++ Template.chars netOf fragments ++ "\x60);".toList

/-- The call hands over one template literal. -/
theorem call_eq_template (netOf : String → String) (fragments : List Fragment) :
    call netOf fragments = "fp.push(".toList ++
      '\x60' :: (Template.chars netOf fragments ++ '\x60' :: ");".toList) := by
  change ("fp.push(".toList ++ ['\x60']) ++ _ ++ ('\x60' :: ");".toList) = _
  generalize "fp.push(".toList = front
  generalize ");".toList = back
  simp only [List.append_assoc, List.cons_append, List.nil_append]

def code (netOf : String → String) (statement : Statement) : List Char :=
  let call := call netOf statement.fragments
  if statement.disabled then Script.commentOut call else call ++ ['\n']

/-- The line that a statement adds to the footprint. -/
def lines (filling : Filling) (statement : Statement) : List (List Char) :=
  if statement.disabled then [] else [Template.fill filling statement.fragments]

def isScript (statement : Statement) : Bool :=
  statement.disabled || statement.fragments.all Fragment.isScript

end Statement

namespace Section

def heading (label : String) : List Char :=
  if label == "" then [] else "// ".toList ++ label.toList ++ ['\n']

def code (netOf : String → String) (part : Section) : List Char :=
  '\n' :: (heading part.label ++ part.statements.flatMap (Statement.code netOf))

/-- What stands outside the comment of the heading, after its first line end. -/
def overflow (part : Section) : List Char :=
  ((Script.splitLines part.label.toList).drop 1).flatten

end Section

namespace Module

def flipLine (side : Side) : List Char :=
  "const flip = p.side === \"".toList ++ side.opposite.letter.toList ++ "\";\n".toList

def sideLine (side : Side) : List Char :=
  "if (!flip && p.side !== \"".toList ++ side.letter.toList ++
    "\") throw new Error('unsupported side: ' + p.side);\n\n".toList

def statements (m : Module) : List Statement :=
  m.layer.toList ++ m.sections.flatMap Section.statements

def body (m : Module) (netOf : String → String) : List Char :=
  flipLine m.side ++ sideLine m.side ++
    Statement.call netOf m.header ++ "\nfp.push(p.at);\n".toList ++
    m.layer.toList.flatMap (Statement.code netOf) ++ m.sections.flatMap (Section.code netOf)

def dropTrailing (c : Char) (chars : List Char) : List Char :=
  (chars.reverse.dropWhile (· == c)).reverse

/-- The declaration of a net with the script text of its default. -/
def declaration (net : String) (default : List Char) : List Char :=
  "    ".toList ++ Script.propertyKey net.toList ++
    ": \x7b type: 'net', value: ".toList ++ default ++ " \x7d,\n".toList

/-- The module as a script in which every net has a default. -/
def codeWith (m : Module) (netOf : String → String) (default : String → List Char) : String :=
  String.ofList <|
    "module.exports = \x7b\n  params: \x7b\n    designator: ".toList ++
    Script.singleQuoted m.designator.toList ++
    ",\n    side: '".toList ++ m.side.letter.toList ++ "',\n".toList ++
    m.nets.flatMap (fun net => declaration net (default net)) ++
    "  \x7d,\n  body: p => \x7b\n    const fp = [];\n    ".toList ++
    dropTrailing '\n' (m.body netOf) ++
    "\n    fp.push(')');\n    return fp.join('\\n');\n  \x7d\n\x7d\n".toList

def code (m : Module) (netOf : String → String) : String :=
  m.codeWith netOf fun _ => "undefined".toList

/-- Nothing stands outside the comments of headings. -/
def isEnclosed (m : Module) : Bool :=
  m.sections.all (·.overflow.isEmpty)

/-- The script can be loaded. Line ends in the designator would break its literal. -/
def isScript (m : Module) : Bool :=
  m.designator.toList.all (fun c => c != '\n' && c != '\r') &&
    m.header.all Fragment.isScript && m.statements.all Statement.isScript

/-- The text of the placed footprint; the second line says where it is placed. -/
def fill (m : Module) (place : List Char) (filling : Filling) : List Char :=
  Text.join '\n' (Template.fill filling m.header :: place ::
    (m.statements.flatMap (Statement.lines filling) ++ [[')']]))

end Module

end FootprintTemplate
