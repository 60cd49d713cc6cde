import FootprintTemplate.Proofs.Nets
import FootprintTemplate.Proofs.Preview.Record
import FootprintTemplate.Proofs.Preview.Remarks
import FootprintTemplate.Proofs.Writer.Faced

/-! Texts of a module between quotes. Double quotes keep every text; single quotes keep one unless a
line ends in it, and then no script reads the module. -/
namespace FootprintTemplate

namespace Script

section Literals

/-- The text of one string literal, whatever follows it. Its value is the given text. -/
def Spells (literal : List Char) (text : String) : Prop :=
  ∃ value exact, Text.ofUnits? value = some text ∧
    ∀ rest, readToken (literal ++ rest) = (.text value exact false, rest)

theorem ofUnits?_chars (text : String) : Text.ofUnits? (Text.unitsOfChars text.toList) = some text :=
  Text.ofUnits?_units text

theorem spells_stringLiteral (text : String) : Spells (stringLiteral text.toList) text := by
  obtain ⟨exact, read⟩ := readToken_stringLiteral text.toList
  exact ⟨_, exact, ofUnits?_chars text, read⟩

/-- Where a line ends in the text, nothing after it is a token either. -/
def Breaks (literal : List Char) : Prop :=
  ∀ rest, readToken (literal ++ rest) = (.broken, [])

theorem Breaks.not_spells {literal : List Char} (breaks : Breaks literal) (text : String) :
    ¬Spells literal text := by
  rintro ⟨value, exact, -, read⟩
  cases (breaks []).symm.trans (read [])

theorem spells_singleQuoted {text : String} (unbroken : isUnbroken text.toList = true) :
    Spells (singleQuoted text.toList) text := by
  obtain ⟨exact, read⟩ := readToken_singleQuoted text.toList
  exact ⟨_, exact, ofUnits?_chars text, fun rest => (read rest).2.trans (if_pos unbroken)⟩

theorem breaks_singleQuoted {text : List Char} (broken : isUnbroken text = false) :
    Breaks (singleQuoted text) := by
  obtain ⟨exact, read⟩ := readToken_singleQuoted text
  exact fun rest => (read rest).2.trans (if_neg (by simp [broken]))

end Literals

end Script

open Preview (ReadsMember ReadsValue)
open Script (Alike Breaks Spells Token isUnbroken)
open Sexpr (Node)

section Designator

/-- The line of the designator is a member with its text, whatever follows it. -/
def DeclaresDesignator (designator : String) : Prop :=
  ∀ rest, ReadsMember ReadsValue (designatorLine designator ++ rest)
    ("designator", some (.text designator)) (',' :: rest)

theorem declaresDesignator {designator : String} (unbroken : isUnbroken designator.toList = true) :
    DeclaresDesignator designator := by
  intro rest
  have pieces {front indent name : List Char} (split : front = indent ++ (name ++ [':', ' ']))
      (literal : List Char) : front ++ literal ++ [','] ++ rest =
        indent ++ (name ++ ':' :: ' ' :: (literal ++ ',' :: rest)) := by
    rw [split]
    simp only [List.append_assoc, List.cons_append, List.nil_append]
  have line : designatorLine designator ++ rest = _ := pieces
    (by decide : _ = [' ', ' ', ' ', ' '] ++ ("designator".toList ++ [':', ' '])) _
  rw [line]
  exact Preview.readsMember_singleQuoted (by simp) "designator" rfl unbroken _

/-- With a line end in its designator, a module is no script, whatever else it holds. -/
theorem parse_broken {m : Module} (broken : isUnbroken m.designator.toList = false)
    (netOf : String → String) (default : String → List Char) :
    Script.parse (Preview.Session.wrapped (m.codeWith netOf default)).toList = none := by
  have short : (Script.parse
      (wrapping ++ beforeDesignator ++ (Script.singleQuoted ['\n'] ++ []))).isNone = true := by
    -- A script is read faster as characters than out of the texts it is put together from.
    unfold wrapping beforeDesignator
    simp only [String.reduceToList, List.cons_append, List.nil_append]
    decide +kernel
  rw [toList_wrapped, wrapping_opening, ← Option.isNone_iff_eq_none.mp short]
  refine Script.parse_congr (Alike.code ?_ (.cons (by decide) _) (.cons (by decide) _)
    bracesAfter_beforeDesignator)
  obtain ⟨exact, read⟩ := Script.readToken_singleQuoted m.designator.toList
  obtain ⟨other, readToo⟩ := Script.readToken_singleQuoted ['\n']
  exact .broken (read _).1 (readToo _).1 (Script.breaks_singleQuoted broken _)
    (Script.breaks_singleQuoted rfl _)

theorem load_broken {conversion : Conversion}
    (broken : isUnbroken conversion.written.designator.toList = false)
    (defaults : List (String × String)) :
    Preview.load conversion defaults = .error .invalidScript := by
  have noScript : conversion.written.isScript = false := by
    rw [Module.isScript, Bool.and_assoc]
    exact Bool.and_eq_false_imp.mpr fun unbroken => absurd (broken.symm.trans unbroken) (by decide)
  have noSession (default : String → List Char) : Preview.Session.load
      (conversion.written.codeWith conversion.namer.netOf default) = .error .invalidScript := by
    have noProgram := parse_broken broken conversion.namer.netOf default
    unfold Preview.Session.load
    rw [noProgram]
  unfold Preview.load
  split
  · rw [Preview.loadScript, noSession]
    rfl
  · rw [noScript]
    rfl

end Designator

section Conversion

open Template (Fragment)
open Writer (HasText expression)

variable {config : Config} {footprint : Node} {conversion : Conversion}

/-- The designator has a line of its own at the start of the parameters. -/
theorem code_designator (conversion : Conversion) : ∃ rest, conversion.code.toList =
    ended ["module.exports = \x7b".toList, "  params: \x7b".toList] ++
      (designatorLine conversion.written.designator ++ '\n' :: rest) := by
  have pieces (first second line : List Char) (others : List (List Char)) (rest : List Char) :
      ended (first :: second :: line :: others) ++ rest =
        ended [first, second] ++ (line ++ '\n' :: (ended others ++ rest)) := by
    simp [ended]
  have whole := toList_code conversion.written conversion.namer.netOf
  rw [← ended_frontLines] at whole
  exact ⟨_, whole.trans (pieces _ _ _ _ _)⟩

/-- The name of a member in the block of the nets is read as this name, whatever follows it. -/
def ReadsKey (name : String) : Prop :=
  ∃ key : Token, key.member? = some name ∧ key ∉ [.finish, .broken] ∧ ∀ rest,
    Script.EndsName rest → Script.readToken (Script.propertyKey name.toList ++ rest) = (key, rest)

theorem readsKey (name : String) : ReadsKey name := by
  obtain ⟨key, own, proper, read⟩ := Script.readToken_propertyKey name.toList
  rw [String.ofList_toList] at own
  exact ⟨key, own, proper, fun rest ends => (read rest ends).1⟩

/-- Whatever it holds, a text in double quotes is one literal with this text as its value, and so is a
text in single quotes without line ends. So the designator of a configuration is declared as it is, or
the module is never loaded; a layer that a script chooses by the face, and the nets of the parameters
and of the pads, are read as they were named. -/
theorem convert_literals (converted : convert config footprint = .ok conversion) :
    (∀ text : String, Spells (Script.stringLiteral text.toList) text) ∧
    (∀ text : String, if isUnbroken text.toList then Spells (Script.singleQuoted text.toList) text
      else Breaks (Script.singleQuoted text.toList)) ∧
    (∃ rest, conversion.code.toList =
      ended ["module.exports = \x7b".toList, "  params: \x7b".toList] ++
        (designatorLine config.designator ++ '\n' :: rest)) ∧
    (if isUnbroken config.designator.toList then DeclaresDesignator config.designator
      else ∀ defaults, Preview.load conversion defaults = .error .invalidScript) ∧
    (∀ flipped plain flip, HasText flip
      (expression conversion.namer.netOf (.faced flipped plain))
      (Text.units (if flip then flipped else plain))) ∧
    (∀ net, ReadsKey net) ∧ ∀ pad, ReadsNet conversion pad (conversion.namer.netOf pad) := by
  obtain ⟨-, layer, sections, ok, rfl⟩ := convert_eq_ok.mp converted
  refine ⟨Script.spells_stringLiteral, fun text => ?_, code_designator _, ?_,
    fun flipped plain flip => ?_, readsKey, readsNet_netOf _⟩
  · cases unbroken : isUnbroken text.toList with
    | true => exact Script.spells_singleQuoted unbroken
    | false => exact Script.breaks_singleQuoted unbroken
  · cases unbroken : isUnbroken config.designator.toList with
    | true => exact declaresDesignator unbroken
    | false => exact load_broken unbroken
  · have text := Writer.hasText_faced (namerOf config footprint).netOf
      ⟨flip, .inr [], fun _ => []⟩ flipped plain
    cases flip <;> exact text

/-- A designator with a quote, and a backslash at its end. -/
def quotedDesignator : Config where
  designator := "R'\\"

def bareFootprint : Node :=
  ⟨"footprint", [.atom "a"]⟩

theorem convert_literals_quotedDesignator :
    ∃ conversion, convert quotedDesignator bareFootprint = .ok conversion ∧
      Script.singleQuoted quotedDesignator.designator.toList = "'R\\'\\\\'".toList ∧
      Spells "'R\\'\\\\'".toList "R'\\" ∧ DeclaresDesignator "R'\\" := by
  obtain ⟨conversion, converted⟩ : ∃ conversion,
      convert quotedDesignator bareFootprint = .ok conversion :=
    ⟨_, convert_eq_ok.mpr ⟨.inl rfl, _, _, rfl, rfl⟩⟩
  obtain ⟨-, spells, -, declares, -⟩ := convert_literals converted
  exact ⟨conversion, converted, by decide, spells "R'\\", declares⟩

/-- A designator that ends in a line feed is quoted to no literal, and its module is not read. -/
theorem convert_brokenDesignator :
    ∃ conversion, convert { designator := "R\n" } bareFootprint = .ok conversion ∧
      ¬Spells (Script.singleQuoted "R\n".toList) "R\n" ∧
      Preview.load conversion [] = .error .invalidScript := by
  have broken : isUnbroken "R\n".toList = false := by decide
  exact ⟨_, convert_eq_ok.mpr ⟨.inl rfl, _, _, rfl, rfl⟩,
    (Script.breaks_singleQuoted broken).not_spells _, load_broken broken []⟩

end Conversion

end FootprintTemplate
