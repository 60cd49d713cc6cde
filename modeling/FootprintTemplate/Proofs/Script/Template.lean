import FootprintTemplate.Proofs.Script.Lexing
import FootprintTemplate.Proofs.Script.Literal

/-! Template literals that are read back. Text that is escaped for a template is read as itself, and
a substitution ends at the brace that closes it. -/
namespace FootprintTemplate.Script

open Text (Units unitsOfChars unitsOfPoint)

section Reading

/-- A stretch of a template starts the text, read with any fuel that is enough. -/
def StartsStretch (chars : List Char) (stretch : Stretch) : Prop :=
  ∀ fuel, chars.length < fuel → readStretch? fuel chars = some stretch

theorem StartsStretch.unique {chars : List Char} {first second : Stretch}
    (one : StartsStretch chars first) (other : StartsStretch chars second) : first = second := by
  have same := one _ (Nat.lt_succ_self _)
  rw [other _ (Nat.lt_succ_self _)] at same
  exact (Option.some.inj same).symm

/-- Opens and closes nothing in an expression. -/
def isNeutral (c : Char) : Bool :=
  !(['\x7b', '\x7d', '"', '\x27', '\x60', '/'].contains c)

/-- A text, up to the brace that closes the substitution in which it starts, and what follows this
brace. So many further braces are open at the start. Strings are passed whole; texts that hold a
template, a comment or a pattern are not read. -/
inductive Closes : Nat → List Char → List Char → Prop where
  | last (rest : List Char) : Closes 0 ('\x7d' :: rest) rest
  | closing {depth : Nat} {chars rest : List Char} (more : Closes depth chars rest) :
      Closes (depth + 1) ('\x7d' :: chars) rest
  | opening {depth : Nat} {chars rest : List Char} (more : Closes (depth + 1) chars rest) :
      Closes depth ('\x7b' :: chars) rest
  | string {quote : Char} {depth : Nat} {chars rest : List Char} {text : Quoted}
      (isQuote : quote ∈ ['"', '\x27'])
      (read : readQuoted? quote (chars.length + 1) chars = some text)
      (more : Closes depth text.rest rest) : Closes depth (quote :: chars) rest
  | plain {c : Char} {depth : Nat} {chars rest : List Char}
      (neutral : isNeutral c = true) (more : Closes depth chars rest) :
      Closes depth (c :: chars) rest

theorem Closes.unique {depth : Nat} {chars first second : List Char}
    (one : Closes depth chars first) (another : Closes depth chars second) : first = second := by
  have not_neutral {quote : Char} (isQuote : quote ∈ ['"', '\x27']) : ¬ isNeutral quote = true := by
    simp only [List.mem_cons, List.not_mem_nil, or_false] at isQuote
    obtain rfl | rfl := isQuote <;> decide
  induction one with
  | last =>
    cases another with
    | last => rfl
    | string isQuote => exact absurd isQuote (by decide)
    | plain neutral => exact absurd neutral (by decide)
  | closing _ ih =>
    cases another with
    | closing more => exact ih more
    | string isQuote => exact absurd isQuote (by decide)
    | plain neutral => exact absurd neutral (by decide)
  | opening _ ih =>
    cases another with
    | opening more => exact ih more
    | string isQuote => exact absurd isQuote (by decide)
    | plain neutral => exact absurd neutral (by decide)
  | string isQuote read _ ih =>
    cases another with
    | last | closing | opening => exact absurd isQuote (by decide)
    | string _ again more =>
      cases Option.some.inj (read.symm.trans again)
      exact ih more
    | plain neutral => exact absurd neutral (not_neutral isQuote)
  | plain neutral _ ih =>
    cases another with
    | last | closing | opening => exact absurd neutral (by decide)
    | string isQuote => exact absurd neutral (not_neutral isQuote)
    | plain _ more => exact ih more

/-- What a template literal holds: a run of text, and substitutions with the runs that follow them. -/
structure Contents where
  run : Units := []
  more : List (List Char × Units) := []

namespace Contents

def prepend (text : Units) (contents : Contents) : Contents :=
  { contents with run := text ++ contents.run }

def substitute (expression : List Char) (contents : Contents) : Contents :=
  ⟨[], (expression, contents.run) :: contents.more⟩

/-- The text that the literal stands for, where its substitutions have these values. -/
def filled (values : List Units) (contents : Contents) : Units :=
  contents.run ++ (contents.more.zip values).flatMap fun (part, value) => value ++ part.2

end Contents

/-- A text after the opening quote of a template literal, what the literal holds, and the text after
it. Every escape is well-formed. -/
inductive ReadsTemplate : List Char → Contents → List Char → Prop where
  | final {chars rest : List Char} {run written : Units}
      (read : StartsStretch chars ⟨some run, written, true, rest⟩) :
      ReadsTemplate chars ⟨run, []⟩ rest
  | substitution {chars expression after rest : List Char} {run written : Units}
      {contents : Contents}
      (read : StartsStretch chars ⟨some run, written, false, expression ++ '\x7d' :: after⟩)
      (closes : Closes 0 (expression ++ '\x7d' :: after) after)
      (more : ReadsTemplate after contents rest) :
      ReadsTemplate chars ((contents.substitute expression).prepend run) rest

theorem ReadsTemplate.unique {chars rest other : List Char} {contents held : Contents}
    (one : ReadsTemplate chars contents rest) (another : ReadsTemplate chars held other) :
    contents = held ∧ rest = other := by
  induction one generalizing held other with
  | final read =>
    cases another with
    | final again => cases read.unique again; exact ⟨rfl, rfl⟩
    | substitution again => cases read.unique again
  | substitution read closes _ ih =>
    cases another with
    | final again => cases read.unique again
    | substitution again closesAgain moreAgain =>
      have same := Stretch.mk.inj (read.unique again)
      rw [← same.2.2.2] at closesAgain
      cases closes.unique closesAgain
      cases List.append_cancel_right same.2.2.2
      cases Option.some.inj same.1
      obtain ⟨rfl, rfl⟩ := ih moreAgain
      exact ⟨rfl, rfl⟩

end Reading

section Literal

/-- Before this text, the characters are read as literal text of a template, written in this way. -/
def IsLiteral (chars : List Char) (value written : Units) (rest : List Char) : Prop :=
  ∃ steps ≤ chars.length, ∀ fuel,
    readStretch? (fuel + steps) (chars ++ rest) =
      (readStretch? fuel rest).map (.after (some value) written)

theorem Stretch.after_after (first second written more : Units) (stretch : Stretch) :
    Stretch.after (some first) written (.after (some second) more stretch) =
      .after (some (first ++ second)) (written ++ more) stretch := by
  obtain ⟨value, text, final, rest⟩ := stretch
  cases value <;> simp [Stretch.after]

theorem IsLiteral.nil (rest : List Char) : IsLiteral [] [] [] rest := by
  refine ⟨0, Nat.le_refl 0, fun fuel => ?_⟩
  have same : Stretch.after (some []) [] = id := by
    funext stretch
    obtain ⟨value, text, final, rest⟩ := stretch
    cases value <;> rfl
  rw [same, Option.map_id]
  rfl

theorem IsLiteral.append {first second rest : List Char} {value more written writtenMore : Units}
    (one : IsLiteral first value written (second ++ rest))
    (other : IsLiteral second more writtenMore rest) :
    IsLiteral (first ++ second) (value ++ more) (written ++ writtenMore) rest := by
  obtain ⟨steps, few, read⟩ := one
  obtain ⟨stepsMore, fewMore, readMore⟩ := other
  refine ⟨stepsMore + steps, ?_, fun fuel => ?_⟩
  · rw [List.length_append, Nat.add_comm]
    exact Nat.add_le_add few fewMore
  · rw [List.append_assoc, ← Nat.add_assoc, read, readMore, Option.map_map]
    congr 1
    funext stretch
    exact Stretch.after_after value more written writtenMore stretch

theorem IsLiteral.starts {chars rest : List Char} {value written : Units} {stretch : Stretch}
    (literal : IsLiteral chars value written rest) (starts : StartsStretch rest stretch) :
    StartsStretch (chars ++ rest) (.after (some value) written stretch) := by
  obtain ⟨steps, few, read⟩ := literal
  intro fuel enough
  rw [List.length_append] at enough
  have split : fuel = fuel - steps + steps := by omega
  rw [split, read, starts _ (by omega)]
  rfl

theorem ReadsTemplate.prepend {chars rest after : List Char} {value written : Units}
    {contents : Contents} (template : ReadsTemplate rest contents after)
    (literal : IsLiteral chars value written rest) :
    ReadsTemplate (chars ++ rest) (contents.prepend value) after := by
  cases template with
  | final read => exact .final (literal.starts read)
  | substitution read closes more =>
    have again := ReadsTemplate.substitution (literal.starts read) closes more
    simp only [Contents.prepend, List.append_assoc] at again ⊢
    exact again

theorem isLiteral_plain {c : Char} {rest : List Char} (quote : c ≠ '\x60') (backslash : c ≠ '\\')
    (carriage : c ≠ '\r') (noOpening : c = '$' → rest.head? ≠ some '\x7b') :
    IsLiteral [c] (unitsOfPoint c.toNat) (unitsOfPoint c.toNat) rest := by
  refine ⟨1, Nat.le_refl 1, fun fuel => ?_⟩
  have literal : (c == '$' && rest.head? == some '\x7b') = false := by
    cases dollar : c == '$' with
    | false => rfl
    | true => simpa using noOpening (beq_iff_eq.mp dollar)
  simp only [List.singleton_append, readStretch?, beq_false_of_ne quote, literal,
    beq_false_of_ne carriage, beq_false_of_ne backslash, Bool.false_eq_true, if_false]

theorem isLiteral_escaped {c : Char} (special : c ∈ ['\\', '\x60', '$']) (rest : List Char) :
    IsLiteral ['\\', c] (unitsOfPoint c.toNat) (Text.units "\\" ++ unitsOfChars [c]) rest := by
  have written : writtenEscape (c :: rest) rest = Text.units "\\" ++ unitsOfChars [c] := by
    have one : (c :: rest).length - rest.length = 1 := by simp
    have own : writtenEscape (c :: rest) rest = Text.units "\\" ++
        unitsOfChars ((c :: rest).take ((c :: rest).length - rest.length)) := by
      simp only [List.mem_cons, List.not_mem_nil, or_false] at special
      obtain rfl | rfl | rfl := special <;> rfl
    rw [own, one]
    rfl
  refine ⟨1, by simp, fun fuel => ?_⟩
  rw [← written]
  simp only [List.mem_cons, List.not_mem_nil, or_false] at special
  obtain rfl | rfl | rfl := special <;> rfl

theorem isLiteral_carriage {rest : List Char} (alone : rest.head? ≠ some '\n') :
    IsLiteral ['\r'] (unitsOfPoint '\n'.toNat) [10] rest := by
  refine ⟨1, Nat.le_refl 1, fun fuel => ?_⟩
  change (readStretch? fuel (if rest.head? == some '\n' then rest.drop 1 else rest)).map _ = _
  rw [if_neg (by simpa using alone)]
  rfl

theorem isLiteral_lineEnd (rest : List Char) :
    IsLiteral ['\r', '\n'] (unitsOfPoint '\n'.toNat) [10] rest :=
  ⟨1, by decide, fun _ => rfl⟩

/-- Characters that stand for themselves wherever they are put in a template. -/
def isPlain (c : Char) : Bool :=
  c != '\x60' && c != '\\' && c != '\r' && c != '\n' && c != '$' && c != '\x7b'

theorem isLiteral_of_isPlain {chars : List Char} (plain : chars.all isPlain = true)
    (rest : List Char) : IsLiteral chars (unitsOfChars chars) (unitsOfChars chars) rest := by
  induction chars with
  | nil => exact .nil rest
  | cons c more ih =>
    simp only [List.all_cons, Bool.and_eq_true] at plain
    obtain ⟨first, others⟩ := plain
    simp only [isPlain, Bool.and_eq_true, bne_iff_ne, and_assoc] at first
    obtain ⟨quote, backslash, carriage, -, dollar, -⟩ := first
    have own : IsLiteral [c] (unitsOfPoint c.toNat) (unitsOfPoint c.toNat) (more ++ rest) :=
      isLiteral_plain quote backslash carriage fun same => absurd same dollar
    exact own.append (ih others)

end Literal

section Escapes

/-- Neither opens a substitution after a dollar sign nor ends a line after a carriage return. -/
def Separates (rest : List Char) : Prop :=
  rest.head? ≠ some '\x7b' ∧ rest.head? ≠ some '\n'

theorem escapeTemplate_cons (c : Char) (rest : List Char) :
    escapeTemplate (c :: rest) =
      (if c = '\\' ∨ c = '\x60' ∨ (c = '$' ∧ rest.head? = some '\x7b') then ['\\', c] else [c]) ++
        escapeTemplate rest := by
  by_cases opening : c = '$' ∧ rest.head? = some '\x7b'
  · obtain ⟨rfl, head⟩ := opening
    obtain ⟨more, rfl⟩ := List.head?_eq_some_iff.mp head
    simp [escapeTemplate]
  · rw [escapeTemplate]
    · simp only [opening, or_false, Bool.or_eq_true, beq_iff_eq]
      split <;> rfl
    · rintro more rfl rfl
      exact opening ⟨rfl, rfl⟩

theorem head?_escapeTemplate {c : Char} (other : c ≠ '\\') {text rest : List Char}
    (first : text.head? ≠ some c) (next : rest.head? ≠ some c) :
    (escapeTemplate text ++ rest).head? ≠ some c := by
  cases text with
  | nil => exact next
  | cons d more =>
    rw [escapeTemplate_cons]
    split
    · simpa using Ne.symm other
    · exact first

/-- Escaped text is read as it is, but that its line ends are line feeds. -/
theorem isLiteral_escapeTemplate (text : List Char) :
    ∃ written, ∀ rest, Separates rest →
      IsLiteral (escapeTemplate text) (unitsOfChars (lineFeeds text)) written rest := by
  fun_induction lineFeeds text with
  | case1 => exact ⟨[], fun rest _ => .nil rest⟩
  | case2 more ih =>
    obtain ⟨written, literal⟩ := ih
    exact ⟨_, fun rest separates => .append (isLiteral_lineEnd _) (literal rest separates)⟩
  | case3 c more alone ih =>
    obtain ⟨written, literal⟩ := ih
    rw [escapeTemplate_cons, Text.unitsOfChars_cons]
    by_cases special : c = '\\' ∨ c = '\x60' ∨ (c = '$' ∧ more.head? = some '\x7b')
    · refine ⟨Text.units "\\" ++ unitsOfChars [c] ++ written,
        fun rest separates => .append ?_ (literal rest separates)⟩
      rw [if_pos special]
      obtain rfl | rfl | ⟨rfl, -⟩ := special
      all_goals exact isLiteral_escaped (by decide) _
    · rw [if_neg special]
      obtain ⟨backslash, special⟩ := not_or.mp special
      obtain ⟨quote, noOpening⟩ := not_or.mp special
      by_cases carriage : c = '\r'
      · subst carriage
        refine ⟨_, fun rest separates => .append (isLiteral_carriage ?_) (literal rest separates)⟩
        refine head?_escapeTemplate (by decide) (fun feed => ?_) separates.2
        obtain ⟨others, same⟩ := List.head?_eq_some_iff.mp feed
        exact alone others rfl same
      · refine ⟨unitsOfPoint c.toNat ++ written,
          fun rest separates => .append ?_ (literal rest separates)⟩
        rw [if_neg (by simpa using carriage)]
        exact isLiteral_plain quote backslash carriage fun dollar =>
          head?_escapeTemplate (by decide) (fun brace => noOpening ⟨dollar, brace⟩) separates.1

end Escapes

section Substitutions

/-- Inside a substitution the text is passed without closing it. -/
def IsPassed (text : List Char) : Prop :=
  ∀ depth rest after, Closes depth rest after → Closes depth (text ++ rest) after

theorem IsPassed.append {first second : List Char} (one : IsPassed first)
    (other : IsPassed second) : IsPassed (first ++ second) := by
  intro depth rest after closes
  rw [List.append_assoc]
  exact one _ _ _ (other _ _ _ closes)

theorem isPassed_of_isNeutral {text : List Char} (neutral : text.all isNeutral = true) :
    IsPassed text := by
  intro depth rest after closes
  induction text with
  | nil => exact closes
  | cons c more ih =>
    rw [List.all_cons, Bool.and_eq_true] at neutral
    exact .plain neutral.1 (ih neutral.2)

theorem isPassed_stringLiteral (text : List Char) : IsPassed (stringLiteral text) := by
  intro depth rest after closes
  have shape : stringLiteral text ++ rest = '"' :: (text.flatMap stringChar ++ '"' :: rest) := by
    simp [stringLiteral]
  obtain ⟨exact, read⟩ := readText_stringLiteral text
  rw [shape]
  exact .string List.mem_cons_self (read rest) closes

theorem isNeutral_of_isNamePart {c : Char} (part : isNamePart c = true) : isNeutral c = true := by
  cases neutral : isNeutral c with
  | true => rfl
  | false =>
    simp only [isNeutral, Bool.not_eq_false', List.contains_iff_mem, List.mem_cons,
      List.not_mem_nil, or_false] at neutral
    obtain rfl | rfl | rfl | rfl | rfl | rfl := neutral <;> exact absurd part (by decide)

theorem isNamePart_of_isIdentifier {name : List Char} (identifier : isIdentifier name = true) :
    name.all isNamePart = true := by
  cases name with
  | nil => rfl
  | cons c rest =>
    rw [isIdentifier, Bool.and_eq_true] at identifier
    have first : isNamePart c = true := by
      have start := identifier.1
      simp only [isNameStart, isNamePart, Char.isAlphanum, Bool.or_eq_true] at start ⊢
      obtain (letter | underscore) | dollar := start
      · exact .inl (.inl (.inl letter))
      · exact .inl (.inr underscore)
      · exact .inr dollar
    rw [List.all_cons, first, identifier.2]
    rfl

theorem isPassed_propertyAccess {object : List Char} (passed : IsPassed object)
    (name : List Char) : IsPassed (propertyAccess object name) := by
  unfold propertyAccess
  split
  · rename_i identifier
    have neutral : ('.' :: name).all isNeutral = true := by
      rw [List.all_cons, Bool.and_eq_true, List.all_eq_true]
      exact ⟨rfl, fun c member => isNeutral_of_isNamePart
        (List.all_eq_true.mp (isNamePart_of_isIdentifier identifier) c member)⟩
    exact passed.append (isPassed_of_isNeutral neutral)
  · have bracket (c : Char) (neutral : isNeutral c = true) : IsPassed [c] :=
      isPassed_of_isNeutral (by simpa using neutral)
    exact passed.append ((bracket '[' rfl).append
      ((isPassed_stringLiteral name).append (bracket ']' rfl)))

theorem ReadsTemplate.substitute {expression rest after : List Char} {contents : Contents}
    (template : ReadsTemplate rest contents after) (passed : IsPassed expression) :
    ReadsTemplate ('$' :: '\x7b' :: (expression ++ '\x7d' :: rest))
      (contents.substitute expression) after := by
  have read : StartsStretch ('$' :: '\x7b' :: (expression ++ '\x7d' :: rest))
      ⟨some [], [], false, expression ++ '\x7d' :: rest⟩ := by
    intro fuel enough
    cases fuel with
    | zero => cases enough
    | succ fuel => rfl
  exact .substitution read (passed _ _ _ (.last rest)) template

theorem ReadsTemplate.close (rest : List Char) : ReadsTemplate ('\x60' :: rest) {} rest := by
  have read : StartsStretch ('\x60' :: rest) ⟨some [], [], true, rest⟩ := by
    intro fuel enough
    cases fuel with
    | zero => cases enough
    | succ fuel => rfl
  exact .final read

end Substitutions

end FootprintTemplate.Script
