import FootprintTemplate.Proofs.Script.Locality
import FootprintTemplate.Script.Grammar

/-! Texts that scripts are read alike with. Whole tokens before two such texts leave them alike. -/
namespace FootprintTemplate.Script

open Text (Units unitsOfChars unitsOfPoint)

section Alike

/-- The text, after a line end or on the same line. -/
def onLine (crossed : Bool) (chars : List Char) : List Char :=
  if crossed then '\n' :: chars else chars

/-- For so many tokens a script goes on within these braces with the one text as with the other. -/
def AlikeFor (count : Nat) (braces : List Bool) (first second : List Char) : Prop :=
  ∀ crossed, lexemes count ⟨false, braces⟩ (onLine crossed first) =
    lexemes count ⟨false, braces⟩ (onLine crossed second)

def Alike (braces : List Bool) (first second : List Char) : Prop :=
  ∀ count, AlikeFor count braces first second

variable {braces : List Bool} {first second : List Char}

theorem Alike.refl (braces : List Bool) (chars : List Char) : Alike braces chars chars :=
  fun _ _ => rfl

theorem AlikeFor.zero : AlikeFor 0 braces first second :=
  fun _ => rfl

theorem lexemes_congr {position : Position} (same : lexemeAt position first = lexemeAt position second)
    (count : Nat) : lexemes count position first = lexemes count position second := by
  cases count with
  | zero => rfl
  | succ count => simp only [lexemes, same]

theorem lexemes_gap (same : skipGap .blank false first = skipGap .blank false second) (count : Nat) :
    lexemes count ⟨false, braces⟩ first = lexemes count ⟨false, braces⟩ second := by
  refine lexemes_congr ?_ count
  change readLexeme first = readLexeme second
  rw [readLexeme, readLexeme, same]

theorem Alike.of_gaps (same : ∀ crossed,
    skipGap .blank crossed first = skipGap .blank crossed second) : Alike braces first second := by
  intro count crossed
  refine lexemes_gap ?_ count
  cases crossed with
  | false => exact same false
  | true => exact same true

theorem Alike.trans {third : List Char} (one : Alike braces first second)
    (other : Alike braces second third) : Alike braces first third :=
  fun count crossed => (one count crossed).trans (other count crossed)

/-- Scripts that are alike from the start are the same program. -/
theorem parse_congr (alike : Alike [] first second) : parse first = parse second := by
  have same : lexemes maxParts {} first = lexemes maxParts {} second := alike maxParts false
  rw [parse, parse, parseIn, parseIn, same]

theorem Alike.symm (one : Alike braces first second) : Alike braces second first :=
  fun count crossed => (one count crossed).symm

theorem skipGap_cons {c : Char} (slash : c ≠ '/') (crossed : Bool) (rest : List Char) :
    skipGap .blank crossed (c :: rest) =
      if isLineEnd c then skipGap .blank true rest
      else if isBlank c then skipGap .blank crossed rest else some (crossed, c :: rest) := by
  rw [skipGap]
  · rintro _ rfl
    exact absurd rfl slash
  · rintro _ rfl
    exact absurd rfl slash

theorem skipGap_onLine (crossed : Bool) (chars : List Char) :
    skipGap .blank false (onLine crossed chars) = skipGap .blank crossed chars := by
  cases crossed <;> rfl

theorem AlikeFor.blank {count : Nat} (alike : AlikeFor count braces first second) {c : Char}
    (slash : c ≠ '/') (blank : isLineEnd c = true ∨ isBlank c = true) :
    AlikeFor count braces (c :: first) (c :: second) := by
  have passed (crossed : Bool) (chars : List Char) :
      skipGap .blank false (onLine crossed (c :: chars)) =
        skipGap .blank false (onLine (isLineEnd c || crossed) chars) := by
    rw [skipGap_onLine, skipGap_onLine, skipGap_cons slash]
    cases lineEnd : isLineEnd c with
    | true => rfl
    | false => simp [blank.resolve_left (by simp [lineEnd])]
  intro crossed
  rw [lexemes_gap (passed crossed first), lexemes_gap (passed crossed second)]
  exact alike _

theorem lexemes_token {chars : List Char} (opens : OpensToken chars) (count : Nat)
    (crossed : Bool) :
    lexemes (count + 1) ⟨false, braces⟩ (onLine crossed chars) =
      .read (readToken chars).1 crossed
        (fun _ => lexemes count (Position.after ⟨false, braces⟩ (readToken chars).1)
          (readToken chars).2)
        fun _ => .done := by
  have skipped : skipGap .blank crossed chars = some (crossed, chars) := by
    cases chars with
    | nil => rfl
    | cons c rest =>
      obtain ⟨blank, lineEnd, slash⟩ := opens c rfl
      simp [skipGap_cons slash, lineEnd, blank]
  have own : lexemeAt ⟨false, braces⟩ (onLine crossed chars) =
      ⟨(readToken chars).1, crossed, chars, (readToken chars).2⟩ := by
    change readLexeme (onLine crossed chars) = _
    rw [readLexeme, skipGap_onLine, skipped]
  rw [lexemes, own]
  refine congrArg _ (funext fun _ => ?_)
  -- No pattern starts here.
  dsimp only
  split
  · exact absurd rfl (opens _ rfl).2.2
  · rfl

/-- Texts that start with one token are alike if they go on alike after it. -/
theorem AlikeFor.token {count : Nat} {token : Token} {before after : List Char}
    (opens : OpensToken first) (opensToo : OpensToken second)
    (read : readToken first = (token, before)) (readToo : readToken second = (token, after))
    (alike : lexemes count (Position.after ⟨false, braces⟩ token) before =
      lexemes count (Position.after ⟨false, braces⟩ token) after) :
    AlikeFor (count + 1) braces first second := by
  intro crossed
  rw [lexemes_token opens, lexemes_token opensToo, read, readToo]
  exact congrArg (Lexemes.read token crossed · _) (funext fun _ => alike)

theorem Alike.token {token : Token} {before after : List Char} (opens : OpensToken first)
    (opensToo : OpensToken second) (read : readToken first = (token, before))
    (readToo : readToken second = (token, after))
    (alike : ∀ count, lexemes count (Position.after ⟨false, braces⟩ token) before =
      lexemes count (Position.after ⟨false, braces⟩ token) after) :
    Alike braces first second := by
  intro count
  cases count with
  | zero => exact .zero
  | succ count => exact .token opens opensToo read readToo (alike count)

theorem Alike.broken (opens : OpensToken first) (opensToo : OpensToken second)
    (read : readToken first = (.broken, [])) (readToo : readToken second = (.broken, [])) :
    Alike braces first second :=
  .token opens opensToo read readToo fun _ => rfl

end Alike

section Plain

variable {braces : List Bool} {first second : List Char}

theorem opensToken_simple {c : Char} (neutral : isNeutral c = true)
    (other : ¬(isLineEnd c = true ∨ isBlank c = true)) (rest : List Char) :
    OpensToken (c :: rest) := by
  obtain ⟨lineEnd, blank⟩ := not_or.mp other
  refine opensToken_of (by simpa using blank) (by simpa using lineEnd) ?_ rest
  rintro rfl
  exact absurd neutral (by decide)

theorem Alike.simple (alike : Alike braces first second) {text : List Char}
    (simple : text.all isSimple = true) (stop : Stops first) (stopToo : Stops second) :
    Alike braces (text ++ first) (text ++ second) := by
  intro count
  induction count generalizing text with
  | zero => exact .zero
  | succ count ihCount =>
    induction text with
    | nil => exact alike (count + 1)
    | cons c more ih =>
      have others := simple
      rw [List.all_cons, Bool.and_eq_true] at others
      have neutral : isNeutral c = true := (Bool.and_eq_true_iff.mp others.1).1
      by_cases blank : isLineEnd c = true ∨ isBlank c = true
      · refine AlikeFor.blank (ih others.2) ?_ blank
        rintro rfl
        exact absurd neutral (by decide)
      · have opens := opensToken_simple neutral blank
        rcases readToken_simple simple with broken | ⟨token, after, -, level, leaves, starts⟩
        · exact .token (opens _) (opens _) (broken first stop) (broken second stopToo) rfl
        · have inside : after.all isSimple = true := List.all_eq_true.mpr fun d member =>
            List.all_eq_true.mp simple d (leaves.mem member)
          refine .token (opens _) (opens _) (starts first stop) (starts second stopToo) ?_
          rw [level]
          exact ihCount inside false

theorem Alike.openBrace (alike : Alike (false :: braces) first second) :
    Alike braces ('\x7b' :: first) ('\x7b' :: second) :=
  .token (opensToken_of rfl rfl (by decide) _) (opensToken_of rfl rfl (by decide) _)
    (readToken_bracket (by decide : "\x7b" ∈ _) first)
    (readToken_bracket (by decide : "\x7b" ∈ _) second) fun count => alike count false

theorem Alike.closeBrace (alike : Alike braces first second) :
    Alike (false :: braces) ('\x7d' :: first) ('\x7d' :: second) :=
  .token (opensToken_of rfl rfl (by decide) _) (opensToken_of rfl rfl (by decide) _)
    (readToken_bracket (by decide : "\x7d" ∈ _) first)
    (readToken_bracket (by decide : "\x7d" ∈ _) second) fun count => alike count false

theorem Alike.stringLiteral (alike : Alike braces first second) (text : List Char) :
    Alike braces (stringLiteral text ++ first) (stringLiteral text ++ second) := by
  obtain ⟨exact, read⟩ := readToken_stringLiteral text
  exact .token (opensToken_of rfl rfl (by decide) _) (opensToken_of rfl rfl (by decide) _)
    (read first) (read second) fun count => alike count false

end Plain

section Template

variable {braces : List Bool} {first second : List Char}

/-- Stretches that read the same and go on alike. -/
def SameStretch (braces : List Bool) : Option Stretch → Option Stretch → Prop
  | none, none => True
  | some one, some other => one.value = other.value ∧ one.written = other.written ∧
    one.final = other.final ∧ Alike (if one.final then braces else true :: braces) one.rest other.rest
  | _, _ => False

/-- Inside a template within these braces a script goes on with the one text as with the other. -/
def RunsAlike (braces : List Bool) (first second : List Char) : Prop :=
  ∀ fuel more, first.length < fuel → second.length < more →
    SameStretch braces (readStretch? fuel first) (readStretch? more second)

theorem SameStretch.after {one other : Option Stretch} (same : SameStretch braces one other)
    (value : Option Units) (written : Units) :
    SameStretch braces (one.map (.after value written)) (other.map (.after value written)) := by
  cases one with
  | none => cases other <;> exact same
  | some stretch =>
    cases other with
    | none => exact same
    | some another =>
      obtain ⟨sameValue, sameWritten, sameFinal, alike⟩ := same
      simp only [Option.map_some, SameStretch, Stretch.after, sameValue, sameWritten, true_and]
      exact ⟨sameFinal, alike⟩

theorem RunsAlike.prepend (alike : RunsAlike braces first second) {chars : List Char}
    {value written : Units} (literal : IsLiteral chars value written first)
    (literalToo : IsLiteral chars value written second) :
    RunsAlike braces (chars ++ first) (chars ++ second) := by
  obtain ⟨steps, few, read⟩ := literal
  obtain ⟨stepsToo, fewToo, readToo⟩ := literalToo
  intro fuel more enough enoughToo
  rw [List.length_append] at enough enoughToo
  have split : fuel = fuel - steps + steps := by omega
  have splitToo : more = more - stepsToo + stepsToo := by omega
  rw [split, splitToo, read, readToo]
  exact (alike _ _ (by omega) (by omega)).after (some value) written

theorem RunsAlike.close (alike : Alike braces first second) :
    RunsAlike braces ('\x60' :: first) ('\x60' :: second) := by
  intro fuel more enough enoughToo
  cases fuel with
  | zero => cases enough
  | succ fuel =>
    cases more with
    | zero => cases enoughToo
    | succ more => exact ⟨rfl, rfl, rfl, alike⟩

theorem RunsAlike.openValue (alike : Alike (true :: braces) first second) :
    RunsAlike braces ('$' :: '\x7b' :: first) ('$' :: '\x7b' :: second) := by
  intro fuel more enough enoughToo
  cases fuel with
  | zero => cases enough
  | succ fuel =>
    cases more with
    | zero => cases enoughToo
    | succ more => exact ⟨rfl, rfl, rfl, alike⟩

theorem RunsAlike.template (alike : RunsAlike braces first second) :
    ∃ token before after, readTemplate first = (token, before) ∧
      readTemplate second = (token, after) ∧
      ∀ count, lexemes count (Position.after ⟨false, braces⟩ token) before =
        lexemes count (Position.after ⟨false, braces⟩ token) after := by
  have same := alike _ _ (Nat.lt_succ_self _) (Nat.lt_succ_self _)
  unfold readTemplate
  cases one : readStretch? (first.length + 1) first with
  | none =>
    rw [one] at same
    cases other : readStretch? (second.length + 1) second with
    | none => exact ⟨.broken, [], [], rfl, rfl, fun _ => rfl⟩
    | some => rw [other] at same; exact same.elim
  | some stretch =>
    rw [one] at same
    cases other : readStretch? (second.length + 1) second with
    | none => rw [other] at same; exact same.elim
    | some another =>
      rw [other] at same
      obtain ⟨value, written, final, goesOn⟩ := same
      refine ⟨.template stretch.value stretch.written stretch.final, _, _, rfl,
        by rw [value, written, final], fun count => ?_⟩
      cases isFinal : stretch.final with
      | true =>
        rw [isFinal] at goesOn
        exact goesOn count false
      | false =>
        rw [isFinal] at goesOn
        exact goesOn count false

theorem Alike.template (alike : RunsAlike braces first second) :
    Alike braces ('\x60' :: first) ('\x60' :: second) := by
  obtain ⟨token, before, after, read, readToo, goesOn⟩ := alike.template
  have opened (rest : List Char) : readToken ('\x60' :: rest) = readTemplate rest := by
    have noName : startsName '\x60' = false := (outside_tokens (by decide)).1
    simp [readToken, noName]
  exact .token (opensToken_of rfl rfl (by decide) _) (opensToken_of rfl rfl (by decide) _)
    ((opened first).trans read) ((opened second).trans readToo) goesOn

/-- A brace that closes a value goes on with its template. -/
theorem RunsAlike.closeValue (alike : RunsAlike braces first second) :
    Alike (true :: braces) ('\x7d' :: first) ('\x7d' :: second) := by
  refine .token (opensToken_of rfl rfl (by decide) _) (opensToken_of rfl rfl (by decide) _)
    (readToken_bracket (by decide : "\x7d" ∈ _) first)
    (readToken_bracket (by decide : "\x7d" ∈ _) second) fun count => ?_
  obtain ⟨token, before, after, read, readToo, goesOn⟩ := alike.template
  cases count with
  | zero => rfl
  | succ count =>
    have own (chars : List Char) {left : List Char} (found : readTemplate chars = (token, left)) :
        lexemes (count + 1) ⟨true, braces⟩ chars =
          .read token false (fun _ => lexemes count (Position.after ⟨false, braces⟩ token) left)
            fun _ => .done := by
      have start : lexemeAt ⟨true, braces⟩ chars = ⟨token, false, [], left⟩ := by
        rw [lexemeAt, if_pos rfl, found]
      rw [lexemes, start]
      rfl
    change lexemes (count + 1) ⟨true, braces⟩ first = lexemes (count + 1) ⟨true, braces⟩ second
    rw [own first read, own second readToo]
    exact congrArg (Lexemes.read token false · _) (funext fun _ => goesOn count)

end Template

section Strings

variable {braces : List Bool} {first second : List Char}

/-- Characters that stand for themselves between these quotes. -/
def isExact (quote c : Char) : Bool :=
  c != quote && c != '\n' && c != '\r' && c != '\\'

theorem readQuoted?_exact {quote : Char} {text : List Char}
    (exact : text.all (isExact quote) = true) (rest : List Char) :
    ∀ fuel, text.length < fuel →
      readQuoted? quote fuel (text ++ quote :: rest) = some ⟨unitsOfChars text, true, false, rest⟩ := by
  induction text with
  | nil =>
    intro fuel enough
    cases fuel with
    | zero => cases enough
    | succ fuel => simp [readQuoted?, unitsOfChars]
  | cons c more ih =>
    rw [List.all_cons, Bool.and_eq_true] at exact
    obtain ⟨own, others⟩ := exact
    simp only [isExact, Bool.and_eq_true, bne_iff_ne] at own
    obtain ⟨⟨⟨apart, feed⟩, carriage⟩, backslash⟩ := own
    intro fuel enough
    cases fuel with
    | zero => cases enough
    | succ fuel =>
      rw [List.cons_append, readQuoted?_plain apart feed carriage backslash,
        ih others fuel (Nat.lt_of_succ_lt_succ enough)]
      rfl

theorem readToken_quote {quote : Char} (isQuote : quote ∈ ['"', '\x27']) (rest : List Char) :
    OpensToken (quote :: rest) ∧ readToken (quote :: rest) = readText quote rest := by
  simp only [List.mem_cons, List.not_mem_nil, or_false] at isQuote
  have noName : startsName quote = false := by
    obtain rfl | rfl := isQuote <;> exact (outside_tokens (by decide)).1
  obtain rfl | rfl := isQuote
  · exact ⟨opensToken_of rfl rfl (by decide) rest, by simp [readToken, noName]⟩
  · exact ⟨opensToken_of rfl rfl (by decide) rest, by simp [readToken, noName]⟩

theorem Alike.quoted (alike : Alike braces first second) {quote : Char}
    (isQuote : quote ∈ ['"', '\x27']) {text : List Char} (exact : text.all (isExact quote) = true) :
    Alike braces (quote :: (text ++ quote :: first)) (quote :: (text ++ quote :: second)) := by
  have read (rest : List Char) : readToken (quote :: (text ++ quote :: rest)) =
      (.text (unitsOfChars text) true false, rest) := by
    rw [(readToken_quote isQuote _).2, readText,
      readQuoted?_exact exact rest _ (by rw [List.length_append]; omega)]
  exact .token (readToken_quote isQuote _).1 (readToken_quote isQuote _).1 (read first)
    (read second) fun count => alike count false

theorem readQuoted?_singleQuotedChar {c : Char} (feed : c ≠ '\n') (carriage : c ≠ '\r') :
    ∃ plain, ∀ (fuel : Nat) (rest : List Char),
      readQuoted? '\x27' (fuel + 1) (singleQuotedChar c ++ rest) =
        (readQuoted? '\x27' fuel rest).map fun text =>
          { text with value := unitsOfPoint c.toNat ++ text.value, exact := plain && text.exact } := by
  unfold singleQuotedChar
  split
  · rename_i special
    simp only [Bool.or_eq_true, beq_iff_eq] at special
    refine ⟨false, fun fuel rest => ?_⟩
    obtain rfl | rfl := special <;> rfl
  · rename_i plain
    simp only [Bool.or_eq_true, beq_iff_eq, not_or] at plain
    exact ⟨true, fun fuel rest => readQuoted?_plain plain.2 feed carriage plain.1 fuel rest⟩

theorem singleQuotedChar_ne_nil (c : Char) : singleQuotedChar c ≠ [] := by
  unfold singleQuotedChar
  split <;> simp

/-- No line ends in the text that would break a literal between quotes. -/
def isUnbroken (text : List Char) : Bool :=
  text.all fun c => c != '\n' && c != '\r'

/-- A text in single quotes is read whole whatever follows it, unless a line ends in it. -/
theorem readQuoted?_singleQuoted (text : List Char) :
    ∃ exact, ∀ fuel rest, text.length < fuel →
      readQuoted? '\x27' fuel (text.flatMap singleQuotedChar ++ '\x27' :: rest) =
        if isUnbroken text then some ⟨unitsOfChars text, exact, false, rest⟩ else none := by
  induction text with
  | nil =>
    refine ⟨true, fun fuel rest enough => ?_⟩
    cases fuel with
    | zero => cases enough
    | succ fuel => rfl
  | cons c others ih =>
    by_cases lineEnd : c = '\n' ∨ c = '\r'
    · refine ⟨false, fun fuel rest enough => ?_⟩
      cases fuel with
      | zero => cases enough
      | succ fuel => obtain rfl | rfl := lineEnd <;> rfl
    · obtain ⟨feed, carriage⟩ := not_or.mp lineEnd
      obtain ⟨exact, whole⟩ := ih
      obtain ⟨plain, first⟩ := readQuoted?_singleQuotedChar feed carriage
      refine ⟨plain && exact, fun fuel rest enough => ?_⟩
      cases fuel with
      | zero => cases enough
      | succ fuel =>
        have stays : isUnbroken (c :: others) = isUnbroken others := by
          simp [isUnbroken, feed, carriage]
        rw [List.flatMap_cons, List.append_assoc, first, whole _ _ (Nat.lt_of_succ_lt_succ enough),
          stays]
        split <;> rfl

theorem singleQuoted_append (text rest : List Char) :
    Script.singleQuoted text ++ rest =
      '\x27' :: (text.flatMap singleQuotedChar ++ '\x27' :: rest) := by
  simp [Script.singleQuoted]

theorem readText_singleQuoted (text : List Char) :
    ∃ exact, ∀ rest : List Char,
      readQuoted? '\x27' ((text.flatMap singleQuotedChar ++ '\x27' :: rest).length + 1)
        (text.flatMap singleQuotedChar ++ '\x27' :: rest) =
          if isUnbroken text then some ⟨unitsOfChars text, exact, false, rest⟩ else none := by
  obtain ⟨exact, whole⟩ := readQuoted?_singleQuoted text
  refine ⟨exact, fun rest => whole _ _ ?_⟩
  have long := length_le_flatMap singleQuotedChar_ne_nil text
  rw [List.length_append]
  omega

theorem readToken_singleQuoted (text : List Char) :
    ∃ exact, ∀ rest, OpensToken (Script.singleQuoted text ++ rest) ∧
      readToken (Script.singleQuoted text ++ rest) =
        if isUnbroken text then (.text (unitsOfChars text) exact false, rest) else (.broken, []) := by
  obtain ⟨exact, whole⟩ := readText_singleQuoted text
  refine ⟨exact, fun rest => ?_⟩
  obtain ⟨opens, read⟩ := readToken_quote (by decide : '\x27' ∈ ['"', '\x27'])
    (text.flatMap singleQuotedChar ++ '\x27' :: rest)
  rw [singleQuoted_append, read, readText, whole]
  refine ⟨opens, ?_⟩
  cases isUnbroken text <;> rfl

/-- A text in single quotes may be no literal. Then nothing after it is read. -/
theorem Alike.singleQuoted (alike : Alike braces first second) (text : List Char) :
    Alike braces (Script.singleQuoted text ++ first) (Script.singleQuoted text ++ second) := by
  obtain ⟨exact, token⟩ := readToken_singleQuoted text
  obtain ⟨opens, read⟩ := token first
  obtain ⟨opensToo, readToo⟩ := token second
  split at read
  · rename_i unbroken
    rw [if_pos unbroken] at readToo
    exact .token opens opensToo read readToo fun count => alike count false
  · rename_i broken
    rw [if_neg broken] at readToo
    exact .broken opens opensToo read readToo

/-- The braces that are open after a text, if it is made of plain text, braces and strings without
escapes. A quote that is open is given. -/
def bracesAfter : Option Char → List Bool → List Char → Option (List Bool)
  | none, braces, [] => some braces
  | some _, _, [] => none
  | none, braces, c :: rest =>
    if isSimple c then bracesAfter none braces rest
    else if c == '\x7b' then bracesAfter none (false :: braces) rest
    else if c == '"' || c == '\x27' then bracesAfter (some c) braces rest
    else if c == '\x7d' && braces.head? == some false then bracesAfter none braces.tail rest
    else none
  | some quote, braces, c :: rest =>
    if c == quote then bracesAfter none braces rest
    else if isExact quote c then bracesAfter (some quote) braces rest
    else none

theorem quotes_stop : ∀ quote ∈ ['"', '\x27'], quote ∈ stops := by
  simp [stops]

theorem Alike.code {text : List Char} {inner : List Bool} (alike : Alike inner first second)
    (stop : Stops first) (stopToo : Stops second) (known : bracesAfter none braces text = some inner) :
    Alike braces (text ++ first) (text ++ second) := by
  -- The text is taken apart from the left; what has been passed of a plain text or of a string
  -- waits for its end.
  have parts : ∀ braces,
      (bracesAfter none braces text = some inner → ∀ plain, plain.all isSimple = true →
        Alike braces (plain ++ (text ++ first)) (plain ++ (text ++ second))) ∧
      ∀ quote ∈ ['"', '\x27'], bracesAfter (some quote) braces text = some inner →
        ∀ exact, exact.all (isExact quote) = true →
          Alike braces (quote :: (exact ++ (text ++ first))) (quote :: (exact ++ (text ++ second))) := by
    clear known
    induction text with
    | nil =>
      refine fun braces => ⟨fun known plain simple => ?_, fun quote _ known => ?_⟩
      · cases known
        exact alike.simple simple stop stopToo
      · cases known
    | cons c rest ih =>
      refine fun braces => ⟨fun known plain simple => ?_, fun quote isQuote known exact areExact => ?_⟩
      · rw [bracesAfter] at known
        by_cases plainToo : isSimple c = true
        · rw [if_pos plainToo] at known
          have longer : (plain ++ [c]).all isSimple = true := by
            rw [List.all_append, simple]
            simpa using plainToo
          have goesOn := (ih braces).1 known (plain ++ [c]) longer
          simpa only [List.append_assoc, List.cons_append, List.nil_append] using goesOn
        · rw [if_neg plainToo] at known
          split at known
          · rename_i opens
            cases beq_iff_eq.mp opens
            have stops := Stops.cons (by decide : '\x7b' ∈ stops)
            exact ((ih (false :: braces)).1 known [] rfl).openBrace.simple simple (stops _) (stops _)
          · split at known
            · rename_i quotes
              have isQuote : c ∈ ['"', '\x27'] := by simpa using quotes
              have stops := Stops.cons (quotes_stop c isQuote)
              exact ((ih braces).2 c isQuote known [] rfl).simple simple (stops _) (stops _)
            · split at known
              · rename_i closes
                rw [Bool.and_eq_true, beq_iff_eq, beq_iff_eq] at closes
                obtain ⟨rfl, inner⟩ := closes
                obtain ⟨outer, rfl⟩ : ∃ outer, braces = false :: outer := by
                  cases braces with
                  | nil => cases inner
                  | cons own outer => exact ⟨outer, by simpa using inner⟩
                have stops := Stops.cons (by decide : '\x7d' ∈ stops)
                exact ((ih outer).1 known [] rfl).closeBrace.simple simple (stops _) (stops _)
              · cases known
      · rw [bracesAfter] at known
        split at known
        · rename_i closes
          cases beq_iff_eq.mp closes
          exact ((ih braces).1 known [] rfl).quoted isQuote areExact
        · split at known
          · rename_i own
            have longer : (exact ++ [c]).all (isExact quote) = true := by
              rw [List.all_append, areExact]
              simpa using own
            have goesOn := (ih braces).2 quote isQuote known (exact ++ [c]) longer
            simpa only [List.append_assoc, List.cons_append, List.nil_append] using goesOn
          · cases known
  exact (parts braces).1 known [] rfl

end Strings

end FootprintTemplate.Script
