import FootprintTemplate.Proofs.Script.Choice

/-! Fixed text of a script, taken apart into its tokens. A scan that knows the names, strings and
marks of such text finds the tokens that a script is read by, whatever follows the text. -/
namespace FootprintTemplate.Script

open Text (Units unitsOfChars)

section Streams

/-- Tokens, each with whether it opens a line, and what follows them. -/
def ofLined (tokens : List (Token × Bool)) (tail : Lexemes) : Lexemes :=
  tokens.foldr (fun token next => .read token.1 token.2 (fun _ => next) fun _ => .done) tail

theorem ofLined_append (tokens more : List (Token × Bool)) (tail : Lexemes) :
    ofLined (tokens ++ more) tail = ofLined tokens (ofLined more tail) :=
  List.foldr_append

/-- Where the reading of a script has come to: the braces around it, whether a line has ended since
the last token, and what is left of the text. -/
structure Standing where
  braces : List Bool
  crossed : Bool
  chars : List Char

def Standing.lexemes (standing : Standing) (count : Nat) : Lexemes :=
  Script.lexemes count ⟨false, standing.braces⟩ (onLine standing.crossed standing.chars)

/-- A script has these tokens from one standing to another one. -/
def Lexed (start : Standing) (tokens : List (Token × Bool)) (stop : Standing) : Prop :=
  ∀ count, start.lexemes (count + tokens.length) = ofLined tokens (stop.lexemes count)

variable {start middle stop : Standing} {tokens more : List (Token × Bool)}

theorem Lexed.nil (standing : Standing) : Lexed standing [] standing :=
  fun _ => rfl

theorem Lexed.append (first : Lexed start tokens middle) (second : Lexed middle more stop) :
    Lexed start (tokens ++ more) stop := by
  intro count
  rw [List.length_append, Nat.add_comm tokens.length, ← Nat.add_assoc, first, second,
    ofLined_append]

variable {braces inner : List Bool} {crossed : Bool} {chars next : List Char}

theorem Lexed.token {token : Token} (opens : OpensToken chars)
    (read : readToken chars = (token, next))
    (goesOn : Position.after ⟨false, braces⟩ token = ⟨false, inner⟩) :
    Lexed ⟨braces, crossed, chars⟩ [(token, crossed)] ⟨inner, false, next⟩ := by
  intro count
  have first : lexemes (count + 1) ⟨false, braces⟩ (onLine crossed chars) = _ :=
    lexemes_token opens count crossed
  rw [read, goesOn] at first
  exact first

/-- Standings from which a script goes on in the same way. -/
theorem Lexed.congr {start' : Standing} (same : ∀ count, start'.lexemes count = start.lexemes count)
    (lexed : Lexed start tokens stop) : Lexed start' tokens stop :=
  fun count => (same _).trans (lexed count)

theorem lexemes_space (braces : List Bool) (crossed : Bool) (chars : List Char) (count : Nat) :
    Standing.lexemes ⟨braces, crossed, ' ' :: chars⟩ count =
      Standing.lexemes ⟨braces, crossed, chars⟩ count := by
  refine lexemes_gap ?_ count
  rw [skipGap_onLine, skipGap_onLine]
  rfl

theorem lexemes_feed (braces : List Bool) (crossed : Bool) (chars : List Char) (count : Nat) :
    Standing.lexemes ⟨braces, crossed, '\n' :: chars⟩ count =
      Standing.lexemes ⟨braces, true, chars⟩ count := by
  refine lexemes_gap ?_ count
  rw [skipGap_onLine, skipGap_onLine]
  rfl

end Streams

section Marks

/-- Marks that are read alone, whatever follows them. -/
def loneMarks : List Char :=
  ['\x7b', '\x7d', '(', ')', '[', ']', ';', ',', ':']

/-- Marks that end where a name follows them. -/
def namedMarks : List Char :=
  ['.', '!']

/-- Marks that end where a blank follows them. -/
def spacedMarks : List String :=
  ["===", "!==", "=>", "&&", "=", "+", "?"]

theorem startsName_marks {c : Char} (isMark : c ∈ loneMarks ++ ['!', '=', '&', '+', '?']) :
    startsName c = false := by
  simp only [loneMarks, List.cons_append, List.nil_append, List.mem_cons, List.not_mem_nil,
    or_false] at isMark
  obtain rfl | rfl | rfl | rfl | rfl | rfl | rfl | rfl | rfl | rfl | rfl | rfl | rfl | rfl :=
    isMark <;> decide +kernel

/-- A text starts with a token, and goes on after it. -/
structure StartsToken (chars : List Char) (token : Token) (rest : List Char) : Prop where
  opens : OpensToken chars
  read : readToken chars = (token, rest)

theorem startsToken_mark {c : Char} {chars rest : List Char} {mark : String}
    (isMark : c ∈ loneMarks ++ ['!', '=', '&', '+', '?'])
    (read : readMark (c :: chars) = (.mark mark, rest)) :
    StartsToken (c :: chars) (.mark mark) rest := by
  have outside := startsName_marks isMark
  simp only [loneMarks, List.cons_append, List.nil_append, List.mem_cons, List.not_mem_nil,
    or_false] at isMark
  obtain rfl | rfl | rfl | rfl | rfl | rfl | rfl | rfl | rfl | rfl | rfl | rfl | rfl | rfl := isMark
  all_goals
    exact ⟨opensToken_of rfl rfl (by decide) _,
      (readToken_mark outside (by decide) rfl fun point => absurd point (by decide)).trans read⟩

theorem startsToken_lone {c : Char} (lone : c ∈ loneMarks) (rest : List Char) :
    StartsToken (c :: rest) (.mark (String.singleton c)) rest := by
  refine startsToken_mark (List.mem_append_left _ lone) ?_
  simp only [loneMarks, List.mem_cons, List.not_mem_nil, or_false] at lone
  obtain rfl | rfl | rfl | rfl | rfl | rfl | rfl | rfl | rfl := lone <;> rfl

theorem startsToken_spaced {mark : String} (spaced : mark ∈ spacedMarks) (rest : List Char) :
    StartsToken (mark.toList ++ ' ' :: rest) (.mark mark) (' ' :: rest) := by
  simp only [spacedMarks, List.mem_cons, List.not_mem_nil, or_false] at spaced
  obtain rfl | rfl | rfl | rfl | rfl | rfl | rfl := spaced
  all_goals exact startsToken_mark (by decide) rfl

theorem plain_of_starts {c : Char} (start : isNameStart c = true) :
    c.isDigit = false ∧ c ≠ '.' ∧ c ≠ '=' := by
  obtain ⟨-, -, -, digit, point⟩ := plain_of_isNameStart start
  refine ⟨digit, point, ?_⟩
  rintro rfl
  exact absurd start (by decide)

theorem readMark_not {rest : List Char} (other : rest.head? ≠ some '=') :
    readMark ('!' :: rest) = (.mark "!", rest) := by
  have noLonger (mark : String) (longer : mark ∈ ["!==", "!="]) : markFits ('!' :: rest) mark = false := by
    cases rest with
    | nil =>
      simp only [List.mem_cons, List.not_mem_nil, or_false] at longer
      obtain rfl | rfl := longer <;> rfl
    | cons d more =>
      have apart : ('=' == d) = false := beq_false_of_ne fun same => other (by rw [same]; rfl)
      simp only [List.mem_cons, List.not_mem_nil, or_false] at longer
      obtain rfl | rfl := longer
      · change (('!' == '!') && (('=' == d) && List.isPrefixOf ['='] more) && true) = false
        rw [apart]
        rfl
      · change (('!' == '!') && (('=' == d) && true) && true) = false
        rw [apart]
        rfl
  have found : marks.find? (markFits ('!' :: rest)) = some "!" := by
    rw [marks]
    iterate 3 rw [List.find?_cons_of_neg (by exact Bool.false_ne_true)]
    rw [List.find?_cons_of_neg (by rw [noLonger "!==" (by decide)]; exact Bool.false_ne_true)]
    iterate 9 rw [List.find?_cons_of_neg (by exact Bool.false_ne_true)]
    rw [List.find?_cons_of_neg (by rw [noLonger "!=" (by decide)]; exact Bool.false_ne_true)]
    rfl
  rw [readMark, found]
  rfl

theorem startsToken_named {c : Char} (named : c ∈ namedMarks) {rest : List Char}
    (name : ∃ d ∈ rest.head?, isNameStart d = true) :
    StartsToken (c :: rest) (.mark (String.singleton c)) rest := by
  obtain ⟨d, first, start⟩ := name
  obtain ⟨digit, point, equals⟩ := plain_of_starts start
  simp only [namedMarks, List.mem_cons, List.not_mem_nil, or_false] at named
  obtain rfl | rfl := named
  · refine ⟨opensToken_of rfl rfl (by decide) _, readToken_point fun e member => ?_⟩
    cases Option.mem_unique first member
    exact ⟨digit, point⟩
  · refine startsToken_mark (by decide) (readMark_not fun same => ?_)
    rw [same] at first
    exact equals (Option.some.inj first).symm

end Marks

section Scan

/-- What follows a name in fixed text. -/
def nameEnds : List Char :=
  punctuation ++ [';', '(', ')']

theorem endsName_nameEnds {c : Char} (ends : c ∈ nameEnds) (rest : List Char) :
    EndsName (c :: rest) := by
  obtain mark | other := List.mem_append.mp ends
  · exact endsName_cons mark rest
  · simp only [List.mem_cons, List.not_mem_nil, or_false] at other
    rintro _ ⟨⟩
    obtain rfl | rfl | rfl := other <;> decide +kernel

/-- A mark at the start of a text, and the text after it. -/
def scanMark? (chars : List Char) : Option (String × List Char) :=
  match chars with
  | [] => none
  | c :: rest =>
    if loneMarks.contains c || (namedMarks.contains c && rest.head?.any isNameStart) then
      some (String.singleton c, rest)
    else
      (spacedMarks.find? fun mark => (mark.toList ++ [' ']).isPrefixOf chars).map fun mark =>
        (mark, chars.drop mark.toList.length)

/-- A token at the start of a text, and the text after it. Only names and strings without escapes
and marks are known, and no name may stand at the end. -/
def scanToken? (chars : List Char) : Option (Token × List Char) :=
  match chars with
  | [] => none
  | c :: rest =>
    if isNameStart c then
      let after := rest.dropWhile isNamePart
      if after.head?.any nameEnds.contains then
        some (.name (String.ofList (c :: rest.takeWhile isNamePart)) false, after)
      else none
    else if c == '"' || c == '\x27' then
      match rest.dropWhile (isExact c) with
      | d :: after =>
        if d == c then some (.text (unitsOfChars (rest.takeWhile (isExact c))) true false, after)
        else none
      | [] => none
    else (scanMark? chars).map fun (mark, after) => (.mark mark, after)

theorem scanMark?_sound {chars after : List Char} {mark : String}
    (scanned : scanMark? chars = some (mark, after)) (rest : List Char) :
    StartsToken (chars ++ rest) (.mark mark) (after ++ rest) := by
  cases chars with
  | nil => cases scanned
  | cons c more =>
    rw [scanMark?] at scanned
    split at scanned
    · rename_i known
      cases scanned
      rw [Bool.or_eq_true, Bool.and_eq_true] at known
      obtain lone | ⟨named, start⟩ := known
      · exact startsToken_lone (List.contains_iff_mem.mp lone) _
      · refine startsToken_named (List.contains_iff_mem.mp named) ?_
        cases after with
        | nil => cases start
        | cons d others => exact ⟨d, rfl, start⟩
    · cases found : spacedMarks.find? fun mark => (mark.toList ++ [' ']).isPrefixOf (c :: more) with
      | none => rw [found] at scanned; cases scanned
      | some own =>
        rw [found] at scanned
        obtain ⟨rfl, rfl⟩ := Prod.mk.inj (Option.some.inj scanned)
        have isPrefix := List.find?_some found
        obtain ⟨others, shape⟩ := List.isPrefixOf_iff_prefix.mp isPrefix
        rw [← shape]
        have starts := startsToken_spaced (List.mem_of_find?_eq_some found) (others ++ rest)
        simpa using starts

theorem startsToken_name {c : Char} {more : List Char} (start : isNameStart c = true)
    (ends : (more.dropWhile isNamePart).head?.any nameEnds.contains = true) (rest : List Char) :
    StartsToken (c :: more ++ rest)
      (.name (String.ofList (c :: more.takeWhile isNamePart)) false)
      (more.dropWhile isNamePart ++ rest) := by
  have identifier : isIdentifier (c :: more.takeWhile isNamePart) = true := by
    rw [isIdentifier, start, List.all_takeWhile]
    rfl
  have split : c :: more ++ rest =
      (c :: more.takeWhile isNamePart) ++ (more.dropWhile isNamePart ++ rest) := by
    rw [← List.append_assoc, List.cons_append, List.cons_append, List.takeWhile_append_dropWhile,
      List.cons_append]
  rw [split]
  refine ⟨opensToken_name identifier _, readToken_name identifier ?_⟩
  cases after : more.dropWhile isNamePart with
  | nil => rw [after] at ends; cases ends
  | cons d others =>
    rw [after] at ends
    exact endsName_nameEnds (List.contains_iff_mem.mp ends) _

theorem startsToken_quoted {quote : Char} (isQuote : quote ∈ ['"', '\x27']) {text : List Char}
    (exact : text.all (isExact quote) = true) (rest : List Char) :
    StartsToken (quote :: (text ++ quote :: rest)) (.text (unitsOfChars text) true false) rest := by
  obtain ⟨opens, read⟩ := readToken_quote isQuote (text ++ quote :: rest)
  refine ⟨opens, read.trans ?_⟩
  rw [readText, readQuoted?_exact exact rest _ (by rw [List.length_append]; omega)]

theorem scanToken?_sound {chars after : List Char} {token : Token}
    (scanned : scanToken? chars = some (token, after)) (rest : List Char) :
    StartsToken (chars ++ rest) token (after ++ rest) := by
  cases chars with
  | nil => cases scanned
  | cons c more =>
    rw [scanToken?] at scanned
    split at scanned
    · rename_i start
      simp only at scanned
      split at scanned
      · rename_i ends
        cases scanned
        exact startsToken_name start ends rest
      · cases scanned
    · split at scanned
      · rename_i quotes
        have isQuote : c ∈ ['"', '\x27'] := by simpa using quotes
        split at scanned
        · rename_i d after' shape
          split at scanned
          · rename_i same
            cases beq_iff_eq.mp same
            cases scanned
            have starts := startsToken_quoted isQuote (List.all_takeWhile (l := more)) (after ++ rest)
            have split : more = more.takeWhile (isExact c) ++ c :: after := by
              rw [← shape, List.takeWhile_append_dropWhile]
            have whole : c :: more ++ rest =
                c :: (more.takeWhile (isExact c) ++ c :: (after ++ rest)) :=
              congrArg (c :: ·) ((congrArg (· ++ rest) split).trans (List.append_assoc _ _ _))
            rwa [whole]
          · cases scanned
        · cases scanned
      · cases found : scanMark? (c :: more) with
        | none => rw [found] at scanned; cases scanned
        | some own =>
          rw [found] at scanned
          cases scanned
          exact scanMark?_sound found rest

/-- What a scan finds in a text: its tokens, and the standing of the script after them. -/
structure Scan where
  tokens : List (Token × Bool)
  braces : List Bool
  crossed : Bool
deriving DecidableEq

/-- Takes a text apart into tokens. No template goes on in it. -/
def scan : Nat → List Bool → Bool → List Char → Option Scan
  | _, braces, crossed, [] => some ⟨[], braces, crossed⟩
  | 0, _, _, _ => none
  | fuel + 1, braces, crossed, c :: chars =>
    if c == ' ' then scan fuel braces crossed chars
    else if c == '\n' then scan fuel braces true chars
    else match scanToken? (c :: chars) with
      | none => none
      | some (token, after) =>
        let position := Position.after ⟨false, braces⟩ token
        if position.inTemplate then none
        else (scan fuel position.braces false after).map fun found =>
          { found with tokens := (token, crossed) :: found.tokens }

theorem Lexed.scan (fuel : Nat) {braces : List Bool} {crossed : Bool} {chars : List Char}
    (found : Scan) (scanned : scan fuel braces crossed chars = some found) (rest : List Char) :
    Lexed ⟨braces, crossed, chars ++ rest⟩ found.tokens ⟨found.braces, found.crossed, rest⟩ := by
  fun_induction Script.scan fuel braces crossed chars generalizing found with
  | case1 => cases scanned; exact .nil _
  | case2 => cases scanned
  | case3 fuel braces crossed c chars blank ih =>
    cases beq_iff_eq.mp blank
    exact .congr (lexemes_space _ _ _) (ih _ scanned)
  | case4 fuel braces crossed c chars _ feed ih =>
    cases beq_iff_eq.mp feed
    exact .congr (lexemes_feed _ _ _) (ih _ scanned)
  | case5 => cases scanned
  | case6 => cases scanned
  | case7 fuel braces crossed c chars _ _ token after read position plain =>
    rename_i ih
    obtain ⟨more, own, rfl⟩ := Option.map_eq_some_iff.mp scanned
    have starts := scanToken?_sound read rest
    have goesOn : Position.after ⟨false, braces⟩ token = ⟨false, position.braces⟩ :=
      congrArg (Position.mk · position.braces) (Bool.not_eq_true _ ▸ plain)
    exact (Lexed.token starts.opens starts.read goesOn).append (ih _ own)

end Scan

end FootprintTemplate.Script
