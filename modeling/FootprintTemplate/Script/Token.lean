import FootprintTemplate.Script.Numeral
import FootprintTemplate.Text.Identifier

/-! Tokens of script text. They are read one at a time, since the meaning of a slash or a closing
brace depends on what stands before it. -/
namespace FootprintTemplate.Script

open Text (Units)

/-- Stands between two tokens on one line. -/
def isBlank (c : Char) : Bool :=
  c == ' ' || c == '\t' || c == '\x0b' || c == '\x0c' || c == '\u00a0' || c == '\ufeff' ||
    c == '\u1680' || ('\u2000' ≤ c && c ≤ '\u200a') || c == '\u202f' || c == '\u205f' ||
    c == '\u3000'

inductive Token where
  | name (text : String) (escaped : Bool)
  /-- A name after a number sign, which belongs to a class. -/
  | secret (text : String)
  | number (value : Number.Double) (old : Bool)
  | integer (value : Nat)
  | text (value : Units) (exact octal : Bool)
  | template (value : Option Units) (written : Units) (final : Bool)
  | pattern (source flags : List Char)
  | mark (text : String)
  | finish
  /-- Text that is no token. -/
  | broken
deriving DecidableEq

/-- A token in its place. -/
structure Lexeme where
  token : Token
  /-- A line end stands before it. -/
  opensLine : Bool
  /-- The text from the token on, where a pattern could stand instead. -/
  start : List Char
  /-- The text after the token. -/
  rest : List Char

def startsName (c : Char) : Bool :=
  c == '$' || c == '_' || Text.startsIdentifier c

def continuesName (c : Char) : Bool :=
  c == '$' || c == '\u200c' || c == '\u200d' || Text.continuesIdentifier c

/-- Marks of one to four characters; the longest that fits is read. -/
def marks : List String :=
  [">>>=", "...", "===", "!==", "**=", "<<=", ">>=", ">>>", "&&=", "||=", "??=", "=>", "==", "!=",
    "<=", ">=", "&&", "||", "??", "?.", "++", "--", "+=", "-=", "*=", "/=", "%=", "&=", "|=", "^=",
    "<<", ">>", "**", "\x7b", "\x7d", "(", ")", "[", "]", ".", ";", ",", "<", ">", "+", "-", "*",
    "/", "%", "&", "|", "^", "!", "~", "?", ":", "="]

/-- A question mark and a point are two marks where a digit follows. -/
def markFits (chars : List Char) (mark : String) : Bool :=
  mark.toList.isPrefixOf chars &&
    !(mark == "?." && (chars.drop 2).head?.any Char.isDigit)

def readMark (chars : List Char) : Token × List Char :=
  match marks.find? (markFits chars) with
  | some mark => (.mark mark, chars.drop mark.length)
  | none => (.broken, [])

/-- Where in blanks and comments a text stands. -/
inductive Gap where
  | blank
  | lineComment
  | comment

/-- What follows blanks and comments, and whether a line ends in them. -/
def skipGap (gap : Gap) (crossed : Bool) : List Char → Option (Bool × List Char)
  | [] => match gap with
    | .comment => none
    | _ => some (crossed, [])
  | c :: rest =>
    match gap, c, rest with
    | .blank, '/', '/' :: rest => skipGap .lineComment crossed rest
    | .blank, '/', '*' :: rest => skipGap .comment crossed rest
    | .blank, c, rest =>
      if isLineEnd c then skipGap .blank true rest
      else if isBlank c then skipGap .blank crossed rest
      else some (crossed, c :: rest)
    | .lineComment, c, rest =>
      if isLineEnd c then skipGap .blank true rest else skipGap .lineComment crossed rest
    | .comment, '*', '/' :: rest => skipGap .blank crossed rest
    | .comment, c, rest => skipGap .comment (crossed || isLineEnd c) rest

/-- The characters of a name, whether one is escaped, and the text after it. -/
def readName (fits : Char → Bool) : Nat → List Char → List Char × Bool × List Char
  | 0, chars => ([], false, chars)
  | _, [] => ([], false, [])
  | fuel + 1, '\\' :: 'u' :: rest =>
    match readPoint? rest with
    | some (n, after) =>
      if fits (Char.ofNat n) then
        let (more, _, rest) := readName continuesName fuel after
        (Char.ofNat n :: more, true, rest)
      else ([], false, '\\' :: 'u' :: rest)
    | none => ([], false, '\\' :: 'u' :: rest)
  | fuel + 1, c :: rest =>
    if fits c then
      let (more, escaped, rest) := readName continuesName fuel rest
      (c :: more, escaped, rest)
    else ([], false, c :: rest)

/-- A name, or none where a backslash follows that starts no character of a name. -/
def readWhole (chars : List Char) : Option (String × Bool × List Char) :=
  match readName startsName chars.length chars with
  | ([], _, _) | (_, _, '\\' :: _) => none
  | (name, escaped, rest) => some (String.ofList name, escaped, rest)

/-- No name and no digit may follow a number. -/
def readNumber (chars : List Char) : Token × List Char :=
  match readNumeral? chars with
  | none => (.broken, [])
  | some (numeral, rest) =>
    if rest.head?.any fun c => startsName c || c.isDigit || c == '\\' then (.broken, [])
    else match numeral with
      | .double value old => (.number value old, rest)
      | .integer value => (.integer value, rest)

def readTemplate (chars : List Char) : Token × List Char :=
  match readStretch? (chars.length + 1) chars with
  | some stretch => (.template stretch.value stretch.written stretch.final, stretch.rest)
  | none => (.broken, [])

def readText (quote : Char) (chars : List Char) : Token × List Char :=
  match readQuoted? quote (chars.length + 1) chars with
  | some text => (.text text.value text.exact text.octal, text.rest)
  | none => (.broken, [])

/-- The body of a pattern up to its closing slash. A slash may stand in brackets or escaped. -/
def readPatternBody (inBrackets : Bool) : List Char → Option (List Char × List Char)
  | [] => none
  | '\\' :: c :: rest =>
    if isLineEnd c then none
    else (readPatternBody inBrackets rest).map fun (body, rest) => ('\\' :: c :: body, rest)
  | c :: rest =>
    if isLineEnd c then none
    else if c == '/' && !inBrackets then some ([], rest)
    else
      (readPatternBody ((inBrackets || c == '[') && c != ']') rest).map fun (body, rest) =>
        (c :: body, rest)

/-- Reads a pattern after its opening slash. -/
def readPattern (chars : List Char) : Token × List Char :=
  match readPatternBody false chars with
  | some (body, rest) =>
    (.pattern body (rest.takeWhile continuesName), rest.dropWhile continuesName)
  | none => (.broken, [])

/-- Reads a token that is no comment. -/
def readToken : List Char → Token × List Char
  | [] => (.finish, [])
  | c :: rest =>
    if startsName c || c == '\\' then
      match readWhole (c :: rest) with
      | some (name, escaped, rest) => (.name name escaped, rest)
      | none => (.broken, [])
    else if c == '#' then
      match readWhole rest with
      | some (name, _, rest) => (.secret name, rest)
      | none => (.broken, [])
    else if c.isDigit || (c == '.' && rest.head?.any Char.isDigit) then readNumber (c :: rest)
    else if c == '\x27' || c == '"' then readText c rest
    else if c == '\x60' then readTemplate rest
    else readMark (c :: rest)

/-- The token after blanks and comments. -/
def readLexeme (chars : List Char) : Lexeme :=
  match skipGap .blank false chars with
  | none => ⟨.broken, false, [], []⟩
  | some (crossed, start) =>
    let (token, rest) := readToken start
    ⟨token, crossed, start, rest⟩

end FootprintTemplate.Script
