/-! Texts of a script: the inside of a template literal, string literals, and names of object
members. -/
namespace FootprintTemplate.Script

/-- Text as it stands in a template literal. Backslashes, back quotes and the opening of a
substitution are escaped. -/
def escapeTemplate : List Char → List Char
  | [] => []
  | '$' :: '\x7b' :: rest => '\\' :: '$' :: '\x7b' :: escapeTemplate rest
  | c :: rest =>
    if c == '\\' || c == '\x60' then '\\' :: c :: escapeTemplate rest
    else c :: escapeTemplate rest

/-- Text that a template literal holds once it is evaluated. Every line end becomes a line feed. -/
def lineFeeds : List Char → List Char
  | [] => []
  | '\r' :: '\n' :: rest => '\n' :: lineFeeds rest
  | c :: rest => (if c == '\r' then '\n' else c) :: lineFeeds rest

def hexDigit (n : Nat) : Char :=
  (Nat.digitChar n)

/-- A character between double quotes. -/
def stringChar (c : Char) : List Char :=
  match c with
  | '"' => ['\\', '"']
  | '\\' => ['\\', '\\']
  | '\x08' => ['\\', 'b']
  | '\x0c' => ['\\', 'f']
  | '\n' => ['\\', 'n']
  | '\r' => ['\\', 'r']
  | '\t' => ['\\', 't']
  | c =>
    if c.toNat < 32 then
      ['\\', 'u', '0', '0', hexDigit (c.toNat / 16), hexDigit (c.toNat % 16)]
    else [c]

/-- A string literal in double quotes. -/
def stringLiteral (text : List Char) : List Char :=
  '"' :: (text.flatMap stringChar ++ ['"'])

def singleQuotedChar (c : Char) : List Char :=
  if c == '\\' || c == '\x27' then ['\\', c] else [c]

/-- A string literal in single quotes. Only quotes and backslashes are escaped. -/
def singleQuoted (text : List Char) : List Char :=
  '\x27' :: (text.flatMap singleQuotedChar ++ ['\x27'])

def isNameStart (c : Char) : Bool :=
  c.isAlpha || c == '_' || c == '$'

def isNamePart (c : Char) : Bool :=
  c.isAlphanum || c == '_' || c == '$'

/-- A name that can follow a point. Only ASCII names do. -/
def isIdentifier : List Char → Bool
  | c :: rest => isNameStart c && rest.all isNamePart
  | [] => false

/-- The name of a member in an object literal. -/
def propertyKey (name : List Char) : List Char :=
  if isIdentifier name then name else stringLiteral name

/-- The member of an object, after a point or in brackets. -/
def propertyAccess (object name : List Char) : List Char :=
  if isIdentifier name then object ++ '.' :: name
  else object ++ '[' :: (stringLiteral name ++ [']'])

end FootprintTemplate.Script
