import FootprintTemplate.Script.Token

/-! The tokens of a script, each read when it is asked for. Where a closing brace goes on with a
template is known from the braces before it; where a slash opens a pattern, only the reader of the
script knows. -/
namespace FootprintTemplate.Script

inductive Lexemes where
  | done
  /-- A token, what follows it, and what stands here instead where a slash opens a pattern. -/
  | read (token : Token) (opensLine : Bool) (next pattern : Unit → Lexemes)

/-- Where in a script a text stands. -/
structure Position where
  /-- The text is that of a template. -/
  inTemplate : Bool := false
  /-- Of the open braces, the innermost first, which hold a value of a template. -/
  braces : List Bool := []

def Position.after (position : Position) : Token → Position
  | .mark "\x7b" => ⟨false, false :: position.braces⟩
  | .mark "\x7d" => ⟨position.braces.head? == some true, position.braces.tail⟩
  | .template _ _ false => ⟨false, true :: position.braces⟩
  | _ => ⟨false, position.braces⟩

/-- The token that a text starts with at a position. -/
def lexemeAt (position : Position) (chars : List Char) : Lexeme :=
  if position.inTemplate then
    let (token, rest) := readTemplate chars
    ⟨token, false, [], rest⟩
  else readLexeme chars

/-- So many tokens of a text at a position. -/
def lexemes : Nat → Position → List Char → Lexemes
  | 0, _, _ => .done
  | count + 1, position, chars =>
    let lexeme := lexemeAt position chars
    .read lexeme.token lexeme.opensLine
      (fun _ => lexemes count (position.after lexeme.token) lexeme.rest)
      (fun _ =>
        match lexeme.start with
        | '/' :: chars =>
          let (token, rest) := readPattern chars
          .read token lexeme.opensLine (fun _ => lexemes count (position.after token) rest)
            fun _ => .done
        | _ => .done)

namespace Lexemes

def token : Lexemes → Token
  | done => .finish
  | read token _ _ _ => token

def opensLine : Lexemes → Bool
  | done => false
  | read _ opensLine _ _ => opensLine

def next : Lexemes → Lexemes
  | done => done
  | read _ _ next _ => next ()

/-- The token read anew as a pattern. -/
def asPattern : Lexemes → Lexemes
  | done => done
  | read _ _ _ pattern => pattern ()

end Lexemes

end FootprintTemplate.Script
