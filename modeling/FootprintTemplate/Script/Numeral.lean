import FootprintTemplate.Script.Quoted

/-! Number literals of a script. -/
namespace FootprintTemplate.Script

open Number (Double)

inductive Numeral where
  /-- A number of 64 bits. The older forms start with a zero and a further digit. -/
  | double (value : Double) (old : Bool)
  /-- An integer of any size. -/
  | integer (value : Nat)

/-- Digits after one that is read already. Underscores stand between two digits. -/
def readDigits? (base : Nat) : List Char → Option (List Char × List Char)
  | [] => some ([], [])
  | '_' :: c :: rest =>
    if (digitIn? base c).isSome then
      (readDigits? base rest).map fun (digits, rest) => (c :: digits, rest)
    else none
  | c :: rest =>
    if c == '_' then none
    else if (digitIn? base c).isSome then
      (readDigits? base rest).map fun (digits, rest) => (c :: digits, rest)
    else some ([], c :: rest)

/-- At least one digit. -/
def readSomeDigits? (base : Nat) : List Char → Option (List Char × List Char)
  | c :: rest =>
    if (digitIn? base c).isSome then
      (readDigits? base rest).map fun (digits, rest) => (c :: digits, rest)
    else none
  | [] => none

def baseOf? : Char → Option Nat
  | 'x' | 'X' => some 16
  | 'o' | 'O' => some 8
  | 'b' | 'B' => some 2
  | _ => none

/-- An exponent, if one follows. It has to have digits. -/
def readExponent? : List Char → Option (Int × List Char)
  | e :: rest =>
    if e == 'e' || e == 'E' then
      match Number.takeSign rest with
      | (sign, rest) => (readSomeDigits? 10 rest).map fun (digits, rest) =>
        let n : Int := Number.naturalOf digits
        (if sign == some '-' then -n else n, rest)
    else some (0, e :: rest)
  | [] => some (0, [])

/-- The digits after a point, if one follows. -/
def readPointDigits? : List Char → Option (List Char × List Char)
  | '.' :: c :: rest =>
    if c.isDigit then (readDigits? 10 rest).map fun (digits, rest) => (c :: digits, rest)
    else some ([], c :: rest)
  | '.' :: rest => some ([], rest)
  | chars => some ([], chars)

/-- The fraction and exponent after the whole digits. -/
def readFraction? (whole : List Char) (old : Bool) (chars : List Char) :
    Option (Numeral × List Char) :=
  (readPointDigits? chars).bind fun (fraction, rest) =>
    (readExponent? rest).map fun (exponent, rest) =>
      (.double (.ofDecimal false (Number.naturalOf (whole ++ fraction))
        (exponent - fraction.length)) old, rest)

/-- The mark of an integer after its digits, or else the rest of a number of 64 bits. -/
def readEnding (integer : Nat) (number : List Char → Option (Numeral × List Char)) :
    List Char → Option (Numeral × List Char)
  | 'n' :: rest => some (.integer integer, rest)
  | rest => number rest

/-- A literal after the zero that it starts with. -/
def readZero? : List Char → Option (Numeral × List Char)
  | [] => readFraction? ['0'] false []
  | c :: rest =>
    match baseOf? c with
    | some base =>
      (readSomeDigits? base rest).bind fun (digits, rest) =>
        readEnding (valueIn base digits)
          (fun rest => some (.double (.ofDecimal false (valueIn base digits) 0) false, rest)) rest
    | none =>
      if c.isDigit then
        let digits := (c :: rest).takeWhile Char.isDigit
        let rest := (c :: rest).dropWhile Char.isDigit
        if digits.all isOctalDigit then
          some (.double (.ofDecimal false (valueIn 8 digits) 0) true, rest)
        else readFraction? digits true rest
      else readEnding 0 (readFraction? ['0'] false) (c :: rest)

/-- A literal that starts with a digit, or with a point and a digit. -/
def readNumeral? : List Char → Option (Numeral × List Char)
  | '.' :: rest => readFraction? [] false ('.' :: rest)
  | '0' :: rest => readZero? rest
  | chars =>
    (readSomeDigits? 10 chars).bind fun (digits, rest) =>
      readEnding (Number.naturalOf digits) (readFraction? digits false) rest

end FootprintTemplate.Script
