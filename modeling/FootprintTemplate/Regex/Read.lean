import FootprintTemplate.Regex.Tree
import FootprintTemplate.Text.Identifier

/-! Reading of regular expressions. Without the flags for code points, braces and brackets that
close nothing stand for themselves, and so do escaped characters without a meaning. -/
namespace FootprintTemplate.Regex

open Text (Units)

structure Progress where
  rest : List Nat
  /-- Groups opened so far. -/
  groups : Nat
  names : List (Units × Nat)

structure Dialect where
  byCode : Bool
  /-- Groups of the whole expression. -/
  total : Nat
  hasNames : Bool

abbrev Read := StateT Progress Option

private def code (c : Char) : Nat :=
  c.toNat

/-- Groups in the text that follows, and whether one has a name. -/
def countGroups (inSet : Bool) : List Nat → Nat × Bool
  | [] => (0, false)
  | c :: rest =>
    if c == code '\\' then
      match rest with
      | _ :: rest => countGroups inSet rest
      | [] => (0, false)
    else if inSet then countGroups (c != code ']') rest
    else if c == code '[' then countGroups true rest
    else if c == code '(' then
      let isNamed := rest.take 2 == [code '?', code '<'] &&
        !((rest.drop 2).head?.any fun d => d == code '=' || d == code '!')
      let (count, named) := countGroups false rest
      if rest.head? == some (code '?') && !isNamed then (count, named)
      else (count + 1, named || isNamed)
    else countGroups false rest

def peek : Read (Option Nat) :=
  return (← get).rest.head?

def take : Read Nat := do
  match (← get).rest with
  | [] => failure
  | c :: rest => modify fun progress => { progress with rest }; return c

def isNext (text : String) : Read Bool :=
  return (text.toList.map code).isPrefixOf (← get).rest

def takes (text : String) : Read Bool := do
  let here ← isNext text
  if here then
    modify fun progress => { progress with rest := progress.rest.drop text.length }
  return here

def require (condition : Bool) : Read Unit :=
  if condition then pure () else failure

def isDigit (c : Nat) : Bool :=
  code '0' ≤ c && c ≤ code '9'

def isLetter (c : Nat) : Bool :=
  (code 'a' ≤ c && c ≤ code 'z') || (code 'A' ≤ c && c ≤ code 'Z')

def hexValue? (c : Nat) : Option Nat :=
  if isDigit c then some (c - code '0')
  else if code 'a' ≤ c && c ≤ code 'f' then some (c - code 'a' + 10)
  else if code 'A' ≤ c && c ≤ code 'F' then some (c - code 'A' + 10)
  else none

def natural (digits : List Nat) : Nat :=
  digits.foldl (fun n c => 10 * n + (c - code '0')) 0

def takeDigits : Read (List Nat) := do
  let progress ← get
  set { progress with rest := progress.rest.dropWhile isDigit }
  return progress.rest.takeWhile isDigit

/-- Exactly so many hexadecimal digits. -/
def hex? (count : Nat) : Read (Option Nat) := do
  let progress ← get
  let digits := (progress.rest.take count).filterMap hexValue?
  if digits.length == count then
    set { progress with rest := progress.rest.drop count }
    return some (digits.foldl (fun n d => 16 * n + d) 0)
  else return none

def bracedHex? : Read (Option Nat) := do
  let progress ← get
  match progress.rest with
  | c :: rest =>
    let digits := rest.takeWhile fun c => (hexValue? c).isSome
    let n := (digits.filterMap hexValue?).foldl (fun n d => 16 * n + d) 0
    if c == code '\x7b' && !digits.isEmpty && n ≤ 0x10ffff &&
        rest[digits.length]? == some (code '\x7d') then
      set { progress with rest := rest.drop (digits.length + 1) }
      return some n
    else return none
  | [] => return none

/-- The character after a `u`, as a pair of surrogates if one follows. -/
def unicodeEscape? (byCode : Bool) : Read (Option Nat) := do
  match ← (if byCode then bracedHex? else return none) with
  | some n => return some n
  | none =>
    match ← hex? 4 with
    | none => return none
    | some high =>
      if byCode && 0xD800 ≤ high && high < 0xDC00 && (← isNext "\\u") then
        let before ← get
        let _ ← takes "\\u"
        match ← hex? 4 with
        | some low =>
          if 0xDC00 ≤ low && low < 0xE000 then
            return some (Text.pairedPoint high.toUInt16 low.toUInt16)
          else
            set before
            return some high
        | none =>
          set before
          return some high
      else return some high

def classOf? (c : Nat) : Option (CharClass × Bool) :=
  if c == code 'd' then some (.digit, false)
  else if c == code 'D' then some (.digit, true)
  else if c == code 'w' then some (.word, false)
  else if c == code 'W' then some (.word, true)
  else if c == code 's' then some (.space, false)
  else if c == code 'S' then some (.space, true)
  else none

def controlOf? (c : Nat) : Option Nat :=
  if c == code 't' then some 9
  else if c == code 'n' then some 10
  else if c == code 'v' then some 11
  else if c == code 'f' then some 12
  else if c == code 'r' then some 13
  else none

def isMeta (c : Nat) : Bool :=
  ("^$\\.*+?()[]|/\x7b\x7d".toList.map code).contains c

/-- Up to three octal digits below four hundred, the first of which is read. -/
def octal (first : Nat) : Read Nat := do
  let progress ← get
  let fits (c : Nat) : Bool := isDigit c && c < code '8'
  let more := (progress.rest.take (if first < code '4' then 2 else 1)).takeWhile fits
  set { progress with rest := progress.rest.drop more.length }
  return (first :: more).foldl (fun n c => 8 * n + (c - code '0')) 0

/-- The property in braces. -/
def property : Read CharClass := do
  require (← takes "\x7b")
  let progress ← get
  let name := progress.rest.takeWhile (· != code '\x7d')
  require (!name.isEmpty && name.all fun c => isLetter c || isDigit c || c == code '_' ||
    c == code '=')
  set { progress with rest := progress.rest.drop (name.length + 1) }
  return if name.take 2 == [code 'N', code 'd'] then .digit else .letter

/-- The character that an escape stands for, after its backslash. -/
def escapedChar (dialect : Dialect) (inSet : Bool) : Read Nat := do
  let c ← take
  match controlOf? c with
  | some n => return n
  | none =>
    if c == code 'c' then
      match ← peek with
      | some d =>
        if isLetter d || (inSet && !dialect.byCode && (isDigit d || d == code '_')) then
          let _ ← take
          return d % 32
        else
          require (!dialect.byCode)
          modify fun progress => { progress with rest := c :: progress.rest }
          return code '\\'
      | none =>
        require (!dialect.byCode)
        modify fun progress => { progress with rest := c :: progress.rest }
        return code '\\'
    else if c == code 'x' then
      match ← hex? 2 with
      | some n => return n
      | none => require (!dialect.byCode); return c
    else if c == code 'u' then
      match ← unicodeEscape? dialect.byCode with
      | some n => return n
      | none => require (!dialect.byCode); return c
    else if c == code '0' && !(← peek).any isDigit then return 0
    else if isDigit c then
      require (!dialect.byCode)
      if c < code '8' then octal c else return c
    else
      require (!dialect.byCode || isMeta c || (inSet && c == code '-'))
      return c

/-- A character or a class in a set. -/
def setAtom (dialect : Dialect) : Read (Nat ⊕ SetItem) := do
  let c ← take
  if c != code '\\' then return .inl c
  else match (← peek).bind classOf? with
    | some (kind, negated) =>
      let _ ← take
      return .inr (.ofClass kind negated)
    | none =>
      if ← takes "b" then return .inl 8
      else if dialect.byCode && ((← isNext "p") || (← isNext "P")) then
        let negated := (← take) == code 'P'
        return .inr (.ofClass (← property) negated)
      else return .inl (← escapedChar dialect true)

def itemOf : Nat ⊕ SetItem → SetItem
  | .inl c => .range c c
  | .inr item => item

def setItems (dialect : Dialect) : Nat → Read (List SetItem)
  | 0 => failure
  | fuel + 1 => do
    if ← takes "]" then return []
    let first ← setAtom dialect
    if (← isNext "-") && !(← isNext "-]") then
      let _ ← take
      let last ← setAtom dialect
      match first, last with
      | .inl low, .inl high =>
        require (low ≤ high)
        return .range low high :: (← setItems dialect fuel)
      | first, last =>
        require (!dialect.byCode)
        let dash := SetItem.range (code '-') (code '-')
        return itemOf first :: dash :: itemOf last :: (← setItems dialect fuel)
    else return itemOf first :: (← setItems dialect fuel)

/-- The name of a group up to the closing angle bracket. -/
def groupName : Read Units := do
  let progress ← get
  let name := progress.rest.takeWhile (· != code '>')
  require (progress.rest[name.length]? == some (code '>'))
  let fits (start : Bool) (n : Nat) : Bool :=
    let c := Char.ofNat n
    c == '$' || if start then c == '_' || Text.startsIdentifier c else Text.continuesIdentifier c
  require (name.head?.any (fits true) && name.all (fits false))
  set { progress with rest := progress.rest.drop (name.length + 1) }
  return name.flatMap Text.unitsOfPoint

/-- An escape outside sets, after its backslash. -/
def escape (dialect : Dialect) : Read Node := do
  match (← peek).bind classOf? with
  | some (kind, negated) =>
    let _ ← take
    return .set false [.ofClass kind negated]
  | none =>
    if ← takes "b" then return .edge .boundary
    else if ← takes "B" then return .edge .inside
    else if dialect.byCode && ((← isNext "p") || (← isNext "P")) then
      let negated := (← take) == code 'P'
      return .set negated [.ofClass (← property) false]
    else if (dialect.byCode || dialect.hasNames) && (← takes "k") then
      require (← takes "<")
      let name ← groupName
      match (← get).names.lookup name with
      | some index => return .reference index
      | none => return .empty
    else
      let before ← get
      let digits ← takeDigits
      let n := natural digits
      if digits.head?.any (· != code '0') && (n ≤ dialect.total || dialect.byCode) then
        require (n ≤ dialect.total)
        return .reference n
      else
        set before
        return .char (← escapedChar dialect false)

/-- How often the part before is repeated. -/
def quantifier? (dialect : Dialect) : Read (Option (Nat × Option Nat)) := do
  if ← takes "*" then return some (0, none)
  else if ← takes "+" then return some (1, none)
  else if ← takes "?" then return some (0, some 1)
  else if ← isNext "\x7b" then
    let before ← get
    let _ ← take
    let least ← takeDigits
    let hasMost ← takes ","
    let most ← takeDigits
    if !least.isEmpty && (hasMost || most.isEmpty) && (← takes "\x7d") then
      let low := natural least
      let high := if !hasMost then some low else if most.isEmpty then none else some (natural most)
      require (high.all (low ≤ ·))
      return some (low, high)
    else
      require (!dialect.byCode)
      set before
      return none
  else return none

/-- A node with the quantifier that follows it. -/
def quantified (dialect : Dialect) (repeatable : Bool) (firstGroup : Nat) (node : Node) :
    Read Node := do
  match ← quantifier? dialect with
  | none => return node
  | some (least, most) =>
    require repeatable
    let greedy := !(← takes "?")
    return .repeated node least most greedy firstGroup (← get).groups

mutual
/-- Alternatives up to a closing parenthesis or the end. -/
def choice (dialect : Dialect) : Nat → Read Node
  | 0 => failure
  | fuel + 1 => do
    let first ← terms dialect fuel
    if ← takes "|" then return .either first (← choice dialect fuel) else return first

def terms (dialect : Dialect) : Nat → Read Node
  | 0 => failure
  | fuel + 1 => do
    if (← peek).isNone || (← isNext "|") || (← isNext ")") then return .empty
    let first ← term dialect fuel
    return .sequence first (← terms dialect fuel)

def term (dialect : Dialect) : Nat → Read Node
  | 0 => failure
  | fuel + 1 => do
    let groups := (← get).groups
    if ← takes "^" then return .edge .start
    else if ← takes "$" then return .edge .finish
    else if ← takes "(?=" then
      look dialect fuel true false >>= quantified dialect (!dialect.byCode) groups
    else if ← takes "(?!" then
      look dialect fuel true true >>= quantified dialect (!dialect.byCode) groups
    else if ← takes "(?<=" then
      look dialect fuel false false >>= quantified dialect false groups
    else if ← takes "(?<!" then
      look dialect fuel false true >>= quantified dialect false groups
    else if ← takes "(?:" then
      let body ← choice dialect fuel
      require (← takes ")")
      quantified dialect true groups body
    else if ← takes "(" then
      let index := groups + 1
      modify fun progress => { progress with groups := index }
      if ← takes "?" then
        require (← takes "<")
        let name ← groupName
        require ((← get).names.lookup name).isNone
        modify fun progress => { progress with names := progress.names ++ [(name, index)] }
      let body ← choice dialect fuel
      require (← takes ")")
      quantified dialect true groups (.group index body)
    else if ← takes "\\" then
      let node ← escape dialect
      let isEdge := match node with
        | .edge _ => true
        | _ => false
      quantified dialect (!isEdge) groups node
    else if ← takes "." then quantified dialect true groups .any
    else if ← takes "[" then
      let negated ← takes "^"
      let items ← setItems dialect ((← get).rest.length + 1)
      quantified dialect true groups (.set negated items)
    else
      let before ← get
      let c ← take
      require (!(("*+?)".toList.map code).contains c))
      if c == code '\x7b' then
        require (!dialect.byCode)
        set before
        require (← quantifier? dialect).isNone
        let _ ← take
      require (!(dialect.byCode && (c == code ']' || c == code '\x7d')))
      quantified dialect true groups (.char c)

def look (dialect : Dialect) (fuel : Nat) (ahead negated : Bool) : Read Node :=
  match fuel with
  | 0 => failure
  | fuel + 1 => do
    let body ← choice dialect fuel
    require (← takes ")")
    return .look ahead negated body
end

def read? (source flags : Units) : Option Regex := do
  let flags ← (Text.ofUnits? flags).bind fun text => Flags.read? text.toList
  let chars := if flags.byCode then Text.points source else source.map UInt16.toNat
  let (total, hasNames) := countGroups false chars
  let (node, progress) ← (choice ⟨flags.byCode, total, hasNames⟩ (4 * chars.length + 8)).run
    ⟨chars, 0, []⟩
  if progress.rest.isEmpty then some ⟨flags, node, progress.groups, progress.names⟩ else none

end FootprintTemplate.Regex
