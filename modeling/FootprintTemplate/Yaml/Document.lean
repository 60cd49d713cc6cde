import FootprintTemplate.Yaml.Token

/-! Documents of a YAML stream, as trees of scalars, mappings and aliases. The number of an anchor is
the count of names known before it, so a name that is given anew may share its number with another
one. An alias stands for the last node of its number. -/
namespace FootprintTemplate.Yaml

structure Scalar where
  text : String
  style : Style
  /-- The full name of the tag given to it, if any. -/
  tag : Option Octets
deriving DecidableEq, Repr

inductive Node where
  | scalar (anchor : Option Nat) (scalar : Scalar)
  | mapping (anchor : Option Nat) (members : List (Node × Node))
  | alias (number : Nat)
deriving Repr

/-- A scalar that is left out. -/
def Node.missing : Node :=
  .scalar none ⟨"", .plain, none⟩

mutual
/-- The anchored nodes of a tree with their numbers, in the order in which they start. -/
def Node.anchored : Node → List (Nat × Node)
  | .scalar anchor scalar => anchor.toList.map fun n => (n, .scalar anchor scalar)
  | .mapping anchor members =>
    anchor.toList.map (fun n => (n, .mapping anchor members)) ++ anchoredMembers members
  | .alias _ => []

def anchoredMembers : List (Node × Node) → List (Nat × Node)
  | [] => []
  | member :: rest => anchoredMember member ++ anchoredMembers rest

def anchoredMember : Node × Node → List (Nat × Node)
  | (key, value) => key.anchored ++ value.anchored
end

/-- The node that a node of the tree stands for. -/
def Node.target? (root : Node) : Node → Option Node
  | .alias number => root.anchored.reverse.lookup number
  | node => some node

/-- The names of anchors met so far, each with the number it was given last. -/
abbrev Anchors := List (String × Nat)

def Anchors.add (anchors : Anchors) : Option String → Option Nat × Anchors
  | none => (none, anchors)
  | some name => (some anchors.length, (name, anchors.length) :: anchors.filter (·.1 != name))

/-- A value read from tokens, the anchors known after it, and the tokens after it. -/
structure Read (α : Type) where
  value : α
  anchors : Anchors
  rest : List Token

def Read.map {α β : Type} (f : α → β) (read : Read α) : Read β :=
  ⟨f read.value, read.anchors, read.rest⟩

/-- The anchor and the tag before a node, each at most once and in any order. -/
def properties (anchor : Option String) (tag : Option Tag) :
    List Token → Option String × Option Tag × List Token
  | .anchor name :: rest =>
    if anchor.isSome then (anchor, tag, .anchor name :: rest) else properties (some name) tag rest
  | .tag other :: rest =>
    if tag.isSome then (anchor, tag, .tag other :: rest) else properties anchor (some other) rest
  | rest => (anchor, tag, rest)

def endsBlockMember : List Token → Bool
  | .key :: _ | .value :: _ | .blockEnd :: _ => true
  | _ => false

def endsFlowMember : List Token → Bool
  | .value :: _ | .flowEntry :: _ | .flowMappingEnd :: _ => true
  | _ => false

def endsFlowValue : List Token → Bool
  | .flowEntry :: _ | .flowMappingEnd :: _ => true
  | _ => false

/-- The full name of a tag if there is one. Its handle has to stand for something. -/
def tagName? (handles : Handles) : Option Tag → Option (Option Octets)
  | none => some none
  | some tag => (tag.name? handles).map some

mutual
/-- Reads a node. Blocks are read only outside flow mappings. -/
def readNode (handles : Handles) (fuel : Nat) (inBlock : Bool) (anchors : Anchors)
    (tokens : List Token) : Option (Read Node) :=
  match fuel with
  | 0 => none
  | fuel + 1 =>
    match tokens with
    | .alias name :: rest => (anchors.lookup name).map fun number => ⟨.alias number, anchors, rest⟩
    | tokens =>
      let (name, tag, tokens) := properties none none tokens
      let (anchor, anchors) := anchors.add name
      match tagName? handles tag with
      | none => none
      | some tag =>
        match inBlock, tokens with
        | _, .scalar text style :: rest => some ⟨.scalar anchor ⟨text, style, tag⟩, anchors, rest⟩
        | _, .flowMappingStart :: rest =>
          (readFlow handles fuel true [] anchors rest).map (Read.map (.mapping anchor))
        | true, .blockMappingStart :: rest =>
          (readBlock handles fuel [] anchors rest).map (Read.map (.mapping anchor))
        | _, tokens =>
          if name.isSome || tag.isSome then
            some ⟨.scalar anchor ⟨"", .plain, tag⟩, anchors, tokens⟩
          else none

/-- Reads the members of a block mapping, which are kept newest first. -/
def readBlock (handles : Handles) (fuel : Nat) (members : List (Node × Node)) (anchors : Anchors)
    (tokens : List Token) : Option (Read (List (Node × Node))) :=
  match fuel with
  | 0 => none
  | fuel + 1 =>
    match tokens with
    | .blockEnd :: rest => some ⟨members.reverse, anchors, rest⟩
    | .key :: rest =>
      match readOr handles fuel true (endsBlockMember rest) anchors rest with
      | none => none
      | some key =>
        match key.rest with
        | .value :: rest =>
          match readOr handles fuel true (endsBlockMember rest) key.anchors rest with
          | none => none
          | some value =>
            readBlock handles fuel ((key.value, value.value) :: members) value.anchors value.rest
        | rest => readBlock handles fuel ((key.value, .missing) :: members) key.anchors rest
    | _ => none

/-- Reads the members of a flow mapping. All but the first follow a comma. -/
def readFlow (handles : Handles) (fuel : Nat) (first : Bool) (members : List (Node × Node))
    (anchors : Anchors) (tokens : List Token) : Option (Read (List (Node × Node))) :=
  match fuel with
  | 0 => none
  | fuel + 1 =>
    match first, tokens with
    | _, .flowMappingEnd :: rest => some ⟨members.reverse, anchors, rest⟩
    | true, tokens => readFlowMember handles fuel members anchors tokens
    | false, .flowEntry :: .flowMappingEnd :: rest => some ⟨members.reverse, anchors, rest⟩
    | false, .flowEntry :: rest => readFlowMember handles fuel members anchors rest
    | false, _ => none

def readFlowMember (handles : Handles) (fuel : Nat) (members : List (Node × Node))
    (anchors : Anchors) (tokens : List Token) : Option (Read (List (Node × Node))) :=
  match fuel with
  | 0 => none
  | fuel + 1 =>
    match tokens with
    | .key :: rest =>
      match readOr handles fuel false (endsFlowMember rest) anchors rest with
      | none => none
      | some key =>
        match key.rest with
        | .value :: rest =>
          match readOr handles fuel false (endsFlowValue rest) key.anchors rest with
          | none => none
          | some value =>
            readFlow handles fuel false ((key.value, value.value) :: members) value.anchors
              value.rest
        | rest => readFlow handles fuel false ((key.value, .missing) :: members) key.anchors rest
    | tokens =>
      match readNode handles fuel false anchors tokens with
      | none => none
      | some key =>
        readFlow handles fuel false ((key.value, .missing) :: members) key.anchors key.rest

/-- Reads a node unless it is left out. -/
def readOr (handles : Handles) (fuel : Nat) (inBlock missing : Bool) (anchors : Anchors)
    (tokens : List Token) : Option (Read Node) :=
  match fuel with
  | 0 => none
  | fuel + 1 =>
    if missing then some ⟨.missing, anchors, tokens⟩
    else readNode handles fuel inBlock anchors tokens
end

/-- Steps that reading a node takes for each token at most. -/
def stepsPerToken : Nat := 4

/-- Nothing of the document follows. -/
def endsDocument : List Token → Bool
  | [] | .directive _ :: _ | .documentStart :: _ | .documentEnd :: _ => true
  | _ => false

/-- The directives before a document. -/
def splitDirectives : List Token → List Directive × List Token
  | .directive directive :: rest =>
    let (directives, rest) := splitDirectives rest
    (directive :: directives, rest)
  | rest => ([], rest)

/-- A document whose start is read: its handles, its tokens, and whether the start is written. -/
structure Opened where
  handles : Handles
  tokens : List Token
  isExplicit : Bool

/-- Only a written start may follow directives. -/
def openDocument (tokens : List Token) : Option Opened :=
  let (directives, rest) := splitDirectives tokens
  match declareHandles false [] directives, directives, rest with
  | some handles, _, .documentStart :: rest => some ⟨handles, rest, true⟩
  | some handles, [], rest => some ⟨handles, rest, false⟩
  | _, _, _ => none

inductive Stream where
  | empty
  | document (root : Node)
deriving Repr

/-- Reads a stream of at most one document. -/
def readStream (text : String) : Option Stream :=
  match tokenize text with
  | none => none
  | some [] => some .empty
  | some tokens =>
    match openDocument tokens with
    | none => none
    | some ⟨handles, content, isExplicit⟩ =>
      let fuel := stepsPerToken * (tokens.length + 1)
      match readOr handles fuel true (isExplicit && endsDocument content) [] content with
      | none => none
      | some read =>
        if (read.rest.dropWhile (· == .documentEnd)).isEmpty then some (.document read.value)
        else none

end FootprintTemplate.Yaml
