import FootprintTemplate.Text.Units

/-! Regular expressions over units or code points. -/
namespace FootprintTemplate.Regex

structure Flags where
  indices : Bool := false
  isGlobal : Bool := false
  ignoreCase : Bool := false
  multiline : Bool := false
  dotAll : Bool := false
  /-- Goes through code points instead of units. -/
  unicode : Bool := false
  sets : Bool := false
  sticky : Bool := false
deriving DecidableEq, Repr

namespace Flags

def byCode (flags : Flags) : Bool :=
  flags.unicode || flags.sets

/-- The flags of a text in which each letter stands at most once. -/
def read? : List Char → Option Flags
  | [] => some {}
  | c :: rest =>
    if rest.contains c then none
    else match read? rest, c with
      | some flags, 'd' => some { flags with indices := true }
      | some flags, 'g' => some { flags with isGlobal := true }
      | some flags, 'i' => some { flags with ignoreCase := true }
      | some flags, 'm' => some { flags with multiline := true }
      | some flags, 's' => some { flags with dotAll := true }
      | some flags, 'u' => if flags.sets then none else some { flags with unicode := true }
      | some flags, 'v' => if flags.unicode then none else some { flags with sets := true }
      | some flags, 'y' => some { flags with sticky := true }
      | _, _ => none

/-- The letters of the flags in the order of the alphabet. -/
def text (flags : Flags) : String :=
  String.ofList <| [(flags.indices, 'd'), (flags.isGlobal, 'g'), (flags.ignoreCase, 'i'),
    (flags.multiline, 'm'), (flags.dotAll, 's'), (flags.unicode, 'u'), (flags.sets, 'v'),
    (flags.sticky, 'y')].filterMap fun (isSet, letter) => if isSet then some letter else none

end Flags

inductive CharClass where
  | digit
  | word
  | space
  | letter
deriving DecidableEq, Repr

inductive SetItem where
  | range (first last : Nat)
  | ofClass (kind : CharClass) (negated : Bool)
deriving DecidableEq, Repr

inductive Edge where
  | start
  | finish
  | boundary
  | inside
deriving DecidableEq, Repr

inductive Node where
  | empty
  | char (c : Nat)
  | any
  | set (negated : Bool) (items : List SetItem)
  | sequence (first second : Node)
  | either (first second : Node)
  | group (index : Nat) (body : Node)
  | reference (index : Nat)
  | edge (kind : Edge)
  | look (ahead negated : Bool) (body : Node)
  /-- The groups from one number up to another are forgotten with each repetition. -/
  | repeated (body : Node) (least : Nat) (most : Option Nat) (greedy : Bool)
    (firstGroup lastGroup : Nat)
deriving Repr

end FootprintTemplate.Regex

namespace FootprintTemplate

structure Regex where
  flags : Regex.Flags
  node : Regex.Node
  groups : Nat
  names : List (Text.Units × Nat)
deriving Repr

end FootprintTemplate
