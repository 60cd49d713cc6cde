import FootprintTemplate.Regex.Read
import FootprintTemplate.Text.Blank
import FootprintTemplate.Text.DecimalDigit
import FootprintTemplate.Text.Uppercase

/-! Matching of regular expressions by trying alternatives in order. -/
namespace FootprintTemplate.Regex

/-- Where a match stands, and the bounds of the groups that have matched. -/
structure Trial where
  place : Nat
  groups : Array (Option (Nat × Nat))

/-- What is matched against. -/
structure Subject where
  flags : Flags
  text : Array UInt16

namespace Subject

/-- The character from a place on and the place after it. -/
def after? (subject : Subject) (place : Nat) : Option (Nat × Nat) :=
  match subject.text[place]? with
  | none => none
  | some u =>
    match subject.text[place + 1]? with
    | some low =>
      if subject.flags.byCode && Text.isHighSurrogate u && Text.isLowSurrogate low then
        some (Text.pairedPoint u low, place + 2)
      else some (u.toNat, place + 1)
    | none => some (u.toNat, place + 1)

/-- The character up to a place and the place before it. -/
def before? (subject : Subject) (place : Nat) : Option (Nat × Nat) :=
  if place == 0 then none
  else match subject.text[place - 1]? with
    | none => none
    | some u =>
      match (if place < 2 then none else subject.text[place - 2]?) with
      | some high =>
        if subject.flags.byCode && Text.isHighSurrogate high && Text.isLowSurrogate u then
          some (Text.pairedPoint high u, place - 2)
        else some (u.toNat, place - 1)
      | none => some (u.toNat, place - 1)

def step? (subject : Subject) (ahead : Bool) (place : Nat) : Option (Nat × Nat) :=
  if ahead then subject.after? place else subject.before? place

end Subject

def isWordChar (c : Nat) : Bool :=
  isDigit c || isLetter c || c == '_'.toNat

def isLineEnd (c : Nat) : Bool :=
  c == 10 || c == 13 || c == 0x2028 || c == 0x2029

def isSpace (c : Nat) : Bool :=
  c == 0xfeff || (9 ≤ c && c ≤ 13) || c == 0x20 || c == 0xa0 || c == 0x1680 ||
    (0x2000 ≤ c && c ≤ 0x200a) || c == 0x2028 || c == 0x2029 || c == 0x202f || c == 0x205f ||
    c == 0x3000

def CharClass.holds (kind : CharClass) (c : Nat) : Bool :=
  match kind with
  | .digit => isDigit c
  | .word => isWordChar c
  | .space => isSpace c
  | .letter => Text.startsIdentifier (Char.ofNat c)

/-- Characters that differ only in case are alike. -/
def fold (flags : Flags) (c : Nat) : Nat :=
  if flags.ignoreCase then
    let upper := Text.upperPoint c
    if c ≥ 128 && upper < 128 && !flags.byCode then c else upper
  else c

def SetItem.holds (flags : Flags) (c : Nat) : SetItem → Bool
  | .range first last =>
    (first ≤ c && c ≤ last) || (flags.ignoreCase &&
      let folded := fold flags c
      (List.range (min (last + 1 - first) 512)).any fun i => fold flags (first + i) == folded)
  | .ofClass kind negated => kind.holds c != negated

/-- The word character before or after the place. -/
def isWordAt (subject : Subject) (found : Option (Nat × Nat)) : Bool :=
  found.any fun (c, _) =>
    isWordChar c || (subject.flags.byCode && isWordChar (fold subject.flags c))

def Edge.holds (subject : Subject) (place : Nat) : Edge → Bool
  | .start => place == 0 || (subject.flags.multiline &&
      (subject.before? place).any fun found => isLineEnd found.1)
  | .finish => place == subject.text.size || (subject.flags.multiline &&
      (subject.after? place).any fun found => isLineEnd found.1)
  | .boundary => isWordAt subject (subject.before? place) != isWordAt subject (subject.after? place)
  | .inside => isWordAt subject (subject.before? place) == isWordAt subject (subject.after? place)

/-- The same units stand between two places as from or up to a further one. -/
def repeats (subject : Subject) (first last place : Nat) (ahead : Bool) : Option Nat :=
  let size := last - first
  if !ahead && place < size then none
  else
    let start := if ahead then place else place - size
    let isSame := (List.range size).all fun i =>
      match subject.text[first + i]?, subject.text[start + i]? with
      | some a, some b => fold subject.flags a.toNat == fold subject.flags b.toNat
      | _, _ => false
    if isSame then some (if ahead then place + size else start) else none

def forget (groups : Array (Option (Nat × Nat))) (first last : Nat) : Array (Option (Nat × Nat)) :=
  (List.range (last - first)).foldl
    (fun groups i => groups.setIfInBounds (first + i + 1) none) groups

/-- Tries to match a node, going ahead or back, and what comes after it. -/
def attempt (subject : Subject) :
    Nat → Bool → Node → Trial → (Trial → Option Trial) → Option Trial
  | 0, _, _, _, _ => none
  | fuel + 1, ahead, node, trial, next =>
    match node with
    | .empty => next trial
    | .char c =>
      match subject.step? ahead trial.place with
      | some (d, place) =>
        if fold subject.flags c == fold subject.flags d then next { trial with place } else none
      | none => none
    | .any =>
      match subject.step? ahead trial.place with
      | some (d, place) =>
        if subject.flags.dotAll || !isLineEnd d then next { trial with place } else none
      | none => none
    | .set negated items =>
      match subject.step? ahead trial.place with
      | some (d, place) =>
        if items.any (SetItem.holds subject.flags d) != negated then next { trial with place }
        else none
      | none => none
    | .sequence first second =>
      if ahead then
        attempt subject fuel ahead first trial fun trial =>
          attempt subject fuel ahead second trial next
      else
        attempt subject fuel ahead second trial fun trial =>
          attempt subject fuel ahead first trial next
    | .either first second =>
      match attempt subject fuel ahead first trial next with
      | some found => some found
      | none => attempt subject fuel ahead second trial next
    | .group index body =>
      attempt subject fuel ahead body trial fun after =>
        let bounds := (min trial.place after.place, max trial.place after.place)
        next { after with groups := after.groups.setIfInBounds index (some bounds) }
    | .reference index =>
      match (trial.groups[index]?).join with
      | none => next trial
      | some (first, last) =>
        match repeats subject first last trial.place ahead with
        | some place => next { trial with place }
        | none => none
    | .edge kind => if kind.holds subject trial.place then next trial else none
    | .look lookAhead negated body =>
      match attempt subject fuel lookAhead body trial some with
      | some found => if negated then none else next { found with place := trial.place }
      | none => if negated then next trial else none
    | .repeated body least most greedy firstGroup lastGroup =>
      let again : Option Trial → Option Trial := fun _ =>
        if most == some 0 then none
        else
          let start := { trial with groups := forget trial.groups firstGroup lastGroup }
          attempt subject fuel ahead body start fun after =>
            if least == 0 && after.place == trial.place then none
            else attempt subject fuel ahead
              (.repeated body (least - 1) (most.map (· - 1)) greedy firstGroup lastGroup) after next
      if least > 0 then again none
      else if greedy then
        match again none with
        | some found => some found
        | none => next trial
      else
        match next trial with
        | some found => some found
        | none => again none

/-- The bounds of the match that starts at a place, and those of its groups. -/
def matchAt (regex : Regex) (text : Array UInt16) (place : Nat) :
    Option (Array (Option (Nat × Nat))) :=
  let start := Trial.mk place (Array.replicate (regex.groups + 1) none)
  (attempt ⟨regex.flags, text⟩ (1000 + 100 * (text.size + 1)) true regex.node start some).map
    fun trial => trial.groups.setIfInBounds 0 (some (place, trial.place))

def firstMatch (regex : Regex) (text : Array UInt16) (place : Nat) :
    Option (Array (Option (Nat × Nat))) :=
  if regex.flags.sticky then matchAt regex text place
  else (List.range' place (text.size + 1 - place)).findSome? (matchAt regex text)

end FootprintTemplate.Regex
