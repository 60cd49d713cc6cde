import FootprintTemplate.Config

/-! Net names of one conversion. A pad keeps the name it got first. A name that is in use, or that
is the target of an override, is avoided by a numbered ending. -/
namespace FootprintTemplate

structure NetNamer where
  config : Config
  /-- The pads asked for so far with their names, in the order of first asking. -/
  assigned : List (String × String) := []
deriving Repr

namespace NetNamer

def startsWithDigit (pad : String) : Bool :=
  match pad.toList with
  | c :: _ => c.isDigit
  | [] => false

/-- The name of a pad's net where nothing stands in its way. -/
def candidate (config : Config) (pad : String) : String :=
  if !config.prefixNumberPadsOnly || startsWithDigit pad then config.padPrefix ++ pad else pad

/-- The candidate itself, then `_1`, `_2` and so on after it. -/
def suffixed (name : String) : Nat → String
  | 0 => name
  | k + 1 => name ++ "_" ++ toString (k + 1)

/-- Names in use: the targets of overrides and all assigned names. -/
def takenNames (namer : NetNamer) : List String :=
  namer.config.netNameOverrides.map Prod.snd ++ namer.assigned.map Prod.snd

/-- The first name of the sequence that is not taken. As many probes as there are taken names
and one more are enough. -/
def firstFree (taken : List String) (name : String) : String :=
  let free := (List.range (taken.length + 1)).find? fun k => !taken.contains (suffixed name k)
  suffixed name (free.getD 0)

def assign (namer : NetNamer) (pad net : String) : NetNamer :=
  { namer with assigned := namer.assigned ++ [(pad, net)] }

/-- The net of a pad and the namer that remembers it. -/
def name (namer : NetNamer) (pad : String) : String × NetNamer :=
  match namer.config.netNameOverrides.lookup pad, namer.assigned.lookup pad with
  | some net, none => (net, namer.assign pad net)
  | some net, some _ => (net, namer)
  | none, some net => (net, namer)
  | none, none =>
    let net := firstFree namer.takenNames (candidate namer.config pad)
    (net, namer.assign pad net)

def nameAll (namer : NetNamer) (pads : List String) : NetNamer :=
  pads.foldl (fun namer pad => (namer.name pad).2) namer

def netOf (namer : NetNamer) (pad : String) : String :=
  (namer.assigned.lookup pad).getD ""

/-- The distinct names in increasing order. -/
def paramNames (namer : NetNamer) : List String :=
  (namer.assigned.map Prod.snd).eraseDups.mergeSort (· ≤ ·)

end NetNamer

end FootprintTemplate
