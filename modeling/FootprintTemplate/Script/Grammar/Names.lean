import FootprintTemplate.Script.Cursor

/-! Names that statements declare, and what may not be declared twice. -/
namespace FootprintTemplate.Script

/-- A name declared in a block, and whether it may be declared again as a routine. -/
abbrev BlockName := String × Bool

/-- The names that a statement declares for its block. -/
def Tree.blockNames (strict : Bool) (tree : Tree) : List BlockName :=
  match tree.unlabelled with
  | .declare kind items =>
    if kind == .hoisted then [] else (Tree.allBoundNames items).map fun own => (own, false)
  | .ofClass own _ _ _ _ => own.toList.map fun own => (own, false)
  | .routine info _ _ _ =>
    info.name.toList.map fun own => (own, !strict && !info.isAsync && !info.isGenerator)
  | _ => []

def blockNames (strict : Bool) (body : List Tree) : List BlockName :=
  body.flatMap (Tree.blockNames strict)

def Tree.isRoutine (tree : Tree) : Bool :=
  match tree.unlabelled with
  | .routine _ _ _ _ => true
  | _ => false

/-- The names that the body of a routine declares with their values. -/
def topNames (body : List Tree) : List String :=
  (blockNames true (body.filter (!·.isRoutine))).map Prod.fst

/-- The names of the routines that a body declares. -/
def routineNames (body : List Tree) : List String :=
  (blockNames true (body.filter Tree.isRoutine)).map Prod.fst

def isDistinct : List String → Bool
  | [] => true
  | name :: rest => !rest.contains name && isDistinct rest

def isDisjoint (names others : List String) : Bool :=
  names.all fun name => !others.contains name

/-- No name is declared twice, apart from routines. -/
def areBlockNames : List BlockName → Bool
  | [] => true
  | (name, again) :: rest =>
    (rest.filter (·.1 == name)).all (fun other => again && other.2) && areBlockNames rest

/-- The declarations of a block agree with each other and with those hoisted out of it. -/
def isBlock (strict : Bool) (body : List Tree) (hoisted : List String) : Bool :=
  let names := blockNames strict body
  areBlockNames names && isDisjoint (names.map Prod.fst) hoisted

/-- The declarations of a routine's body agree with each other and with its parameters. -/
def isBody (body : List Tree) (hoisted parameters : List String) : Bool :=
  let names := topNames body
  isDistinct names && isDisjoint names (hoisted ++ routineNames body ++ parameters)

end FootprintTemplate.Script
