import FootprintTemplate.Proofs.Script.Drawing

/-! What a call of the routine of a module gives back: its lines joined, or an error on a side that it
does not know. Whatever it gives, all that was there before the call is as it was. -/
namespace FootprintTemplate.Script

open Interpreter (machine)
open Text (Units units)

variable {store after start : Store} {scope id place : Nat} {value : Value} {tree : Tree}
  {depth : Nat} {face : Option Value} {values : List Value}

section Lines

/-- The values of a list in the place of an expression. -/
def isSpread : Tree → Bool
  | .spread _ => true
  | _ => false

theorem items_one {m : Machine} (single : isSpread tree = false)
    (ran : m.evaluate scope tree store = (.ok value, store)) :
    Evaluate.items m scope [tree] store = (.ok [value], store) := by
  cases tree with
  | spread => cases single
  | _ => exact (bind_ok ran).trans rfl

/-- An expression has this value in a call, whatever lines there are already. -/
def Adds (start : Store) (argument : Value) (face : Option Value) (depth : Nat) (tree : Tree)
    (value : Value) : Prop :=
  isSpread tree = false ∧ ∀ values,
    (machine depth).evaluate start.scopes.size tree (start.drawing argument face values) =
      (.ok value, start.drawing argument face values)

variable {argument : Value}

theorem Adds.execute (adds : Adds start argument face (depth + 1) tree value)
    (equipped : Equipped start) (small : values.length < indexLimit) :
    (machine (depth + 3)).execute start.scopes.size (pushTree tree)
      (start.drawing argument face values) =
        (.ok (.normal (some (.ofNat (values.length + 1)))),
          start.drawing argument face (values ++ [value])) := by
  have found := getElem?_pushObject (start.pushScope (callScope
    (callNames argument (some (.object start.objects.size)) face))) (listOf values)
  refine (execute_push (equipped.mono (keeps_drawing _ _ _ _)) (binds_lines _ _ _ _) found small
    (items_one adds.1 (adds.2 values))).trans ?_
  exact congrArg (Prod.mk _) (withObject_pushObject _ _ _)

theorem executeAll_pushes (equipped : Equipped start) {trees : List Tree} {added : List Value}
    (values : List Value) (rest : List Tree)
    (adds : List.Forall₂ (Adds start argument face (depth + 1)) trees added)
    (small : values.length + added.length ≤ indexLimit) (first : Option Value) :
    ∃ next, Routines.executeAll (machine (depth + 3)) start.scopes.size first
      (trees.map pushTree ++ rest) (start.drawing argument face values) =
        Routines.executeAll (machine (depth + 3)) start.scopes.size next rest
          (start.drawing argument face (values ++ added)) := by
  induction adds generalizing values first with
  | nil => exact ⟨first, by rw [List.append_nil]; rfl⟩
  | @cons tree value trees added one _ ih =>
    rw [List.length_cons] at small
    obtain ⟨next, more⟩ := ih (values ++ [value]) (by simp; omega)
      ((some (Value.ofNat (values.length + 1))).or first)
    refine ⟨next, (executeAll_normal (one.execute equipped (by omega))).trans (more.trans ?_)⟩
    rw [List.append_assoc]
    rfl

end Lines

section Call

variable {other own side : Units} {header : Tree} {lines : List Tree}

theorem bodyTrees_eq : bodyTrees other own header lines = listTree :: flipTree other ::
    checkTree own :: ((header :: placeTree :: (lines ++ [lastTree])).map pushTree ++ [joinTree]) := by
  simp [bodyTrees]

/-- The values that a call adds to its lines, and the texts that they are shown as. -/
structure AddsLines (start : Store) (place : Nat) (flip : Bool) (depth : Nat) (header : Tree)
    (lines : List Tree) (added : List Value) (texts : List Units) : Prop where
  adds : List.Forall₂ (Adds start (.object place) (some (.truth flip)) depth)
    (header :: placeTree :: (lines ++ [lastTree])) added
  shown : List.Forall₂ (Shown start) added texts
  few : added.length ≤ indexLimit

variable (equipped : Equipped start) (sided : HasValue start place (.ofString "side") (.text side))

include equipped sided

theorem runBody_known {added : List Value} {texts : List Units}
    (known : (!(side == other) && side != own) = false) (idle : start.joining = [])
    (adds : AddsLines start place (side == other) (depth + 8) header lines added texts) :
    Routines.runBody (machine (depth + 10)) start.scopes.size
      (drawingRoutine (bodyTrees other own header lines))
      (start.pushScope (callScope (callNames (.object place) none none))) =
        (.ok (.text (texts.intersperse (units "\n")).flatten),
          start.drawing (.object place) (some (.truth (side == other))) added) := by
  obtain ⟨next, pushes⟩ := executeAll_pushes equipped [] [joinTree] adds.adds
    (by simpa using adds.few)
    ((some Value.undefined).or (Option.or none (Option.or none none)))
  have shown : List.Forall₂ (Shown (start.drawing (.object place)
      (some (.truth (side == other))) added)) added texts :=
    adds.shown.imp fun _ _ own => own.mono (keeps_drawing _ _ _ _)
  have joined := execute_join (equipped.mono (keeps_drawing _ _ _ _))
    (binds_lines start (.object place) (some (.truth (side == other))) added) idle
    (getElem?_pushObject _ _) adds.few shown (depth + 6)
  have ran : Routines.executeAll (machine (depth + 10)) start.scopes.size none
      (bodyTrees other own header lines)
      (start.pushScope (callScope (callNames (.object place) none none))) =
        (.ok (.giveBack (.text (texts.intersperse (units "\n")).flatten)),
          start.drawing (.object place) (some (.truth (side == other))) added) := by
    rw [bodyTrees_eq]
    refine (executeAll_normal (execute_list start _ (depth + 8))).trans ?_
    refine (executeAll_normal (execute_flip sided (depth + 6))).trans ?_
    refine (executeAll_normal (execute_check sided known (depth + 5))).trans ?_
    exact pushes.trans (executeAll_giveBack joined)
  exact (bind_ok ran).trans rfl

theorem runBody_unsupported (unknown : (!(side == other) && side != own) = true) :
    Routines.runBody (machine (depth + 6)) start.scopes.size
      (drawingRoutine (bodyTrees other own header lines))
      (start.pushScope (callScope (callNames (.object place) none none))) =
        (.error (.thrown (.object (start.objects.size + 1))),
          (start.drawing (.object place) (some (.truth (side == other))) []).pushObject
            (failureOf (sideMessage ++ side))) := by
  have ran : Routines.executeAll (machine (depth + 6)) start.scopes.size none
      (bodyTrees other own header lines)
      (start.pushScope (callScope (callNames (.object place) none none))) =
        (.error (.thrown (.object (start.objects.size + 1))),
          (start.drawing (.object place) (some (.truth (side == other))) []).pushObject
            (failureOf (sideMessage ++ side))) := by
    rw [bodyTrees_eq]
    refine (executeAll_normal (execute_list start _ (depth + 4))).trans ?_
    refine (executeAll_normal (execute_flip sided (depth + 2))).trans ?_
    exact executeAll_error (execute_check_unsupported sided equipped unknown depth)
  exact bind_error ran _

end Call

section Whole

/-- One more call is running. -/
def Store.deeper (store : Store) : Store :=
  { store with depth := store.depth + 1 }

/-- An object is a routine of the script. -/
def IsClosure (store : Store) (id : Nat) (closure : Closure) : Prop :=
  ∃ object, store.objects[id]? = some object ∧ object.kind = .closure closure

theorem IsClosure.mono {closure : Closure} (own : IsClosure store id closure)
    (keeps : store.Keeps after) : IsClosure after id closure := by
  obtain ⟨object, found, kind⟩ := own
  exact ⟨object, keeps.objects _ _ found, kind⟩

theorem keeps_deeper (store : Store) : store.Keeps store.deeper :=
  ⟨fun _ _ found => found, fun _ _ found => found⟩

/-- A call that added objects one level deeper has added them all the same once it is over. -/
theorem Store.Grows.of_deeper (grows : start.deeper.Grows after) :
    start.Grows { after with depth := after.depth - 1 } where
  keeps := ⟨grows.keeps.objects, grows.keeps.scopes⟩
  depth := by
    change after.depth - 1 = start.depth
    rw [grows.depth]
    rfl
  joining := grows.joining

theorem grows_drawing (start : Store) (argument : Value) (face : Option Value)
    (values : List Value) : start.Grows (start.drawing argument face values) :=
  ⟨keeps_drawing _ _ _ _, rfl, rfl⟩

variable {other own : Units} {header : Tree} {lines : List Tree} {result : Except Stop Value}

/-- A call of the routine runs its body in a scope of its own, one call deeper. -/
theorem call_drawing (is : IsClosure start id (drawingClosure (bodyTrees other own header lines)))
    (shallow : start.depth < Routines.depthLimit) (this argument : Value)
    (ran : Routines.runBody (machine depth) start.scopes.size
      (drawingRoutine (bodyTrees other own header lines))
      (start.deeper.pushScope (callScope (callNames argument none none))) = (result, after)) :
    (machine (depth + 1)).call (.object id) this [argument] start =
      (result, { after with depth := after.depth - 1 }) := by
  obtain ⟨object, found, kind⟩ := is
  change (Run.object id >>= _) start = _
  rw [bind_ok (object_of_getElem? found), kind]
  have entered : Routines.enter (machine depth) id (drawingClosure (bodyTrees other own header lines))
      (some this) none [argument] start.deeper = _ := enter_drawing start.deeper this argument
  have inside : (do
      let scope ← Routines.enter (machine depth) id
        (drawingClosure (bodyTrees other own header lines)) (some this) none [argument]
      Routines.runBody (machine depth) scope (drawingRoutine (bodyTrees other own header lines)))
        start.deeper = (result, after) := (bind_ok entered).trans ran
  change Routines.deeper _ start = _
  rw [Routines.deeper, if_neg (by omega)]
  exact congrArg (fun found : Except Stop Value × Store =>
    (found.1, { found.2 with depth := found.2.depth - 1 })) inside

end Whole

end FootprintTemplate.Script
