import FootprintTemplate.Proofs.Script.Calls
import FootprintTemplate.Proofs.Script.Exports

/-! A call of the routine of a module. It keeps the lines in a list, finds out the face, adds one line
after another, and gives back the lines joined; on a side that the module does not know it fails. -/
namespace FootprintTemplate.Script

open Interpreter (machine)
open Library (find?)
open Text (Units units)

variable {store after : Store} {scope id : Nat} {value argument : Value} {tree : Tree}

section Declaring

variable {rest : List Tree}

/-- A statement that declares nothing in its block. -/
def isSilent : Tree → Bool
  | .expression _ | .branch _ _ _ | .giveBack _ => true
  | _ => false

theorem declareBlock_silent {trees : List Tree} (silent : trees.all isSilent = true) :
    Routines.declareBlock scope trees store = (.ok (), store) := by
  induction trees with
  | nil => rfl
  | cons tree rest ih =>
    rw [List.all_cons, Bool.and_eq_true] at silent
    have more := ih silent.2
    unfold Routines.declareBlock at more ⊢
    rw [List.forIn_cons]
    cases tree with
    | expression | branch | giveBack => exact more
    | _ => cases silent.1

theorem declareBlock_constant {name : String}
    (declared : Names.declare scope name { value := none, change := .refused } store =
      (.ok (), after)) :
    Routines.declareBlock scope (.declare .constant [.item (.name name) tree] :: rest) store =
      Routines.declareBlock scope rest after := by
  let one : String → Run (ForInStep PUnit) := fun name => do
    Names.declare scope name { value := none, change := .refused }
    pure (ForInStep.yield PUnit.unit)
  have names : (forIn [name] PUnit.unit fun name _ => one name : Run PUnit) store =
      (.ok PUnit.unit, after) := by
    rw [List.forIn_cons]
    exact (bind_ok ((bind_ok declared).trans rfl)).trans rfl
  have step : (do
      forIn (Tree.allBoundNames [.item (.name name) tree]) PUnit.unit fun name _ => one name
      pure (ForInStep.yield PUnit.unit) : Run (ForInStep PUnit)) store =
        (.ok (ForInStep.yield PUnit.unit), after) := (bind_ok names).trans rfl
  unfold Routines.declareBlock
  rw [List.forIn_cons]
  exact bind_eq ((bind_ok step).trans rfl) _

end Declaring

section Scope

/-- The scope of a call with its names. -/
def callScope (bindings : List (String × Binding)) : Scope where
  parent := some Library.scriptScope
  bindings := bindings
  hoists := true

/-- The names of the routine: the placement, the list of lines, and the face, once they are known. -/
def callNames (argument : Value) (lines face : Option Value) : List (String × Binding) :=
  [("p", ⟨some argument, .free⟩), ("fp", ⟨lines, .refused⟩), ("flip", ⟨face, .refused⟩)]

theorem setIfInBounds_push {α : Type} (items : Array α) (item other : α) :
    (items.push item).setIfInBounds items.size other = items.push other := by
  refine Array.ext' ?_
  rw [Array.toList_setIfInBounds, Array.toList_push, Array.toList_push, List.set_append_right _ _
    (Nat.le_of_eq Array.length_toList)]
  simp

theorem getElem?_pushScope (store : Store) (scope : Scope) :
    (store.pushScope scope).scopes[store.scopes.size]? = some scope :=
  Array.getElem?_push_size

theorem updateScope_pushScope (store : Store) (scope : Scope) (change : Scope → Scope) :
    Run.updateScope store.scopes.size change (store.pushScope scope) =
      (.ok (), store.pushScope (change scope)) := by
  rw [updateScope_of_getElem? (getElem?_pushScope store scope)]
  simp only [Store.withScope, Store.pushScope, setIfInBounds_push]

theorem getElem?_pushObject (store : Store) (object : Object) :
    (store.pushObject object).objects[store.objects.size]? = some object :=
  Array.getElem?_push_size

theorem withObject_pushObject (store : Store) (object other : Object) :
    (store.pushObject object).withObject store.objects.size other = store.pushObject other := by
  simp only [Store.withObject, Store.pushObject, setIfInBounds_push]

/-- The routine of a module, as it is made when the module is loaded. -/
def drawingRoutine (body : List Tree) : Routine :=
  ⟨{ arrowInfo with name := some "body" }, [.element (.name "p") .absent], .absent, body⟩

def drawingClosure (body : List Tree) : Closure where
  routine := drawingRoutine body
  scope := Library.scriptScope

variable {other own : Units} {header : Tree} {lines : List Tree} {m : Machine}

theorem declareBlock_body (store : Store) (argument : Value) :
    Routines.declareBlock store.scopes.size (bodyTrees other own header lines)
      (store.pushScope (callScope [("p", ⟨some argument, .free⟩)])) =
        (.ok (), store.pushScope (callScope (callNames argument none none))) := by
  have silent : (checkTree own :: pushTree header :: pushTree placeTree ::
      (lines.map pushTree ++ [pushTree lastTree, joinTree])).all isSilent = true := by
    simp [checkTree, pushTree, joinTree, isSilent]
  refine (declareBlock_constant (updateScope_pushScope store _ _)).trans ?_
  refine (declareBlock_constant (updateScope_pushScope store _ _)).trans ?_
  exact declareBlock_silent silent

/-- A call opens a scope of its own, in which the placement is known. -/
theorem enter_drawing (store : Store) (this argument : Value) :
    Routines.enter m id (drawingClosure (bodyTrees other own header lines)) (some this) none
      [argument] store =
        (.ok store.scopes.size, store.pushScope (callScope (callNames argument none none))) := by
  refine (bind_ok (openScope_eq _ store)).trans ?_
  have bound : Routines.bindParameters m store.scopes.size
      (drawingRoutine (bodyTrees other own header lines)) [argument]
        (store.pushScope (callScope [])) =
          (.ok (), store.pushScope (callScope [("p", ⟨some argument, .free⟩)])) :=
    (bind_ok (updateScope_pushScope store _ _)).trans rfl
  refine (bind_ok bound).trans ?_
  exact (bind_ok (declareBlock_body store argument)).trans rfl

end Scope

section Statements

/-- The store while lines are added to the list of a call. -/
def Store.drawing (start : Store) (argument : Value) (face : Option Value) (values : List Value) :
    Store :=
  (start.pushScope (callScope (callNames argument (some (.object start.objects.size)) face))).pushObject
    (listOf values)

variable {start : Store} {face : Option Value} {values : List Value} {depth : Nat}

theorem settle_drawing (name : String) (value : Value) (bindings : List (String × Binding))
    (object : Object) :
    Names.settle start.scopes.size name value
      ((start.pushScope (callScope bindings)).pushObject object) =
        (.ok (), (start.pushScope (callScope (Names.replace name
          (fun binding => { binding with value := some value }) bindings))).pushObject object) :=
  updateScope_pushScope (start.pushObject object) (callScope bindings) _

theorem execute_list (start : Store) (argument : Value) (depth : Nat) :
    (machine (depth + 2)).execute start.scopes.size listTree
      (start.pushScope (callScope (callNames argument none none))) =
        (.ok (.normal none), start.drawing argument none []) := by
  let lines : Value := .object start.objects.size
  have declared : Execute.declare (machine (depth + 1)) start.scopes.size .constant
      [.item (.name "fp") (.list [])] (start.pushScope (callScope (callNames argument none none))) =
        (.ok (), start.drawing argument none []) := by
    have made : (machine (depth + 1)).evaluate start.scopes.size (.list [])
        (start.pushScope (callScope (callNames argument none none))) =
          (.ok lines, (start.pushScope (callScope (callNames argument none none))).pushObject
            (listOf [])) := rfl
    refine (bind_ok made).trans ?_
    exact (bind_ok (settle_drawing "fp" lines _ (listOf []))).trans rfl
  exact (bind_ok declared).trans rfl

theorem strictlyEqual_text (one another : Units) :
    Operators.strictlyEqual (.text one) (.text another) = (one == another) := by
  rw [Bool.eq_iff_iff, beq_iff_eq]
  simp [Operators.strictlyEqual]

theorem binds_place (start : Store) (argument : Value) (face : Option Value) (values : List Value) :
    Binds (start.drawing argument face values) start.scopes.size "p" argument :=
  ⟨_, _, getElem?_pushScope start _, rfl, rfl⟩

theorem binds_lines (start : Store) (argument : Value) (face : Option Value) (values : List Value) :
    Binds (start.drawing argument face values) start.scopes.size "fp"
      (.object start.objects.size) :=
  ⟨_, _, getElem?_pushScope start _, rfl, rfl⟩

theorem knows_face (start : Store) (argument : Value) (flip : Bool) (values : List Value) :
    Knows (start.drawing argument (some (.truth flip)) values) start.scopes.size flip :=
  ⟨_, _, getElem?_pushScope start _, rfl, rfl⟩

theorem keeps_drawing (start : Store) (argument : Value) (face : Option Value)
    (values : List Value) : start.Keeps (start.drawing argument face values) :=
  (Store.Keeps.pushScope start _).trans (Store.Keeps.pushObject _ _)

variable {place : Nat} {side other own : Units}
  (sided : HasValue start place (.ofString "side") (.text side))

include sided

theorem evaluate_side : (machine (depth + 2)).evaluate start.scopes.size sideTree
    (start.drawing (.object place) face values) =
      (.ok (.text side), start.drawing (.object place) face values) :=
  evaluate_own ((binds_place _ _ _ _).evaluate depth) (sided.mono (keeps_drawing _ _ _ _))

/-- The face is found by comparing the side of the placement with the other side. -/
theorem execute_flip (depth : Nat) : (machine (depth + 4)).execute start.scopes.size (flipTree other)
      (start.drawing (.object place) none values) =
        (.ok (.normal none), start.drawing (.object place) (some (.truth (side == other))) values) := by
  have compared : (machine (depth + 3)).evaluate start.scopes.size
      (.binary .same sideTree (.constant (.text other)))
      (start.drawing (.object place) none values) =
        (.ok (.truth (side == other)), start.drawing (.object place) none values) := by
    refine (bind_ok (evaluate_side sided)).trans ?_
    rw [← strictlyEqual_text]
    rfl
  have declared : Execute.declare (machine (depth + 3)) start.scopes.size .constant
      [.item (.name "flip") (.binary .same sideTree (.constant (.text other)))]
      (start.drawing (.object place) none values) =
        (.ok (), start.drawing (.object place) (some (.truth (side == other))) values) := by
    refine (bind_ok compared).trans ?_
    exact (bind_ok (settle_drawing "flip" _ _ _)).trans rfl
  exact (bind_ok declared).trans rfl

end Statements

section Failing

variable {text : Units} {depth : Nat}

/-- An error with a message. -/
def failureOf (text : Units) : Object where
  prototype := some (Origin.error .error).id
  kind := .failure
  slots := #[(.text (units "message"), .hidden (.text text))]

theorem own?_failureOf (text name : Units) : (failureOf text).own? (.text name) =
    if name = units "message" then some (.hidden (.text text)) else none := by
  have own : (failureOf text).own? (.text name) = (failureOf text).slot? (.text name) := rfl
  rw [own, Object.slot?_other fun _ => Key.noConfusion, Object.slotPlace?, failureOf,
    Array.findIdx?_singleton]
  by_cases same : name = units "message"
  · rw [same]
    rfl
  · have apart : ((.text (units "message") : Key) == .text name) = false :=
      beq_false_of_ne fun equal => same (Key.text.inj equal).symm
    simp only [apart, same]
    rfl

theorem construct_native {home name : String} {post : Post} {native : Native}
    (own : IsNative store id home post name) (known : find? home post name = some native)
    (arguments : List Value) (newTarget : Nat) :
    (machine (depth + 1)).construct id arguments newTarget store =
      native.run ⟨machine depth, .undefined, arguments, some newTarget⟩ store := by
  obtain ⟨object, found, kind⟩ := own
  change (Run.object id >>= _) store = _
  rw [bind_ok (object_of_getElem? found), kind]
  simp only [known]

/-- Making an error with a text gives a further object, which holds the text. -/
theorem construct_error {maker : Nat} (makes : MakesErrors store maker) (text : Units) :
    (machine (depth + 1)).construct maker [.text text] maker store =
      (.ok (.object store.objects.size), store.pushObject (failureOf text)) := by
  let call : Call := ⟨machine depth, .undefined, [.text text], some maker⟩
  have base : call.base (.error .error) store = (.ok (Origin.error .error).id, store) :=
    (bind_ok makes.2.get).trans rfl
  have made : Library.Failures.makeAt .error 0 call store =
      (.ok store.objects.size, store.pushObject (failureOf text)) := by
    refine (bind_ok base).trans ?_
    refine (bind_ok (allocate_eq _ store)).trans ?_
    have put : Run.update store.objects.size (fun object =>
        object.put (.ofString "message") (.hidden (.text text)))
        (store.pushObject { prototype := some (Origin.error .error).id, kind := .failure }) =
          (.ok (), store.pushObject (failureOf text)) := by
      rw [update_of_getElem? (getElem?_pushObject store _), withObject_pushObject]
      rw [show Key.ofString "message" = .text (units "message") by decide,
        Object.put_other fun _ => Key.noConfusion, Object.slotPlace?_empty rfl]
      rfl
    have given : (call.argument 0 != .undefined) = true := rfl
    have own : call.text 0 (store.pushObject
        { prototype := some (Origin.error .error).id, kind := .failure }) =
          (.ok text, store.pushObject
            { prototype := some (Origin.error .error).id, kind := .failure }) := rfl
    rw [if_pos given]
    refine (bind_ok own).trans ?_
    exact (bind_ok put).trans rfl
  rw [construct_native makes.1 rfl]
  exact (bind_ok made).trans rfl

section Check

variable {start : Store} {place : Nat} {side own : Units} {flip : Bool} {values : List Value}
  (sided : HasValue start place (.ofString "side") (.text side))

theorem evaluate_not (known : Knows store scope flip) (depth : Nat) :
    (machine (depth + 2)).evaluate scope (.unary .not (.name "flip")) store =
      (.ok (.truth !flip), store) := by
  refine (bind_ok (Binds.evaluate known depth)).trans ?_
  cases flip <;> rfl

/-- The test of the failure: the placement is neither on the other side nor on the own one. -/
def unsupported (own : Units) : Tree :=
  .logic .and (.unary .not (.name "flip")) (.binary .different sideTree (.constant (.text own)))

include sided

theorem evaluate_unsupported (depth : Nat) :
    (machine (depth + 4)).evaluate start.scopes.size (unsupported own)
      (start.drawing (.object place) (some (.truth flip)) values) =
        (.ok (.truth (!flip && side != own)),
          start.drawing (.object place) (some (.truth flip)) values) := by
  refine (bind_ok (evaluate_not (knows_face start _ flip values) (depth + 1))).trans ?_
  cases flip with
  | true => rfl
  | false =>
    refine (bind_ok (evaluate_side sided)).trans ?_
    rw [bne, ← strictlyEqual_text]
    rfl

/-- On a side that the module knows nothing fails. -/
theorem execute_check (known : (!flip && side != own) = false) (depth : Nat) :
    (machine (depth + 5)).execute start.scopes.size (checkTree own)
      (start.drawing (.object place) (some (.truth flip)) values) =
        (.ok (.normal (some .undefined)),
          start.drawing (.object place) (some (.truth flip)) values) := by
  refine (bind_ok (evaluate_unsupported sided depth)).trans ?_
  rw [known]
  rfl

/-- On any other side the call fails, and the error names the side. -/
theorem execute_check_unsupported (equipped : Equipped start)
    (unknown : (!flip && side != own) = true) (depth : Nat) :
    (machine (depth + 6)).execute start.scopes.size (checkTree own)
      (start.drawing (.object place) (some (.truth flip)) values) =
        (.error (.thrown (.object (start.objects.size + 1))),
          (start.drawing (.object place) (some (.truth flip)) values).pushObject
            (failureOf (sideMessage ++ side))) := by
  let state := start.drawing (.object place) (some (.truth flip)) values
  have keeps : start.Keeps state := keeps_drawing _ _ _ _
  refine (bind_ok (evaluate_unsupported sided (depth + 1))).trans ?_
  rw [unknown]
  obtain ⟨maker, has, makes⟩ := equipped.error
  have name : (machine (depth + 3)).evaluate start.scopes.size (.name "Error") state =
      (.ok (.object maker), state) := by
    have found : state.scopes[start.scopes.size]? = some _ := getElem?_pushScope start _
    obtain ⟨writable, enumerable, configurable, holds⟩ := has.mono keeps
    refine (bind_ok (resolve_inside (equipped.mono keeps) found rfl rfl rfl holds)).trans ?_
    exact holds.get
  have message : (machine (depth + 3)).evaluate start.scopes.size
      (.binary .add (.constant (.text sideMessage)) sideTree) state =
        (.ok (.text (sideMessage ++ side)), state) := by
    refine (bind_ok (evaluate_text _ (depth + 1) sideMessage state)).trans ?_
    exact (bind_ok (evaluate_side sided)).trans rfl
  have given : Evaluate.items (machine (depth + 3)) start.scopes.size
      [.binary .add (.constant (.text sideMessage)) sideTree] state =
        (.ok [.text (sideMessage ++ side)], state) := (bind_ok message).trans rfl
  have constructs : Coerce.isConstructor (.object maker) state = (.ok true, state) := by
    obtain ⟨object, found, kind⟩ := makes.1.mono keeps
    refine (bind_ok (object_of_getElem? found)).trans ?_
    rw [kind]
    rfl
  have made : (machine (depth + 4)).evaluate start.scopes.size
      (.make (.name "Error") [.binary .add (.constant (.text sideMessage)) sideTree]) state =
        (.ok (.object (start.objects.size + 1)),
          state.pushObject (failureOf (sideMessage ++ side))) := by
    refine (bind_ok name).trans ?_
    refine (bind_ok given).trans ?_
    refine (bind_ok constructs).trans ?_
    have size : state.objects.size = start.objects.size + 1 := Array.size_push _
    rw [← size]
    exact construct_error (makes.mono keeps) _
  have failed : (machine (depth + 5)).execute start.scopes.size
      (.fail (.make (.name "Error") [.binary .add (.constant (.text sideMessage)) sideTree]))
        state = (.error (.thrown (.object (start.objects.size + 1))),
          state.pushObject (failureOf (sideMessage ++ side))) := (bind_ok made).trans rfl
  exact bind_error failed _

end Check

end Failing

end FootprintTemplate.Script
