import FootprintTemplate.Proofs.Script.Choice
import FootprintTemplate.Proofs.Script.Lines
import FootprintTemplate.Proofs.Script.Statements

/-! Names, members and calls as a script evaluates them, and the call that adds a line. -/
namespace FootprintTemplate.Script

open Interpreter (machine)
open Library (find?)
open Text (Units units)

variable {store after : Store} {scope id : Nat} {value : Value} {tree : Tree}

section Names

/-- A scope holds a value in a name. -/
def Binds (store : Store) (scope : Nat) (name : String) (value : Value) : Prop :=
  ∃ own binding, store.scopes[scope]? = some own ∧ own.bindings.lookup name = some binding ∧
    binding.value = some value

variable {name : String}

theorem Binds.resolve (binds : Binds store scope name value) (m : Machine) :
    Names.resolve m scope name store = (.ok (.binding scope), store) := by
  obtain ⟨own, binding, found, bound, -⟩ := binds
  change (Names.resolve.go m name (store.scopes.size + 1) scope) store = _
  rw [Names.resolve.go, bind_ok (scope_of_getElem? found), bound]
  rfl

theorem Binds.evaluate (binds : Binds store scope name value) (depth : Nat) :
    (machine (depth + 1)).evaluate scope (.name name) store = (.ok value, store) := by
  refine (bind_ok (binds.resolve _)).trans ?_
  obtain ⟨own, binding, found, bound, held⟩ := binds
  refine (bind_ok (scope_of_getElem? found)).trans ?_
  rw [bound, Option.bind_some, held]
  rfl

section Global

variable {slot : Slot} {m : Machine}

theorem resolve_outer (equipped : Equipped store)
    (holds : Holds store Origin.global.id (.ofString name) slot) (fuel : Nat) :
    Names.resolve.go m name (fuel + 2) Library.scriptScope store =
      (.ok (.member Origin.global.id), store) := by
  obtain ⟨inner, foundInner, bareInner, noOwner, parent⟩ := equipped.inner
  obtain ⟨outer, foundOuter, bareOuter, owner, -⟩ := equipped.outer
  have has : Member.has m Origin.global.id (.ofString name) store = (.ok true, store) := holds.has
  rw [Names.resolve.go, bind_ok (scope_of_getElem? foundInner), bareInner, noOwner, parent]
  change Names.resolve.go m name (fuel + 1) 0 store = _
  rw [Names.resolve.go, bind_ok (scope_of_getElem? foundOuter), bareOuter, owner]
  refine (bind_ok has).trans ?_
  rfl

/-- A name of the script itself is a member of the global object. -/
theorem resolve_script (equipped : Equipped store)
    (holds : Holds store Origin.global.id (.ofString name) slot) :
    Names.resolve m Library.scriptScope name store =
      (.ok (.member Origin.global.id), store) := by
  obtain ⟨inner, foundInner, -⟩ := equipped.inner
  obtain ⟨n, size⟩ := Nat.exists_eq_add_of_le' (Array.getElem?_eq_some_iff.mp foundInner).1
  change Names.resolve.go m name (store.scopes.size + 1) Library.scriptScope store = _
  rw [size]
  exact resolve_outer equipped holds (n + 1)

/-- Inside a call the names of the script are found too, unless the call has such a name itself. -/
theorem resolve_inside (equipped : Equipped store) {own : Scope}
    (found : store.scopes[scope]? = some own) (free : own.bindings.lookup name = none)
    (bare : own.owner = none) (parent : own.parent = some Library.scriptScope)
    (holds : Holds store Origin.global.id (.ofString name) slot) :
    Names.resolve m scope name store = (.ok (.member Origin.global.id), store) := by
  obtain ⟨inner, foundInner, -⟩ := equipped.inner
  obtain ⟨n, size⟩ := Nat.exists_eq_add_of_le' (Array.getElem?_eq_some_iff.mp foundInner).1
  change Names.resolve.go m name (store.scopes.size + 1) scope store = _
  rw [Names.resolve.go, bind_ok (scope_of_getElem? found), free, bare, parent]
  change Names.resolve.go m name store.scopes.size Library.scriptScope store = _
  rw [size]
  exact resolve_outer equipped holds n

end Global

end Names

theorem evaluate_text (scope depth : Nat) (text : Units) (store : Store) :
    (machine (depth + 1)).evaluate scope (.constant (.text text)) store =
      (.ok (.text text), store) :=
  rfl

section Members

variable {owner : Tree} {name : Units} {depth : Nat}

/-- A member of an object, by a fixed name. -/
theorem evaluate_member
    (own : (machine (depth + 1)).evaluate scope owner store = (.ok (.object id), store))
    (found : Member.get (machine (depth + 1)) id (.ofUnits name) store = (.ok value, store)) :
    (machine (depth + 2)).evaluate scope (.member owner (.constant (.text name))) store =
      (.ok value, store) := by
  have key : (machine (depth + 1)).evaluate scope (.constant (.text name)) store =
      (.ok (.text name), store) := rfl
  have callee : Evaluate.callee (machine (depth + 1)) scope
      (.member owner (.constant (.text name))) store = (.ok ⟨value, .object id⟩, store) := by
    refine (bind_ok own).trans ?_
    refine (bind_ok key).trans ?_
    exact (bind_ok found).trans rfl
  exact (bind_ok callee).trans rfl

theorem evaluate_own {name : String}
    (own : (machine (depth + 1)).evaluate scope owner store = (.ok (.object id), store))
    (has : HasValue store id (.ofString name) value) :
    (machine (depth + 2)).evaluate scope (.member owner (.constant (.text (units name)))) store =
      (.ok value, store) :=
  evaluate_member own has.get

/-- A call of a routine that an object provides, with one argument. -/
theorem evaluate_method {argument : Value} {home routine : String} {post : Post} {target : Nat}
    {native : Native}
    (own : (machine (depth + 1)).evaluate scope owner store = (.ok (.object id), store))
    (found : Member.get (machine (depth + 1)) id (.ofUnits name) store =
      (.ok (.object target), store))
    (is : IsNative store target home post routine) (known : find? home post routine = some native)
    (given : Evaluate.items (machine (depth + 1)) scope [tree] store = (.ok [argument], store)) :
    (machine (depth + 2)).evaluate scope (.call (.member owner (.constant (.text name))) [tree])
      store = native.run ⟨machine depth, .object id, [argument], none⟩ store := by
  have key : (machine (depth + 1)).evaluate scope (.constant (.text name)) store =
      (.ok (.text name), store) := rfl
  have callee : Evaluate.callee (machine (depth + 1)) scope
      (.member owner (.constant (.text name))) store =
        (.ok ⟨.object target, .object id⟩, store) := by
    refine (bind_ok own).trans ?_
    refine (bind_ok key).trans ?_
    exact (bind_ok found).trans rfl
  have eval : ∃ isEval, Evaluate.isEval (.object target) store = (.ok isEval, store) := by
    obtain ⟨object, found, kind⟩ := is
    exact ⟨_, (bind_ok (object_of_getElem? found)).trans (by rw [kind]; rfl)⟩
  obtain ⟨isEval, eval⟩ := eval
  refine (bind_ok callee).trans ?_
  refine (bind_ok given).trans ?_
  refine (bind_ok eval).trans ?_
  rw [Bool.false_and, if_neg Bool.false_ne_true]
  refine (bind_ok (isCallable_native is)).trans ?_
  exact call_native is known depth _ _

end Members

section Statements

variable {m : Machine} {rest : List Tree}

theorem executeAll_normal {first next : Option Value}
    (ran : m.execute scope tree store = (.ok (.normal next), after)) :
    Routines.executeAll m scope first (tree :: rest) store =
      Routines.executeAll m scope (next.or first) rest after := by
  rw [Routines.executeAll]
  exact bind_ok ran

theorem executeAll_giveBack {first : Option Value}
    (ran : m.execute scope tree store = (.ok (.giveBack value), after)) :
    Routines.executeAll m scope first (tree :: rest) store = (.ok (.giveBack value), after) := by
  rw [Routines.executeAll]
  exact (bind_ok ran).trans rfl

theorem executeAll_error {first : Option Value} {stop : Stop}
    (ran : m.execute scope tree store = (.error stop, after)) :
    Routines.executeAll m scope first (tree :: rest) store = (.error stop, after) := by
  rw [Routines.executeAll]
  exact bind_error ran _

theorem execute_expression {depth : Nat}
    (ran : (machine depth).evaluate scope tree store = (.ok value, after)) :
    (machine (depth + 1)).execute scope (.expression tree) store =
      (.ok (.normal (some value)), after) :=
  (bind_ok ran).trans rfl

end Statements

section Lines

variable {values : List Value} {depth : Nat} {argument : Value}

/-- Adding to the lines puts the value at their end. -/
theorem execute_push (equipped : Equipped store) (lines : Binds store scope "fp" (.object id))
    (found : store.objects[id]? = some (listOf values)) (small : values.length < indexLimit)
    (given : Evaluate.items (machine (depth + 1)) scope [tree] store = (.ok [value], store)) :
    (machine (depth + 3)).execute scope (pushTree tree) store =
      (.ok (.normal (some (.ofNat (values.length + 1)))),
        store.withObject id (listOf (values ++ [value]))) := by
  obtain ⟨routine, has, native⟩ := equipped.push
  have free : Lacks store id (.ofString "push") (some Origin.list.id) := by
    rw [show Key.ofString "push" = .text (units "push") by decide]
    exact lacks_listOf found (by decide)
  refine execute_expression ?_
  refine (evaluate_method (lines.evaluate depth) ?_ native rfl given).trans
    (push_listOf equipped found small)
  change Member.getWithin _ (9998 + 1 + 1) id (.ofString "push") _ _ = _
  rw [free.get_base, has.get]

/-- The lines joined. -/
theorem execute_join {texts : List Units} (equipped : Equipped store)
    (lines : Binds store scope "fp" (.object id)) (idle : store.joining = [])
    (found : store.objects[id]? = some (listOf values)) (small : values.length ≤ indexLimit)
    (shown : List.Forall₂ (Shown store) values texts) (depth : Nat) :
    (machine (depth + 4)).execute scope joinTree store =
      (.ok (.giveBack (.text (texts.intersperse (units "\n")).flatten)), store) := by
  obtain ⟨routine, has, native⟩ := equipped.join
  have free : Lacks store id (.ofString "join") (some Origin.list.id) := by
    rw [show Key.ofString "join" = .text (units "join") by decide]
    exact lacks_listOf found (by decide)
  have joined : (machine (depth + 3)).evaluate scope
      (.call (.member (.name "fp") (wordKey "join")) [.constant (.text (units "\n"))]) store =
        (.ok (.text (texts.intersperse (units "\n")).flatten), store) := by
    refine (evaluate_method (lines.evaluate (depth + 1)) ?_ native rfl rfl).trans
      (join_listOf equipped idle depth found small shown _)
    change Member.getWithin _ (9998 + 1 + 1) id (.ofString "join") _ _ = _
    rw [free.get_base, has.get]
  exact (bind_ok joined).trans rfl

end Lines

end FootprintTemplate.Script
