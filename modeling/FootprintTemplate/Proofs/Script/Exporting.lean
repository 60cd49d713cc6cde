import FootprintTemplate.Proofs.Script.Drawn
import FootprintTemplate.Proofs.Script.Library
import FootprintTemplate.Proofs.Script.Records

/-! A script of a module as it runs. Its first statements make the object that takes its exports,
and leave all else that it uses as the library has given it. The script gives the record of the
parameters and the routine to that object, and the record is what comes of it. -/
namespace FootprintTemplate.Script

open Interpreter (full machine)
open Text (Units units)

variable {store after : Store} {id : Nat} {key : Key} {value : Value} {depth : Nat}

section Ground

/-- The members under which a script finds its exports. -/
def isExportKey (id : Nat) (key : Key) : Prop :=
  id = Origin.global.id ∧ (key = .ofString "module" ∨ key = .ofString "exports")

theorem Equipped.frame (equipped : Equipped store) (changes : store.ChangesOnly after isExportKey) :
    Equipped after := by
  have apart {key : Key} (one : key ≠ .ofString "module") (other : key ≠ .ofString "exports") (id : Nat) :
      ¬ isExportKey id key := fun ⟨_, own⟩ => own.elim one other
  have place (id i : Nat) : ¬ isExportKey id (.index i) :=
    apart (Key.ne_index (by decide) i).symm (Key.ne_index (by decide) i).symm id
  exact {
    root := equipped.root.frame changes (place _)
    toPrimitive := equipped.toPrimitive.frame changes rfl (apart (by decide) (by decide) _)
    toStringTag := equipped.toStringTag.frame changes rfl (apart (by decide) (by decide) _)
    toText := equipped.toText.frame changes (by decide) (apart (by decide) (by decide) _)
    valueOf := equipped.valueOf.frame changes (by decide) (apart (by decide) (by decide) _)
    baseOf := by
      obtain ⟨getter, setter, enumerable, configurable, holds, native⟩ := equipped.baseOf
      exact ⟨getter, setter, enumerable, configurable,
        holds.frame changes (by decide) (apart (by decide) (by decide) _), native.frame changes⟩
    lists := equipped.lists.frame changes (place _)
    push := equipped.push.frame changes (by decide) (apart (by decide) (by decide) _)
    join := equipped.join.frame changes (by decide) (apart (by decide) (by decide) _)
    error := by
      obtain ⟨maker, has, native, prototype⟩ := equipped.error
      exact ⟨maker, has.frame changes (by decide) (apart (by decide) (by decide) _),
        native.frame changes, prototype.frame changes (by decide) (apart (by decide) (by decide) _)⟩
    errorName := equipped.errorName.frame changes (by decide) (apart (by decide) (by decide) _)
    outer := equipped.outer.frame changes
    inner := equipped.inner.frame changes }

/-- The global object of a script that has given it no more than the names of its exports. -/
structure Ground (store : Store) (object : Object) : Prop where
  equipped : Equipped store
  resting : store.depth = 0
  idle : store.joining = []
  found : store.objects[Origin.global.id]? = some object
  plain : object.kind = .plain
  extensible : object.extensible = true
  world : HasValue store Origin.global.id (.ofString "globalThis") (.object Origin.global.id)

theorem ground_startStore : ∃ object, Ground Library.startStore object := by
  obtain ⟨object, found, changes⟩ := found_startStore .global
  have start := changesOnly_startStore 0
  exact ⟨object, equipped_startStore, start.depth, start.joining, found, changes.kind, changes.extensible,
    world_startStore⟩

variable {object : Object} {name : String}

theorem Ground.put (ground : Ground store object) (member : name = "module" ∨ name = "exports")
    (value : Value) :
    Ground (store.withObject Origin.global.id (object.put (.ofString name) (.ordinary value)))
      (object.put (.ofString name) (.ordinary value)) := by
  have own := object.changesOnly_put Origin.global.id (.ofString name) (.ordinary value)
  have changes : store.ChangesOnly (store.withObject Origin.global.id
      (object.put (.ofString name) (.ordinary value))) isExportKey := by
    have only : store.ChangesOnly _ fun i k => i = Origin.global.id ∧ k = .ofString name :=
      .withObject ground.found own
    exact only.mono fun i k _ ⟨same, is⟩ =>
      ⟨same, member.imp (fun named => by rw [is, named]) fun named => by rw [is, named]⟩
  exact {
    equipped := ground.equipped.frame changes
    resting := ground.resting
    idle := ground.idle
    found := getElem?_withObject ground.found _
    plain := own.kind.trans ground.plain
    extensible := own.extensible.trans ground.extensible
    world := ground.world.frame changes (by decide) fun ⟨_, named⟩ => by revert named; decide }

/-- A member that neither an object nor its base has is made by setting it. -/
theorem set_free {m : Machine} {base : Nat} (found : store.objects[id]? = some object)
    (plain : object.kind = .plain) (extensible : object.extensible = true)
    (lacks : Lacks store id key (some base)) (none : Lacks store base key none) :
    Member.setWithin m Member.reach id key value (.object id) store =
      (.ok true, store.withObject id (object.put key (.ordinary value))) := by
  have defined : object.define key (.ofSlot (.ordinary value)) =
      (object.put key (.ordinary value), true) := by
    obtain ⟨_, known, -, free, -⟩ := lacks
    obtain rfl := Option.some.inj (found.symm.trans known)
    rw [Object.define, free]
    exact if_pos extensible
  change Member.setWithin m (9998 + 1 + 1) id key value (.object id) store = _
  rw [lacks.set_base, none.set_none]
  change Member.setOwn m (9996 + 2) key value (.object id) store = _
  rw [lacks.setOwn, defineOwn_plain found plain, defined]

end Ground

section Statements

theorem evaluate_known {name : String} (equipped : Equipped store)
    (named : HasValue store Origin.global.id (.ofString name) value) (depth : Nat) :
    (machine (depth + 1)).evaluate Library.scriptScope (.name name) store = (.ok value, store) := by
  obtain ⟨writable, enumerable, configurable, holds⟩ := named
  refine (bind_ok (resolve_script equipped holds)).trans ?_
  exact holds.get

/-- A value is given to a member of an object that the script knows by its name. -/
theorem execute_assign {name word : String} {tree : Tree} {final : Store} (depth : Nat)
    (equipped : Equipped store)
    (named : HasValue store Origin.global.id (.ofString name) (.object id))
    (ran : (machine (depth + 1)).evaluate Library.scriptScope tree store = (.ok value, after))
    (set : Member.setWithin (machine (depth + 1)) Member.reach id (.ofString word) value (.object id) after
      =
      (.ok true, final)) :
    (machine (depth + 3)).execute Library.scriptScope
      (.expression (.assign (.member (.name name) (wordKey word)) tree)) store =
        (.ok (.normal (some value)), final) := by
  have spot : Target.spot (machine (depth + 1)) Library.scriptScope
      (.member (.name name) (wordKey word)) store =
        (.ok (.member (.object id) (.text (units word))), store) := by
    refine (bind_ok (evaluate_known equipped named depth)).trans ?_
    rfl
  have written (strict : Bool) : Target.Spot.write (machine (depth + 1)) strict value
      (.member (.object id) (.text (units word))) after = (.ok (), final) := by
    have key : Target.Spot.keyOf (machine (depth + 1)) (.object id) (.text (units word)) after =
        (.ok (.ofString word), after) := rfl
    refine (bind_ok key).trans ?_
    have origin : Coerce.originOf? (.object id) = some id := rfl
    rw [Target.setMember, origin]
    exact (bind_ok set).trans rfl
  have assigned : (machine (depth + 2)).evaluate Library.scriptScope
      (.assign (.member (.name name) (wordKey word)) tree) store = (.ok value, final) := by
    refine (bind_ok spot).trans ?_
    refine (bind_ok ran).trans ?_
    have strict : Target.isStrict Library.scriptScope after =
      (.ok ((after.scopes[Library.scriptScope]?).getD default).strict, after) := rfl
    refine (bind_ok strict).trans ?_
    exact (bind_ok (written _)).trans rfl
  exact (bind_ok assigned).trans rfl

/-- The object for the exports, as it is made, and the record that it holds until there are any. -/
def exportsHolder (inner : Nat) : Object :=
  ({ prototype := some Origin.object.id } : Object).put (.ofString "exports") (.ordinary (.object inner))

theorem evaluate_holder (depth : Nat) (store : Store) :
    (machine (depth + 2)).evaluate Library.scriptScope
      (.record [.field (.fixedKey (units "exports")) (.record [])]) store =
        (.ok (.object store.objects.size), store.building (exportsHolder (store.objects.size + 1))
          [{ prototype := some Origin.object.id }]) := by
  let empty : Object := { prototype := some Origin.object.id }
  have inner : (machine (depth + 1)).evaluate Library.scriptScope (.record []) (store.building empty []) =
      (.ok (.object (store.objects.size + 1)), store.building empty [empty]) := by
    have size : (store.building empty []).objects.size = store.objects.size + 1 :=
      size_building store empty []
    have made : (machine (depth + 1)).evaluate Library.scriptScope (.record []) (store.building empty []) =
        (.ok (.object (store.building empty []).objects.size),
          (store.building empty []).building empty []) := evaluate_record rfl
    rwa [size, building_building] at made
  refine evaluate_record ((members_field inner (getElem?_building _ _ _) (.blank _)).trans ?_)
  rw [withObject_building]
  rfl

/-- A value is given to the object that takes the exports. -/
theorem execute_export {record : List Tree} {owner : Object} {old : Value} (equipped : Equipped store)
    (named : HasValue store Origin.global.id (.ofString "module") (.object id))
    (ran : (machine (depth + 1)).evaluate Library.scriptScope (.record record) store = (.ok value, after))
    (found : after.objects[id]? = some owner)
    (holds : owner.IsRecord (Function.update (fun _ => none) (.ofString "exports") (some old))) :
    (machine (depth + 3)).execute Library.scriptScope (exportTree record) store =
      (.ok (.normal (some value)),
        after.withObject id (owner.put (.ofString "exports") (.ordinary value))) := by
  have own : Holds after id (.ofString "exports") (.ordinary old) :=
    ⟨owner, found, holds.keyed.isProxy, by rw [holds.own?, Function.update_self]; rfl⟩
  have held : Function.update (fun _ => none) (Key.ofString "exports") (some old)
      (.ofString "exports") = some old := Function.update_self _ _ _
  refine execute_assign depth equipped named ran ?_
  change Member.setWithin (machine (depth + 1)) (9999 + 1) id _ _ _ after = _
  rw [Holds.set own, defineOwn_plain found holds.keyed.plain, holds.redefine held]

theorem execute_result (equipped : Equipped store)
    (named : HasValue store Origin.global.id (.ofString "module") (.object id))
    (has : HasValue store id (.ofString "exports") value) (depth : Nat) :
    (machine (depth + 3)).execute Library.scriptScope resultTree store =
      (.ok (.normal (some value)), store) :=
  (bind_ok (evaluate_own (evaluate_known equipped named depth) has)).trans rfl

end Statements

section Programs

variable {designator side : String} {fields : List (String × Constant)} {body : List Tree}

/-- A store in which a script of a module exports what it makes. The object that takes the exports came
after all that the script uses. -/
structure Exporting (before store : Store) (id : Nat) : Prop where
  keeps : before.Keeps store
  new : before.objects.size ≤ id
  equipped : Equipped before
  named : HasValue before Origin.global.id (.ofString "module") (.object id)
  resting : store.depth = 0
  idle : store.joining = []
  owner : ∃ object value, store.objects[id]? = some object ∧
    object.IsRecord (Function.update (fun _ => none) (.ofString "exports") (some value))

theorem hasValue_put {name : String} {object : Object}
    (found : store.objects[id]? = some (object.put (.ofString name) (.ordinary value)))
    (plain : object.kind = .plain) (named : (Key.ofString name).isPlace = false) :
    HasValue store id (.ofString name) value := by
  have kind := (object.changesOnly_put id (.ofString name) (.ordinary value)).kind
  have has : HasSlot store id (.ofString name) (.ordinary value) :=
    ⟨_, found, by rw [Object.slot?_put named, if_pos rfl]⟩
  exact ⟨_, _, _, has.holds ⟨_, found, kind.trans plain⟩ named rfl⟩

/-- The first two statements make the object that takes the exports, where its names are free. -/
theorem exporting_of_ground {object : Object} (ground : Ground store object)
    (free : ∀ name, name = "module" ∨ name = "exports" →
      Lacks store Origin.global.id (.ofString name) (some Origin.object.id) ∧
        Lacks store Origin.object.id (.ofString name) none) :
    ∃ middle before after id,
      (∃ value, full.execute Library.scriptScope moduleTree store = (.ok (.normal value), middle)) ∧
      (∃ value, full.execute Library.scriptScope exportsTree middle = (.ok (.normal value), after)) ∧
      Exporting before after id := by
  let size := store.objects.size
  let holder := exportsHolder (size + 1)
  let more : List Object := [{ prototype := some Origin.object.id }]
  let one := object.put (.ofString "module") (.ordinary (.object size))
  let two := one.put (.ofString "exports") (.ordinary (.object (size + 1)))
  let first := store.withObject Origin.global.id one
  let second := first.withObject Origin.global.id two
  have ground1 : Ground first one := ground.put (.inl rfl) _
  have ground2 : Ground second two := ground1.put (.inr rfl) _
  have inside : Origin.global.id < store.objects.size := (Array.getElem?_eq_some_iff.mp ground.found).1
  have size1 : first.objects.size = size := Array.size_setIfInBounds
  have size2 : second.objects.size = size := Array.size_setIfInBounds.trans size1
  have named : (Key.ofString "exports").isPlace = false := by decide
  have grows := grows_building store holder more
  have grows1 := grows_building first holder more
  have changes : store.ChangesOnly first fun i k => i = Origin.global.id ∧ k = .ofString "module" :=
    .withObject ground.found (object.changesOnly_put _ _ _)
  have apart (id : Nat) : ¬ (id = Origin.global.id ∧ Key.ofString "exports" = .ofString "module") :=
    fun ⟨_, same⟩ => by revert same; decide
  have held : HasValue (first.building holder more) size (.ofString "exports") (.object (size + 1)) := by
    have found := getElem?_building first holder more
    rw [size1] at found
    exact hasValue_put found rfl named
  have ran1 := execute_assign 999997 ground.equipped ground.world
    (evaluate_holder 999996 store) (set_free (grows.keeps.objects _ _ ground.found) ground.plain
      ground.extensible ((free "module" (.inl rfl)).1.mono grows.keeps)
      ((free "module" (.inl rfl)).2.mono grows.keeps))
  rw [building_withObject inside] at ran1
  have known : HasValue (first.building holder more) Origin.global.id (.ofString "module") (.object size) :=
    (hasValue_put ground1.found ground.plain (by decide)).mono grows1.keeps
  have lacks := (free "exports" (.inr rfl)).1.frame changes named (apart _)
  have none := (free "exports" (.inr rfl)).2.frame changes named (apart _)
  have equipped1 := ground1.equipped.mono grows1.keeps
  have ran2 := execute_assign 999997 equipped1 (ground1.world.mono grows1.keeps)
    (evaluate_own (evaluate_known equipped1 known 999996) held)
    (set_free (grows1.keeps.objects _ _ ground1.found) ground1.plain ground1.extensible
      (lacks.mono grows1.keeps) (none.mono grows1.keeps))
  rw [building_withObject (by rw [size1]; exact inside)] at ran2
  refine ⟨_, second, _, size, ⟨_, ran1⟩, ⟨_, ran2⟩, ?_⟩
  exact {
    keeps := (grows_building second holder more).keeps
    new := Nat.le_of_eq size2
    equipped := ground2.equipped
    named := by
      have own : first.ChangesOnly second fun i k => i = Origin.global.id ∧ k = .ofString "exports" :=
        .withObject ground1.found (one.changesOnly_put _ _ _)
      exact (hasValue_put ground1.found ground.plain (by decide)).frame own (by decide)
        fun ⟨_, same⟩ => by revert same; decide
    resting := ground2.resting
    idle := ground2.idle
    owner := by
      have found := getElem?_building second holder more
      rw [size2] at found
      exact ⟨holder, .object (size + 1), found, (Object.IsRecord.blank _).put _ _⟩ }

/-- What comes first in a script leaves a store in which it can export. -/
theorem exists_exporting : ∃ middle before store id,
    (∃ value, full.execute Library.scriptScope moduleTree Library.startStore =
      (.ok (.normal value), middle)) ∧
    (∃ value, full.execute Library.scriptScope exportsTree middle = (.ok (.normal value), store)) ∧
    Exporting before store id := by
  obtain ⟨object, ground⟩ := ground_startStore
  exact exporting_of_ground ground fun _ => free_startStore

/-- What there is once a script of a module has run: the record that it exports, with its parameters and
its routine. -/
structure Exports (store : Store) (designator side : String) (fields : List (String × Constant))
    (body : List Tree) (record params routine first : Nat) (object : Object)
    (entries : List (String × Value)) : Prop where
  equipped : Equipped store
  resting : store.depth = 0
  idle : store.joining = []
  ofParams : HasValue store record (.ofString "params") (.object params)
  ofBody : HasValue store record (.ofString "body") (.object routine)
  isParams : IsParams first designator side fields object entries
  found : store.objects[params]? = some object
  made : ∀ i (own : Object), (fields.map fun field => declarationObject field.2)[i]? = some own →
    store.objects[first + i]? = some own
  closure : IsClosure store routine (drawingClosure body)

theorem updateScope_same {scope : Scope} {change : Scope → Scope} (found : store.scopes[id]? = some scope)
    (same : change scope = scope) : Run.updateScope id change store = (.ok (), store) := by
  have unchanged : store.scopes.setIfInBounds id scope = store.scopes := by
    refine Array.ext_getElem? fun i => ?_
    rw [Array.getElem?_setIfInBounds]
    split
    · rename_i here
      subst here
      rw [found, if_pos (Array.getElem?_eq_some_iff.mp found).1]
    · rfl
  rw [updateScope_of_getElem? found, same, Store.withScope, unchanged]

/-- The scope in which a script runs is not strict from the start. -/
theorem startScript : Run.updateScope Library.scriptScope (fun scope => { scope with strict := false })
    Library.startStore = (.ok (), Library.startStore) :=
  updateScope_same ((congrArg (·[Library.scriptScope]?) (changesOnly_startStore 0).scopes).trans rfl) rfl

theorem run_eq {params : List Tree} {middle before final : Store}
    (one : ∃ value, full.execute Library.scriptScope moduleTree Library.startStore =
      (.ok (.normal value), middle))
    (two : ∃ value, full.execute Library.scriptScope exportsTree middle = (.ok (.normal value), before))
    (three : full.execute Library.scriptScope (exportTree (exportTrees params body)) before =
      (.ok (.normal (some value)), final))
    (four : full.execute Library.scriptScope resultTree final = (.ok (.normal (some value)), final)) :
    Interpreter.run (exportProgram params body) Library.startStore = (.ok value, final) := by
  obtain ⟨_, one⟩ := one
  obtain ⟨_, two⟩ := two
  have started : Run.updateScope Library.scriptScope (fun scope => { scope with strict := false })
      Library.startStore = (.ok (), Library.startStore) := startScript
  have silent : Routines.declareBlock Library.scriptScope
      ((exportProgram params body).body.filter (!·.isRoutine)) Library.startStore =
        (.ok (), Library.startStore) :=
    declareBlock_silent rfl
  have all : Routines.executeAll full Library.scriptScope none (exportProgram params body).body
      Library.startStore = (.ok (.normal (some value)), final) := by
    refine (executeAll_normal one).trans ?_
    refine (executeAll_normal two).trans ?_
    refine (executeAll_normal three).trans ?_
    exact (executeAll_normal four).trans rfl
  have quiet : (pure PUnit.unit : Run PUnit) Library.startStore =
      (.ok PUnit.unit, Library.startStore) := rfl
  refine (bind_ok started).trans ?_
  refine (bind_ok quiet).trans ?_
  refine (bind_ok silent).trans ?_
  refine (bind_ok quiet).trans ?_
  exact (bind_ok all).trans rfl

/-- Where a script can export, it exports its parameters and its routine. -/
theorem exports_of_exporting {ground before : Store} (exporting : Exporting ground before id)
    (designator side : String) (fields : List (String × Constant)) (body : List Tree) :
    ∃ store record params routine first object entries,
      full.execute Library.scriptScope
        (exportTree (exportTrees (paramsOf designator side fields) body)) before =
          (.ok (.normal (some (.object record))), store) ∧
      full.execute Library.scriptScope resultTree store =
        (.ok (.normal (some (.object record))), store) ∧
      Exports store designator side fields body record params routine first object entries := by
  obtain ⟨owner, old, known, owns⟩ := exporting.owner
  obtain ⟨object, entries, made, isParams⟩ := evaluate_exports designator side fields body 999994 before
  let size := before.objects.size
  let declared := fields.map fun field => declarationObject field.2
  let record := putMembers { prototype := some Origin.object.id }
    [("params", .object (size + 1)), ("body", .object (size + 2 + fields.length))]
  let built := before.building record (object :: (declared ++ [routineObject body]))
  let final := built.withObject id (owner.put (.ofString "exports") (.ordinary (.object size)))
  have keeps := exporting.keeps
  have grows : before.Grows built := grows_building _ _ _
  have ownerFound : built.objects[id]? = some owner := grows.keeps.objects _ _ known
  have kept : ground.Keeps final := (keeps.trans grows.keeps).withObject exporting.new _
  have inside : id < size := (Array.getElem?_eq_some_iff.mp known).1
  have further {i : Nat} {own : Object} (beyond : size ≤ i) (found : built.objects[i]? = some own) :
      final.objects[i]? = some own := by
    change (built.objects.setIfInBounds id _)[i]? = _
    rw [Array.getElem?_setIfInBounds_ne (by omega), found]
  have recordFound : final.objects[size]? = some record :=
    further (Nat.le_refl _) (getElem?_building _ _ _)
  have atPlace (i : Nat) {own : Object}
      (found : (object :: (declared ++ [routineObject body]))[i]? = some own) :
      final.objects[size + 1 + i]? = some own :=
    further (by omega) ((getElem?_building_further _ _ _ _).trans found)
  have holds : record.IsRecord (withMembers (fun _ => none)
      [("params", .object (size + 1)), ("body", .object (size + 2 + fields.length))]) :=
    (Object.IsRecord.blank _).putMembers _
  have exported : HasValue final id (.ofString "exports") (.object size) :=
    ⟨_, _, _, _, getElem?_withObject ownerFound _, (owns.put _ _).keyed.isProxy,
      ((owns.put _ _).own? _).trans (by rw [Function.update_self]; rfl)⟩
  have routineFound : final.objects[size + 2 + fields.length]? = some (routineObject body) := by
    have place : (object :: (declared ++ [routineObject body]))[1 + fields.length]? =
        some (routineObject body) := by
      rw [Nat.add_comm, List.getElem?_cons_succ, List.getElem?_append_right (by simp [declared])]
      simp [declared]
    have found := atPlace _ place
    rwa [← Nat.add_assoc] at found
  refine ⟨final, size, size + 1, size + 2 + fields.length, size + 2, object, entries,
    execute_export (exporting.equipped.mono keeps) (exporting.named.mono keeps) made ownerFound owns,
    execute_result (exporting.equipped.mono kept) (exporting.named.mono kept) exported 999997, ?_⟩
  exact {
    equipped := exporting.equipped.mono kept
    resting := exporting.resting
    idle := exporting.idle
    ofParams := ⟨_, _, _, record, recordFound, holds.keyed.isProxy, (holds.own? _).trans rfl⟩
    ofBody := ⟨_, _, _, record, recordFound, holds.keyed.isProxy, (holds.own? _).trans rfl⟩
    isParams := isParams
    found := atPlace 0 rfl
    made := fun i own known => by
      have place : (object :: (declared ++ [routineObject body]))[i + 1]? = some own := by
        rw [List.getElem?_cons_succ, List.getElem?_append_left
          (List.getElem?_eq_some_iff.mp known).1, known]
      have found := atPlace _ place
      rwa [Nat.add_comm i, ← Nat.add_assoc] at found
    closure := ⟨_, routineFound, rfl⟩ }

/-- A script of a module runs, and exports its parameters and its routine. -/
theorem run_exportProgram (designator side : String) (fields : List (String × Constant))
    (body : List Tree) : ∃ store record params routine first object entries,
      Interpreter.run (exportProgram (paramsOf designator side fields) body) Library.startStore =
        (.ok (.object record), store) ∧
      Exports store designator side fields body record params routine first object entries := by
  obtain ⟨middle, _, before, id, one, two, exporting⟩ := exists_exporting
  obtain ⟨store, record, params, routine, first, object, entries, three, four, exports⟩ :=
    exports_of_exporting exporting designator side fields body
  exact ⟨store, record, params, routine, first, object, entries,
    run_eq one two three four, exports⟩

end Programs

end FootprintTemplate.Script
