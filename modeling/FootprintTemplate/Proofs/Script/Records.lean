import FootprintTemplate.Proofs.Script.Drawn

/-! Record literals as a script evaluates them. The object of a record is there before its members,
which are put into it one by one; further objects that are made for them come after it. -/
namespace FootprintTemplate.Script

open Interpreter (machine)
open Text (Units units)

variable {store after : Store} {object other : Object} {more rest : List Object} {scope id : Nat}
  {value : Value} {tree : Tree} {trees : List Tree} {m : Machine}

section Building

/-- A store with an object that gets its members, and the objects that were made for them. -/
def Store.building (store : Store) (object : Object) (more : List Object) : Store :=
  { store with objects := store.objects ++ (object :: more).toArray }

theorem pushObject_eq_building (store : Store) (object : Object) :
    store.pushObject object = store.building object [] := by
  rw [Store.pushObject, Store.building, Array.push_eq_append]

theorem getElem?_building (store : Store) (object : Object) (more : List Object) :
    (store.building object more).objects[store.objects.size]? = some object := by
  rw [Store.building, Array.getElem?_append_right (Nat.le_refl _), Nat.sub_self]
  rfl

theorem getElem?_building_further (store : Store) (object : Object) (more : List Object) (i : Nat) :
    (store.building object more).objects[store.objects.size + 1 + i]? = more[i]? := by
  rw [Store.building, Array.getElem?_append_right (by omega), Nat.add_assoc,
    Nat.add_sub_cancel_left, Nat.add_comm 1]
  simp

theorem size_building (store : Store) (object : Object) (more : List Object) :
    (store.building object more).objects.size = store.objects.size + 1 + more.length := by
  simp [Store.building]
  omega

theorem withObject_building (store : Store) (object other : Object) (more : List Object) :
    (store.building object more).withObject store.objects.size other = store.building other more := by
  simp [Store.withObject, Store.building, Array.setIfInBounds_append_right]

theorem building_withObject (inside : id < store.objects.size)
    (object other : Object) (more : List Object) :
    (store.building object more).withObject id other =
      (store.withObject id other).building object more := by
  simp [Store.withObject, Store.building, Array.setIfInBounds_append_left, inside]

theorem building_building (store : Store) (object other : Object) (more rest : List Object) :
    (store.building object more).building other rest =
      store.building object (more ++ other :: rest) := by
  simp [Store.building, Array.append_assoc]

theorem pushObject_building (store : Store) (object other : Object) (more : List Object) :
    (store.building object more).pushObject other = store.building object (more ++ [other]) := by
  rw [pushObject_eq_building, building_building]

theorem grows_building (store : Store) (object : Object) (more : List Object) :
    store.Grows (store.building object more) where
  keeps := by
    refine ⟨fun id own found => ?_, fun _ _ found => found⟩
    have inside := (Array.getElem?_eq_some_iff.mp found).1
    rw [Store.building, Array.getElem?_append_left inside, found]
  depth := rfl
  joining := rfl

end Building

section Members

variable {fields : Key → Option Value} {name : Units}

theorem nameOfKey_ofUnits (name : Units) (store : Store) :
    Classes.nameOfKey (.ofUnits name) store = (.ok name, store) := by
  have own := Key.units?_ofUnits name
  cases key : Key.ofUnits name with
  | symbol | secret => rw [key] at own; cases own
  | index | text =>
    rw [key] at own
    exact congrArg
      (fun text : Option Units => ((.ok (text.getD []), store) : Except Stop Units × Store)) own

/-- A field of a record literal puts its value into the record. -/
theorem members_field
    (ran : m.evaluate scope (tree.named (Text.ofUnits name)) store = (.ok value, after))
    (found : after.objects[id]? = some object) (record : object.IsRecord fields) :
    Evaluate.members m scope id (.field (.fixedKey name) tree :: trees) store =
      Evaluate.members m scope id trees
        (after.withObject id (object.put (.ofUnits name) (.ordinary value))) := by
  have key : Target.keyOf m scope (.fixedKey name) store = (.ok (.ofUnits name), store) := rfl
  refine (bind_ok key).trans ?_
  refine (bind_ok (nameOfKey_ofUnits name store)).trans ?_
  refine (bind_ok ran).trans ?_
  exact bind_ok (create_record found record _ _)

/-- A field with the name of the prototype takes its place. -/
theorem members_prototype {base : Nat} (ran : m.evaluate scope tree store = (.ok (.object base), after))
    (found : after.objects[id]? = some object) :
    Evaluate.members m scope id (.prototype tree :: trees) store =
      Evaluate.members m scope id trees
        (after.withObject id { object with prototype := some base }) := by
  refine (bind_ok ran).trans ?_
  exact bind_ok (update_of_getElem? found fun object => { object with prototype := some base })

theorem Object.IsRecord.withPrototype (record : object.IsRecord fields) (base : Option Nat) :
    ({ object with prototype := base } : Object).IsRecord fields :=
  ⟨⟨record.keyed.plain, record.keyed.items, record.keyed.slots, record.keyed.apart⟩,
    record.extensible, record.holds⟩

theorem evaluate_record {depth : Nat} (ran : Evaluate.members (machine depth) scope store.objects.size trees
      (store.building { prototype := some Origin.object.id } []) = (.ok (), after)) :
    (machine (depth + 1)).evaluate scope (.record trees) store =
      (.ok (.object store.objects.size), after) := by
  refine (bind_ok (allocate_eq { prototype := some Origin.object.id } store)).trans ?_
  rw [pushObject_eq_building]
  exact (bind_ok ran).trans rfl

end Members

section Declarations

/-- The object that declares a net. -/
def declarationObject (default : Constant) : Object :=
  putMembers { prototype := some Origin.object.id }
    [("type", .ofString "net"), ("value", Evaluate.constant default)]

theorem isRecord_declarationObject (default : Constant) : (declarationObject default).IsRecord
    (withMembers (fun _ => none)
      [("type", .ofString "net"), ("value", Evaluate.constant default)]) :=
  (Object.IsRecord.blank _).putMembers _

theorem ownKeys_declarationObject (default : Constant) :
    (declarationObject default).ownKeys = [.ofString "type", .ofString "value"] := by
  let empty : Object := { prototype := some Origin.object.id }
  have type : Key.ofString "type" = .text (units "type") := by decide
  have value : Key.ofString "value" = .text (units "value") := by decide
  have apart : ((.text (units "type") : Key) == .text (units "value")) = false := by decide
  have first (slot : Slot) : empty.put (.text (units "type")) slot =
      { empty with slots := #[(.text (units "type"), slot)] } := by
    rw [Object.put_other fun _ => Key.noConfusion, Object.slotPlace?_empty rfl]
    rfl
  have second (one other : Slot) :
      (empty.put (.text (units "type")) one).put (.text (units "value")) other =
        { empty with slots := #[(.text (units "type"), one), (.text (units "value"), other)] } := by
    rw [first, Object.put_other fun _ => Key.noConfusion, Object.slotPlace?,
      Array.findIdx?_singleton, apart]
    rfl
  change Object.ownKeys ((empty.put (.ofString "type") _).put (.ofString "value") _) = _
  rw [type, value, second]
  simp [Object.ownKeys, Object.length?, empty, Object.isTextKey]

theorem evaluate_declaration (default : Constant) (depth : Nat) (store : Store) :
    (machine (depth + 2)).evaluate scope (declarationTree default) store =
      (.ok (.object store.objects.size), store.building (declarationObject default) []) := by
  have blank := Object.IsRecord.blank (some Origin.object.id)
  refine evaluate_record ?_
  refine (members_field rfl (getElem?_building _ _ _) blank).trans ?_
  rw [withObject_building]
  refine (members_field rfl (getElem?_building _ _ _) (blank.put _ _)).trans ?_
  rw [withObject_building]
  rfl

variable {held : Key → Option Value}

/-- The values of the fields that declare nets, which are among these objects. -/
def Declares (first : Nat) (made : List Object) (fields : List (String × Constant))
    (entry : String × Value) : Prop :=
  ∃ default i, (entry.1, default) ∈ fields ∧ entry.2 = .object (first + i) ∧
    made[i]? = some (declarationObject default)

theorem members_declarations (scope : Nat) (store : Store) (fields : List (String × Constant))
    (record : object.IsRecord held) (more : List Object) (depth : Nat) :
    ∃ built entries, Evaluate.members (machine (depth + 2)) scope store.objects.size
      (fieldTrees (fields.map fun field => (units field.1, declarationTree field.2)))
        (store.building object more) = (.ok (), store.building built (more ++
          fields.map fun field => declarationObject field.2)) ∧
      built.IsRecord (withMembers held entries) ∧
      entries.map Prod.fst = (fields.map Prod.fst).filter (· != "__proto__") ∧
      ∀ entry ∈ entries, Declares (store.objects.size + 1) (more ++
        fields.map fun field => declarationObject field.2) fields entry := by
  induction fields generalizing object held more with
  | nil =>
    refine ⟨object, [], ?_, record, rfl, nofun⟩
    rw [List.map_nil, List.map_nil, List.append_nil]
    rfl
  | cons field rest ih =>
    obtain ⟨name, default⟩ := field
    let made := declarationObject default
    let value : Value := .object (store.objects.size + 1 + more.length)
    have ran : (machine (depth + 2)).evaluate scope (declarationTree default)
        (store.building object more) = (.ok value, store.building object (more ++ [made])) := by
      rw [evaluate_declaration, size_building, building_building]
    have found := getElem?_building store object (more ++ [made])
    have shape : more ++ [made] ++ rest.map (fun field => declarationObject field.2) =
        more ++ (((name, default) :: rest).map fun field => declarationObject field.2) := by
      rw [List.append_assoc]
      rfl
    have later {entries : List (String × Value)}
        (each : ∀ entry ∈ entries, Declares (store.objects.size + 1) (more ++ [made] ++
          rest.map fun field => declarationObject field.2) rest entry) :
        ∀ entry ∈ entries, Declares (store.objects.size + 1) (more ++
          (((name, default) :: rest).map fun field => declarationObject field.2))
            ((name, default) :: rest) entry := by
      intro entry member
      obtain ⟨own, i, declared, same, at_place⟩ := each entry member
      exact ⟨own, i, List.mem_cons_of_mem _ declared, same, shape ▸ at_place⟩
    by_cases proto : name = "__proto__"
    · subst proto
      obtain ⟨built, entries, rested, holds, names, each⟩ :=
        ih (record.withPrototype (some (store.objects.size + 1 + more.length))) (more ++ [made])
      refine ⟨built, entries, ?_, holds, names, later each⟩
      rw [← shape, List.map_cons, fieldTrees, List.map_cons, fieldTree, if_pos (beq_self_eq_true _)]
      refine (members_prototype ran found).trans ?_
      rw [withObject_building]
      exact rested
    · obtain ⟨built, entries, rested, holds, names, each⟩ :=
        ih (record.put (.ofString name) value) (more ++ [made])
      have apart : (units name == units "__proto__") = false :=
        beq_false_of_ne (Text.units_injective.ne proto)
      refine ⟨built, (name, value) :: entries, ?_, holds, ?_, List.forall_mem_cons.mpr
        ⟨⟨default, more.length, List.mem_cons_self, rfl, ?_⟩, later each⟩⟩
      · rw [← shape, List.map_cons, fieldTrees, List.map_cons, fieldTree, apart, if_neg Bool.false_ne_true]
        refine (members_field ran found record).trans ?_
        rw [withObject_building]
        exact rested
      · rw [List.map_cons, List.map_cons, names, List.filter_cons_of_pos (by simpa using proto)]
      · rw [← shape, List.append_assoc, List.getElem?_append_right (Nat.le_refl _), Nat.sub_self]
        rfl

end Declarations

section Exports

variable {fields : List (String × Constant)} {designator side : String} {body : List Tree} {depth : Nat}

/-- The fields of the parameters of a module. -/
def paramsOf (designator side : String) (fields : List (String × Constant)) : List Tree :=
  paramsTrees (units designator) ((units "side", .constant (.text (units side))) ::
    fields.map fun field => (units field.1, declarationTree field.2))

/-- The parameters as an object, before the objects that declare nets. -/
structure IsParams (first : Nat) (designator side : String) (fields : List (String × Constant))
    (object : Object) (entries : List (String × Value)) : Prop where
  holds : object.IsRecord (withMembers (fun _ => none)
    ([("designator", .ofString designator), ("side", .ofString side)] ++ entries))
  names : entries.map Prod.fst = (fields.map Prod.fst).filter (· != "__proto__")
  declares : ∀ entry ∈ entries, Declares first
    (fields.map fun field => declarationObject field.2) fields entry

theorem evaluate_params (scope : Nat) (designator side : String) (fields : List (String × Constant))
    (depth : Nat) (store : Store) : ∃ object entries,
      (machine (depth + 3)).evaluate scope (.record (paramsOf designator side fields)) store =
        (.ok (.object store.objects.size), store.building object
          (fields.map fun field => declarationObject field.2)) ∧
        IsParams (store.objects.size + 1) designator side fields object entries := by
  have blank := Object.IsRecord.blank (some Origin.object.id)
  have first := blank.put (.ofString "designator") (.ofString designator)
  have second := first.put (.ofString "side") (.ofString side)
  obtain ⟨object, entries, ran, holds, names, declares⟩ := members_declarations scope store
    fields second [] depth
  refine ⟨object, entries, evaluate_record ?_, holds, names, declares⟩
  refine (members_field rfl (getElem?_building _ _ _) blank).trans ?_
  rw [withObject_building]
  refine (members_field rfl (getElem?_building _ _ _) first).trans ?_
  rw [withObject_building]
  exact ran

/-- The object of a routine of a module. -/
def routineObject (body : List Tree) : Object where
  prototype := some Origin.routine.id
  kind := .closure (drawingClosure body)
  slots := #[(Object.lengthKey, Routines.fixedSlot (.ofNat (drawingRoutine body).arity)),
    (.ofString "name", Routines.fixedSlot (.ofString "body"))]

theorem evaluate_arrow (body : List Tree) (depth : Nat) (store : Store) :
    (machine (depth + 1)).evaluate Library.scriptScope
      ((arrowTree body).named (Text.ofUnits (units "body"))) store =
        (.ok (.object store.objects.size), store.pushObject (routineObject body)) := by
  rw [Text.ofUnits_units]
  rfl

/-- The record that a module exports. -/
theorem evaluate_exports (designator side : String) (fields : List (String × Constant))
    (body : List Tree) (depth : Nat) (store : Store) : ∃ params entries,
      (machine (depth + 4)).evaluate Library.scriptScope
        (.record (exportTrees (paramsOf designator side fields) body)) store =
          (.ok (.object store.objects.size), store.building
            (putMembers { prototype := some Origin.object.id }
              [("params", .object (store.objects.size + 1)),
                ("body", .object (store.objects.size + 2 + fields.length))])
            (params :: (fields.map (fun field => declarationObject field.2) ++
              [routineObject body]))) ∧
        IsParams (store.objects.size + 2) designator side fields params entries := by
  have blank := Object.IsRecord.blank (some Origin.object.id)
  let empty : Object := { prototype := some Origin.object.id }
  let made := fields.map fun field => declarationObject field.2
  obtain ⟨params, entries, ran, isParams⟩ := evaluate_params Library.scriptScope designator
    side fields depth (store.building empty [])
  have size : (store.building empty []).objects.size = store.objects.size + 1 :=
    size_building store empty []
  rw [size] at ran isParams
  rw [building_building, List.nil_append] at ran
  have first := blank.put (.ofString "params") (.object (store.objects.size + 1))
  have routine := evaluate_arrow body (depth + 2) (store.building
    (empty.put (.ofString "params") (.ordinary (.object (store.objects.size + 1)))) (params :: made))
  rw [size_building, pushObject_building, List.length_cons, List.length_map] at routine
  refine ⟨params, entries, evaluate_record ?_, isParams⟩
  refine (members_field ran (getElem?_building _ _ _) blank).trans ?_
  rw [withObject_building]
  refine (members_field routine (getElem?_building _ _ _) first).trans ?_
  rw [withObject_building, show store.objects.size + 1 + (fields.length + 1) =
    store.objects.size + 2 + fields.length by omega]
  rfl

end Exports

end FootprintTemplate.Script
