import FootprintTemplate.Proofs.Preview.Numbering
import FootprintTemplate.Proofs.Preview.Program
import FootprintTemplate.Proofs.Script.Records

/-! The parameters that a script exports. Each member of the object is read as what is declared for
it, in whatever order, so that the parameters are those that the module declares. -/
namespace FootprintTemplate.Preview

open FootprintTemplate.Script (Constant IsParams Key Object Slot Store bind_ok
  declarationObject withMembers)
open Text (units)

variable {store : Store} {id : Nat} {object : Object}

section Order

/-- Members in another order are the same in the order of their names. -/
theorem byName_perm {α : Type} {members others : List (String × α)}
    (once : (members.map Prod.fst).Nodup) (same : members.Perm others) :
    byName members = byName others := by
  have sorted (members : List (String × α)) : (byName members).Pairwise fun first second =>
      decide (first.1 ≤ second.1) = true := by
    refine List.pairwise_mergeSort (fun one two three first second => ?_) (fun one two => ?_) _
    · simpa using String.le_trans (by simpa using first) (by simpa using second)
    · simpa using String.le_total one.1 two.1
  refine List.Perm.eq_of_pairwise (fun first second own other before after => ?_) (sorted members)
    (sorted others) ((List.mergeSort_perm _ _).trans (same.trans (List.mergeSort_perm _ _).symm))
  have names : first.1 = second.1 := String.le_antisymm (by simpa using before) (by simpa using after)
  have inside := same.mem_iff.mpr (List.mem_mergeSort.mp other)
  exact List.inj_on_of_nodup_map once (List.mem_mergeSort.mp own) inside names

theorem readParams_perm {members others : List (String × Value)}
    (once : (members.map Prod.fst).Nodup) (same : members.Perm others) :
    readParams (.record members) = readParams (.record others) :=
  congrArg (·.mapM readMember) (byName_perm once same)

end Order

section Members

/-- A key of an object is exported as a member. -/
def ExportsMember (store : Store) (object : Object) (fuel : Nat) (key : Key)
    (member : String × Value) : Prop :=
  ∃ name value, key.units? = some name ∧ object.own? key = some (.ordinary value) ∧
    member.1 = Text.ofUnits name ∧ Session.exported fuel value store = (.ok member.2, store)

theorem exported_record {fuel : Nat} {members : List (String × Value)}
    (found : store.objects[id]? = some object) (plain : object.kind = .plain)
    (each : List.Forall₂ (ExportsMember store object fuel) object.ownKeys members) :
    Session.exported (fuel + 1) (.object id) store = (.ok (.record members), store) := by
  refine (bind_ok (Script.object_of_getElem? found)).trans ?_
  rw [plain]
  refine (bind_ok (Script.mapM_ok (each.imp ?_))).trans rfl
  rintro key ⟨_, exported⟩ ⟨name, value, isText, own, rfl, ran⟩
  rw [isText, own]
  exact (bind_ok ran).trans rfl

theorem exported_text (text : String) (fuel : Nat) (store : Store) :
    Session.exported (fuel + 1) (.ofString text) store = (.ok (.text text), store) :=
  congrArg (fun text => (Except.ok (Value.text text), store)) (Text.ofUnits_units text)

theorem exported_declaration {default : Option String}
    (found : store.objects[id]? = some (declarationObject (defaultConstant default))) (fuel : Nat) :
    Session.exported (fuel + 2) (.object id) store = (.ok (netDeclaration default), store) := by
  have record := Script.isRecord_declarationObject (defaultConstant default)
  have value : Session.exported (fuel + 1) (Script.Evaluate.constant (defaultConstant default)) store =
      (.ok ((default.map .text).getD .null), store) := by
    cases default with
    | some text => exact exported_text text fuel store
    | none => rfl
  refine exported_record found record.keyed.plain ?_
  rw [Script.ownKeys_declarationObject]
  refine .cons ⟨_, _, Key.units?_ofUnits _, (record.own? _).trans rfl,
    (Text.ofUnits_units "type").symm, exported_text "net" fuel store⟩ (.cons ⟨_, _, Key.units?_ofUnits _,
      (record.own? _).trans rfl, (Text.ofUnits_units "value").symm, value⟩ .nil)

end Members

section Params

theorem exists_forall₂ {α β : Type} {related : α → β → Prop} {items : List α}
    (each : ∀ item ∈ items, ∃ result, related item result) :
    ∃ results, List.Forall₂ related items results := by
  induction items with
  | nil => exact ⟨[], .nil⟩
  | cons item rest ih =>
    obtain ⟨first, others⟩ := List.forall_mem_cons.mp each
    obtain ⟨result, own⟩ := first
    obtain ⟨results, more⟩ := ih others
    exact ⟨result :: results, .cons own more⟩

variable {m : Module} {defaults : List (String × String)} {first : Nat}
  {entries : List (String × Script.Value)}

/-- The nets of a module with their defaults. -/
def netDefaults (m : Module) (defaults : List (String × String)) : List (String × Constant) :=
  m.nets.map fun net => (net, defaultConstant (defaults.lookup net))

variable (isParams : IsParams first m.designator m.side.letter (netDefaults m defaults) object entries)
  (made : ∀ i (own : Object), ((netDefaults m defaults).map fun field =>
    declarationObject field.2)[i]? = some own → store.objects[first + i]? = some own)

include isParams

theorem names_entries : entries.map Prod.fst = m.nets.filter (· != prototypeName) := by
  have names := isParams.names
  rw [netDefaults, List.map_map] at names
  rw [names]
  exact congrArg _ (List.map_id _)

include made

/-- What is held in the parameters is declared by the module. -/
theorem exports_declared (fuel : Nat) {key : Key} (member : key ∈ object.ownKeys) :
    ∃ declared, declared ∈ declaredParams m defaults ∧ key = .ofString declared.1 ∧
      ExportsMember store object (fuel + 2) key declared := by
  obtain ⟨slot, found⟩ := isParams.holds.keyed.mem_of_mem_ownKeys member
  have holds := isParams.holds.holds key
  rw [found] at holds
  obtain ⟨value, held, rfl⟩ := Option.map_eq_some_iff.mp holds.symm
  have own : object.own? key = some (.ordinary value) :=
    (isParams.holds.keyed.own? key).trans found
  obtain ⟨name, rfl, -⟩ := Script.mem_of_withMembers held
  rw [Script.withMembers_append] at held
  by_cases net : name ∈ entries.map Prod.fst
  · obtain ⟨value', entry, same⟩ := Script.withMembers_of_mem _ net
    cases held.symm.trans same
    obtain ⟨default, i, known, same, at_place⟩ := isParams.declares _ entry
    obtain ⟨name, -, pair⟩ := List.mem_map.mp known
    obtain ⟨rfl, rfl⟩ := Prod.mk.inj pair
    rw [names_entries isParams] at net
    obtain rfl : value = _ := same
    exact ⟨(name, netDeclaration (defaults.lookup name)), List.mem_append_right _
      (List.mem_map.mpr ⟨_, net, rfl⟩), rfl, _, _, Key.units?_ofUnits _, own,
      (Text.ofUnits_units name).symm, exported_declaration (made i _ at_place) fuel⟩
  · rw [Script.withMembers_of_notMem net] at held
    obtain ⟨same, equal, inside⟩ := Script.mem_of_withMembers held
    obtain rfl := Key.ofString_injective equal
    rw [names_entries isParams] at net
    obtain ⟨text, rfl, listed⟩ : ∃ text, value = .ofString text ∧
        (name, Value.text text) ∈ ([("designator", .text m.designator), ("side", .text m.side.letter)] :
          List (String × Value)) := by
      simp only [List.mem_cons, Prod.mk.injEq, List.not_mem_nil, or_false] at inside
      obtain ⟨rfl, rfl⟩ | ⟨rfl, rfl⟩ := inside
      · exact ⟨_, rfl, by simp⟩
      · exact ⟨_, rfl, by simp⟩
    exact ⟨(name, .text text), List.mem_append_left _ (List.mem_filter.mpr
      ⟨listed, by simpa [Decidable.imp_iff_not_or] using net⟩),
      rfl, _, _, Key.units?_ofUnits _, own, (Text.ofUnits_units name).symm, exported_text text _ store⟩

omit made in
/-- What is declared by the module is held in the parameters. -/
theorem mem_ownKeys_of_declared {name : String} {value : Value}
    (declared : (name, value) ∈ declaredParams m defaults) :
    Key.ofString name ∈ object.ownKeys := by
  let own : List (String × Script.Value) :=
    [("designator", .ofString m.designator), ("side", .ofString m.side.letter)]
  have known : name ∈ (own ++ entries).map Prod.fst := by
    rw [List.map_append, List.mem_append, names_entries isParams]
    obtain ⟨-, text, listed, -⟩ | ⟨net, other, -⟩ := declared_cases declared
    · refine .inl ?_
      simp only [List.mem_cons, Prod.mk.injEq, List.not_mem_nil, or_false] at listed
      obtain ⟨rfl, -⟩ | ⟨rfl, -⟩ := listed
      · exact List.mem_cons_self
      · exact List.mem_cons_of_mem _ List.mem_cons_self
    · exact .inr (List.mem_filter.mpr ⟨net, by simpa using other⟩)
  obtain ⟨value, -, held⟩ := Script.withMembers_of_mem (fun _ => none) known
  have isText : (Key.ofString name).isText = true := by
    have own := Key.units?_ofUnits (units name)
    cases key : Key.ofString name with
    | symbol | secret =>
      change (Key.ofString name).units? = _ at own
      rw [key] at own
      cases own
    | index | text => rfl
  exact isParams.holds.keyed.mem_ownKeys isText ((isParams.holds.holds _).trans (congrArg _ held))

/-- The parameters that a script exports are read as those that the module declares. -/
theorem exported_params (once : m.nets.Nodup) (found : store.objects[id]? = some object)
    (fuel : Nat) : ∃ members,
      Session.exported (fuel + 3) (.object id) store = (.ok (.record members), store) ∧
        readParams (.record members) = readParams (.record (declaredParams m defaults)) := by
  let declared := declaredParams m defaults
  obtain ⟨members, each⟩ := exists_forall₂ fun key (member : key ∈ object.ownKeys) =>
    exports_declared isParams made fuel member
  have ran : Session.exported (fuel + 3) (.object id) store = (.ok (.record members), store) :=
    exported_record found isParams.holds.keyed.plain (each.imp fun _ _ own => own.2.2)
  have keys : members.map (fun member => Key.ofString member.1) = object.ownKeys := by
    have same : List.Forall₂ Eq object.ownKeys (members.map fun member => Key.ofString member.1) :=
      List.forall₂_map_right_iff.mpr (each.imp fun _ _ own => own.2.1)
    exact (List.forall₂_eq_eq_eq ▸ same : object.ownKeys = _).symm
  have distinct : (members.map Prod.fst).Nodup := by
    have nodup := isParams.holds.keyed.nodup_ownKeys
    rw [← keys] at nodup
    rw [show members.map (fun member => Key.ofString member.1) =
      (members.map Prod.fst).map Key.ofString by rw [List.map_map]; rfl] at nodup
    exact nodup.of_map _
  have listed : ∀ member ∈ members, member ∈ declared :=
    ((List.forall₂_and_left _ _).mp each.flip).1
  have perm : members.Perm declared := by
    refine (List.perm_ext_iff_of_nodup (distinct.of_map _) ((nodup_declaredParams once).of_map _)).mpr
      fun member => ⟨listed member, fun inside => ?_⟩
    have key := mem_ownKeys_of_declared isParams inside
    rw [← keys] at key
    obtain ⟨other, own, same⟩ := List.mem_map.mp key
    have names : other.1 = member.1 := Key.ofString_injective same
    exact List.inj_on_of_nodup_map (nodup_declaredParams once) (listed _ own) inside names ▸ own
  exact ⟨members, ran, readParams_perm distinct perm⟩

end Params

end FootprintTemplate.Preview
