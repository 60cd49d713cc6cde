import FootprintTemplate.Proofs.Script.Members

/-! What a script finds when it starts: the bases and the routines of the library that the script of
a module uses. They stay what they are as long as only further objects are made. A text is shown as
itself, an object that holds a text as this text, and the base of all objects by the word for
objects. -/
namespace FootprintTemplate.Script

open Interpreter (machine)
open Library (find? startStore)
open Text (Units units)

variable {store after : Store} {id : Nat} {key : Key} {value : Value}

/-- Every object and every scope is still there, and the same. -/
structure Store.Keeps (before after : Store) : Prop where
  objects : ∀ (id : Nat) (object : Object),
    before.objects[id]? = some object → after.objects[id]? = some object
  scopes : ∀ (id : Nat) (scope : Scope),
    before.scopes[id]? = some scope → after.scopes[id]? = some scope

theorem getElem?_push_of_some {α : Type} {items : Array α} {item : α}
    (found : items[id]? = some item) (further : α) : (items.push further)[id]? = some item := by
  have inside := (Array.getElem?_eq_some_iff.mp found).1
  rw [Array.getElem?_push, if_neg (Nat.ne_of_lt inside), found]

namespace Store.Keeps

theorem refl (store : Store) : store.Keeps store :=
  ⟨fun _ _ found => found, fun _ _ found => found⟩

theorem trans {middle : Store} (first : store.Keeps middle) (second : middle.Keeps after) :
    store.Keeps after :=
  ⟨fun id object found => second.objects id object (first.objects id object found),
    fun id scope found => second.scopes id scope (first.scopes id scope found)⟩

theorem pushObject (store : Store) (object : Object) : store.Keeps (store.pushObject object) :=
  ⟨fun _ _ found => getElem?_push_of_some found object, fun _ _ found => found⟩

theorem pushScope (store : Store) (scope : Scope) : store.Keeps (store.pushScope scope) :=
  ⟨fun _ _ found => found, fun _ _ found => getElem?_push_of_some found scope⟩

/-- An object that was not there before may change. -/
theorem withObject (keeps : store.Keeps after) (new : store.objects.size ≤ id) (object : Object) :
    store.Keeps (after.withObject id object) := by
  refine ⟨fun own kept found => ?_, keeps.scopes⟩
  have inside := (Array.getElem?_eq_some_iff.mp found).1
  change (after.objects.setIfInBounds id object)[own]? = _
  rw [Array.getElem?_setIfInBounds, if_neg (by omega), keeps.objects own kept found]

/-- A scope that was not there before may change. -/
theorem withScope (keeps : store.Keeps after) (new : store.scopes.size ≤ id) (scope : Scope) :
    store.Keeps (after.withScope id scope) := by
  refine ⟨keeps.objects, fun own kept found => ?_⟩
  have inside := (Array.getElem?_eq_some_iff.mp found).1
  change (after.scopes.setIfInBounds id scope)[own]? = _
  rw [Array.getElem?_setIfInBounds, if_neg (by omega), keeps.scopes own kept found]

end Store.Keeps

/-- Objects were added, and nothing else that a call depends on has changed. -/
structure Store.Grows (before after : Store) : Prop where
  keeps : before.Keeps after
  depth : after.depth = before.depth
  joining : after.joining = before.joining

namespace Store.Grows

theorem refl (store : Store) : store.Grows store :=
  ⟨.refl store, rfl, rfl⟩

theorem trans {middle : Store} (first : store.Grows middle) (second : middle.Grows after) :
    store.Grows after :=
  ⟨first.keeps.trans second.keeps, second.depth.trans first.depth,
    second.joining.trans first.joining⟩

theorem pushObject (store : Store) (object : Object) : store.Grows (store.pushObject object) :=
  ⟨.pushObject store object, rfl, rfl⟩

end Store.Grows

theorem Holds.mono {slot : Slot} (holds : Holds store id key slot) (keeps : store.Keeps after) :
    Holds after id key slot := by
  obtain ⟨object, found, rest⟩ := holds
  exact ⟨object, keeps.objects _ _ found, rest⟩

theorem Lacks.mono {base : Option Nat} (lacks : Lacks store id key base)
    (keeps : store.Keeps after) : Lacks after id key base := by
  obtain ⟨object, found, rest⟩ := lacks
  exact ⟨object, keeps.objects _ _ found, rest⟩

/-- An object has a value for a key. -/
def HasValue (store : Store) (id : Nat) (key : Key) (value : Value) : Prop :=
  ∃ writable enumerable configurable,
    Holds store id key (.data value writable enumerable configurable)

theorem HasValue.mono (has : HasValue store id key value) (keeps : store.Keeps after) :
    HasValue after id key value := by
  obtain ⟨writable, enumerable, configurable, holds⟩ := has
  exact ⟨writable, enumerable, configurable, holds.mono keeps⟩

theorem HasValue.get {m : Machine} {fuel : Nat} {receiver : Value}
    (has : HasValue store id key value) :
    Member.getWithin m (fuel + 1) id key receiver store = (.ok value, store) := by
  obtain ⟨writable, enumerable, configurable, holds⟩ := has
  exact holds.get

/-- An object is a routine of the library. -/
def IsNative (store : Store) (id : Nat) (home : String) (post : Post) (name : String) : Prop :=
  ∃ object, store.objects[id]? = some object ∧ object.kind = .native home post name

theorem IsNative.mono {home name : String} {post : Post} (native : IsNative store id home post name)
    (keeps : store.Keeps after) : IsNative after id home post name := by
  obtain ⟨object, found, kind⟩ := native
  exact ⟨object, keeps.objects _ _ found, kind⟩

/-- A member of an object is a routine of the library. -/
def Provides (store : Store) (id : Nat) (member home : String) (post : Post) (name : String) : Prop :=
  ∃ routine, HasValue store id (.ofString member) (.object routine) ∧
    IsNative store routine home post name

theorem Provides.mono {member home name : String} {post : Post}
    (provides : Provides store id member home post name) (keeps : store.Keeps after) :
    Provides after id member home post name := by
  obtain ⟨routine, has, native⟩ := provides
  exact ⟨routine, has.mono keeps, native.mono keeps⟩

/-- The base of all objects, or of all lists: it has no items. -/
def IsBase (store : Store) (id : Nat) (kind : Kind) (base : Option Nat) : Prop :=
  ∃ object, store.objects[id]? = some object ∧ object.kind = kind ∧ object.prototype = base ∧
    object.items = #[]

/-- The routine that makes errors, which gives them their base. -/
def MakesErrors (store : Store) (maker : Nat) : Prop :=
  IsNative store maker "Error" .maker "Error" ∧
    HasValue store maker (.ofString "prototype") (.object (Origin.error .error).id)

/-- A scope without names of its own. -/
def IsBare (store : Store) (id : Nat) (owner parent : Option Nat) : Prop :=
  ∃ scope, store.scopes[id]? = some scope ∧ scope.bindings = [] ∧ scope.owner = owner ∧
    scope.parent = parent

/-- The bases, routines and scopes that the script of a module uses. -/
structure Equipped (store : Store) : Prop where
  root : IsBase store Origin.object.id .plain none
  toPrimitive : Lacks store Origin.object.id Sign.toPrimitive.key none
  toStringTag : Lacks store Origin.object.id Sign.toStringTag.key none
  toText : Provides store Origin.object.id "toString" "Object" .shared "toString"
  valueOf : Provides store Origin.object.id "valueOf" "Object" .shared "valueOf"
  baseOf : ∃ getter setter enumerable configurable,
    Holds store Origin.object.id (.ofString "__proto__")
      (.accessor (.object getter) setter enumerable configurable) ∧
    IsNative store getter "Object" .shared "__proto__"
  lists : IsBase store Origin.list.id (.list 0 true) (some Origin.object.id)
  push : Provides store Origin.list.id "push" "Array" .shared "push"
  join : Provides store Origin.list.id "join" "Array" .shared "join"
  error : ∃ maker, HasValue store Origin.global.id (.ofString "Error") (.object maker) ∧
    MakesErrors store maker
  errorName : HasValue store (Origin.error .error).id (.ofString "name") (.ofString "Error")
  outer : IsBare store 0 (some Origin.global.id) none
  inner : IsBare store Library.scriptScope none (some 0)

theorem IsBase.mono {kind : Kind} {base : Option Nat} (own : IsBase store id kind base)
    (keeps : store.Keeps after) : IsBase after id kind base := by
  obtain ⟨object, found, rest⟩ := own
  exact ⟨object, keeps.objects _ _ found, rest⟩

theorem MakesErrors.mono (makes : MakesErrors store id) (keeps : store.Keeps after) :
    MakesErrors after id :=
  ⟨makes.1.mono keeps, makes.2.mono keeps⟩

theorem IsBare.mono {owner parent : Option Nat} (bare : IsBare store id owner parent)
    (keeps : store.Keeps after) : IsBare after id owner parent := by
  obtain ⟨scope, found, rest⟩ := bare
  exact ⟨scope, keeps.scopes _ _ found, rest⟩

theorem Equipped.mono (equipped : Equipped store) (keeps : store.Keeps after) : Equipped after where
  root := equipped.root.mono keeps
  toPrimitive := equipped.toPrimitive.mono keeps
  toStringTag := equipped.toStringTag.mono keeps
  toText := equipped.toText.mono keeps
  valueOf := equipped.valueOf.mono keeps
  baseOf := by
    obtain ⟨getter, setter, enumerable, configurable, holds, native⟩ := equipped.baseOf
    exact ⟨getter, setter, enumerable, configurable, holds.mono keeps, native.mono keeps⟩
  lists := equipped.lists.mono keeps
  push := equipped.push.mono keeps
  join := equipped.join.mono keeps
  error := by
    obtain ⟨maker, has, makes⟩ := equipped.error
    exact ⟨maker, has.mono keeps, makes.mono keeps⟩
  errorName := equipped.errorName.mono keeps
  outer := equipped.outer.mono keeps
  inner := equipped.inner.mono keeps

section Shown

variable {shown : Units}

/-- A call of a routine of the library carries out what the library has under its name. -/
theorem call_native {home name : String} {post : Post} {native : Native}
    (own : IsNative store id home post name) (known : find? home post name = some native)
    (depth : Nat) (this : Value) (arguments : List Value) :
    (machine (depth + 1)).call (.object id) this arguments store =
      native.run ⟨machine depth, this, arguments, none⟩ store := by
  obtain ⟨object, found, kind⟩ := own
  change (Run.object id >>= _) store = _
  rw [bind_ok (object_of_getElem? found), kind]
  simp only [known]

theorem isCallable_native {home name : String} {post : Post}
    (own : IsNative store id home post name) :
    Coerce.isCallable (.object id) store = (.ok true, store) := by
  obtain ⟨object, found, kind⟩ := own
  change (Run.object id >>= _) store = _
  rw [bind_ok (object_of_getElem? found), Object.isCallable, kind]
  rfl

/-- An object that holds the text it is shown as. -/
structure IsLabel (store : Store) (id : Nat) (shown : Units) : Prop where
  text : HasValue store id Library.Labels.textKey (.text shown)
  toText : Provides store id "toString" "Label" .own "toString"
  toPrimitive : Lacks store id Sign.toPrimitive.key (some Origin.object.id)
  valueOf : Lacks store id (.ofString "valueOf") (some Origin.object.id)

theorem IsLabel.mono (label : IsLabel store id shown) (keeps : store.Keeps after) :
    IsLabel after id shown :=
  ⟨label.text.mono keeps, label.toText.mono keeps, label.toPrimitive.mono keeps,
    label.valueOf.mono keeps⟩

/-- A new label, whatever its own two members hold. -/
theorem makeLabel_eq (name index : Value) (shown : Units) (store : Store) : ∃ id after,
    Library.makeLabel [("name", name), ("index", index)] shown store = (.ok (.object id), after) ∧
      store.Grows after ∧ IsLabel after id shown := by
  let routine : Object := {
    prototype := some Origin.routine.id
    kind := .native Library.Labels.family.name .own "toString"
    slots := #[(Object.lengthKey, Routines.fixedSlot (.ofNat 0)),
      (.ofString "name", Routines.fixedSlot (.ofString (Library.shownName "toString")))] }
  let empty : Object := { prototype := some Origin.object.id }
  let named := empty.put (.ofString "name") (.ordinary name)
  let numbered := named.put (.ofString "index") (.ordinary index)
  let text := numbered.put Library.Labels.textKey (.ordinary (.text shown))
  let label := text.put (.ofString "toString") (.hidden (.object store.objects.size))
  let whole := (store.pushObject routine).pushObject label
  have size : (store.pushObject routine).objects.size = store.objects.size + 1 := Array.size_push _
  have first : whole.objects[store.objects.size]? = some routine :=
    getElem?_push_of_some Array.getElem?_push_size _
  have second : whole.objects[store.objects.size + 1]? = some label := by
    rw [← size]
    exact Array.getElem?_push_size
  have ran : Library.makeLabel [("name", name), ("index", index)] shown store =
      (.ok (.object (store.objects.size + 1)), whole) := by
    rw [← size]
    rfl
  have keyedNamed : named.Keyed := (Object.keyed_blank _).put _ _
  have keyedNumbered : numbered.Keyed := keyedNamed.put _ _
  have keyedText : text.Keyed := keyedNumbered.put _ _
  have keyed : label.Keyed := keyedText.put _ _
  have held (key : Key) : label.own? key =
      if key = .ofString "toString" then some (.hidden (.object store.objects.size))
      else if key = Library.Labels.textKey then some (.ordinary (.text shown))
      else if key = .ofString "index" then some (.ordinary index)
      else if key = .ofString "name" then some (.ordinary name) else none := by
    have none : empty.slot? key = none := (Object.IsRecord.blank _).holds key
    rw [keyed.own?, keyedText.slot?_put, keyedNumbered.slot?_put, keyedNamed.slot?_put,
      (Object.keyed_blank _).slot?_put, none]
  have base : label.prototype = some Origin.object.id := by
    simp only [label, text, numbered, named, empty, Object.prototype_put]
  have lacks {key : Key} (free : label.own? key = none) :
      Lacks whole (store.objects.size + 1) key (some Origin.object.id) :=
    ⟨label, second, keyed.isProxy, free, base⟩
  refine ⟨_, whole, ran, (Store.Grows.pushObject _ _).trans (.pushObject _ _), ?_, ?_, ?_, ?_⟩
  · have own := (held Library.Labels.textKey).trans (by rw [if_neg (by decide), if_pos rfl])
    exact ⟨_, _, _, label, second, keyed.isProxy, own⟩
  · have own := (held (.ofString "toString")).trans (if_pos rfl)
    exact ⟨_, ⟨_, _, _, label, second, keyed.isProxy, own⟩, routine, first, rfl⟩
  · refine lacks ((held _).trans ?_)
    rw [if_neg (by decide), if_neg (by decide), if_neg (by decide), if_neg (by decide)]
  · refine lacks ((held _).trans ?_)
    rw [if_neg (by decide), if_neg (by decide), if_neg (by decide), if_neg (by decide)]

/-- A value and the text that it is shown as. -/
inductive Shown (store : Store) : Value → Units → Prop where
  | text (own : Units) : Shown store (.text own) own
  | number (n : Number.Double) : Shown store (.number n) (numberText n)
  | label {id : Nat} {shown : Units} (own : IsLabel store id shown) :
      Shown store (.object id) shown
  | base : Shown store (.object Origin.object.id) (units "[object Object]")

theorem Shown.mono (own : Shown store value shown) (keeps : store.Keeps after) :
    Shown after value shown := by
  cases own with
  | text => exact .text _
  | number => exact .number _
  | label own => exact .label (own.mono keeps)
  | base => exact .base

theorem Shown.isNothing (own : Shown store value shown) : value.isNothing = false := by
  cases own <;> rfl

section Labels

variable {m : Machine}

/-- No method of its own turns the object into a plain value. -/
def HasNoConversion (store : Store) (id : Nat) : Prop :=
  ∀ m, Member.getWithin m Member.reach id Sign.toPrimitive.key (.object id) store =
    (.ok .undefined, store)

theorem toPlain_object (free : HasNoConversion store id) (m : Machine) (hint : Coerce.Hint) :
    Coerce.toPlain m hint (.object id) store =
      Coerce.firstPlain m id
        (if hint == .text then ["toString", "valueOf"] else ["valueOf", "toString"]) store := by
  have missing : Coerce.methodOf? m (.object id) Sign.toPrimitive.key store = (.ok none, store) :=
    (bind_ok (free m)).trans rfl
  exact (bind_ok missing).trans rfl

theorem firstPlain_text {routine : Nat} {rest : List String} {name : String} {own : Units}
    (found : ∀ fuel, Member.getWithin m (fuel + 1) id (.ofString name) (.object id) store =
      (.ok (.object routine), store))
    (callable : Coerce.isCallable (.object routine) store = (.ok true, store))
    (called : m.call (.object routine) (.object id) [] store = (.ok (.text own), store)) :
    Coerce.firstPlain m id (name :: rest) store = (.ok (.text own), store) := by
  refine (bind_ok (found 9999)).trans ?_
  refine (bind_ok callable).trans ?_
  exact (bind_ok called).trans rfl

theorem firstPlain_object {routine found : Nat} {rest : List String} {name : String}
    (read : ∀ fuel, Member.getWithin m (fuel + 2) id (.ofString name) (.object id) store =
      (.ok (.object routine), store))
    (callable : Coerce.isCallable (.object routine) store = (.ok true, store))
    (called : m.call (.object routine) (.object id) [] store = (.ok (.object found), store)) :
    Coerce.firstPlain m id (name :: rest) store = Coerce.firstPlain m id rest store := by
  refine (bind_ok (read 9998)).trans ?_
  refine (bind_ok callable).trans ?_
  exact (bind_ok called).trans rfl

variable (equipped : Equipped store) (depth : Nat)

include equipped

/-- However a label is turned into a plain value, it becomes its text. -/
theorem toPlain_label (label : IsLabel store id shown) (hint : Coerce.Hint) :
    Coerce.toPlain (machine (depth + 1)) hint (.object id) store = (.ok (.text shown), store) := by
  have free : HasNoConversion store id := fun m => by
    change Member.getWithin m (9998 + 1 + 1) id _ _ store = _
    rw [label.toPrimitive.get_base, equipped.toPrimitive.get_none]
  obtain ⟨routine, has, native⟩ := label.toText
  have text (rest : List String) :
      Coerce.firstPlain (machine (depth + 1)) id ("toString" :: rest) store =
        (.ok (.text shown), store) := by
    refine firstPlain_text (fun fuel => has.get) (isCallable_native native) ?_
    rw [call_native native rfl]
    exact label.text.get
  rw [toPlain_object free]
  split
  · exact text _
  · obtain ⟨itself, own, ownNative⟩ := equipped.valueOf
    have read (fuel : Nat) : Member.getWithin (machine (depth + 1)) (fuel + 2) id (.ofString "valueOf")
        (.object id) store = (.ok (.object itself), store) := by
      rw [label.valueOf.get_base, own.get]
    have called : (machine (depth + 1)).call (.object itself) (.object id) [] store =
        (.ok (.object id), store) := by
      rw [call_native ownNative rfl]
      rfl
    exact (firstPlain_object read (isCallable_native ownNative) called).trans (text _)

theorem toPlain_base :
    Coerce.toPlain (machine (depth + 1)) .text (.object Origin.object.id) store =
      (.ok (.text (units "[object Object]")), store) := by
  have free : HasNoConversion store Origin.object.id := fun m => equipped.toPrimitive.get_none
  obtain ⟨routine, has, native⟩ := equipped.toText
  rw [toPlain_object free]
  refine firstPlain_text (fun fuel => has.get) (isCallable_native native) ?_
  rw [call_native native rfl]
  obtain ⟨object, found, kind, -⟩ := equipped.root
  have list : Coerce.isList (.object Origin.object.id) store = (.ok false, store) := by
    change (Run.object Origin.object.id >>= _) store = _
    rw [bind_ok (object_of_getElem? found), kind]
    rfl
  have word : Library.Objects.kindName Origin.object.id store = (.ok "Object", store) := by
    refine (bind_ok list).trans ?_
    refine (bind_ok (object_of_getElem? found)).trans ?_
    simp only [kind, Object.isCallable]
    rfl
  refine (bind_ok word).trans ?_
  have tag : Member.get (machine depth) Origin.object.id Sign.toStringTag.key store =
      (.ok .undefined, store) := equipped.toStringTag.get_none
  exact (bind_ok tag).trans rfl

theorem Shown.toText (own : Shown store value shown) :
    Coerce.toText (machine (depth + 1)) value store = (.ok shown, store) := by
  cases own with
  | text | number => rfl
  | label own => exact (bind_ok (toPlain_label equipped depth own .text)).trans rfl
  | base => exact (bind_ok (toPlain_base equipped depth)).trans rfl

end Labels

end Shown

end FootprintTemplate.Script
