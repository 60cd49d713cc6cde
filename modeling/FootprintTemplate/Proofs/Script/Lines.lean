import FootprintTemplate.Proofs.Number.Whole
import FootprintTemplate.Proofs.Script.Provided

/-! Lists that a script adds to and joins. A list of some values holds each of them at its place; adding
one makes it the list with this value at its end, and joining shows each of them. -/
namespace FootprintTemplate.Number.Double

/-- A natural number that fits into the mantissa is itself as a number of 64 bits. -/
theorem isNatural_ofNat {n : Nat} (small : n < 1 <<< precision) : IsNatural false n (ofNat n) :=
  isNatural_ofRatio false (e := 0) small (by decide)

theorem IsNatural.isWhole {n : Nat} {value : Double} (natural : IsNatural false n value) :
    value.isWhole = true := by
  obtain ⟨m, e, rfl, whole⟩ := natural
  by_cases sign : 0 ≤ e
  · simp [Double.isWhole, sign]
  · have none : e.toNat = 0 := Int.toNat_of_nonpos (by omega)
    rw [none, Nat.shiftLeft_zero] at whole
    simp [Double.isWhole, whole, Nat.shiftLeft_eq]

theorem IsNatural.toInt {n : Nat} {value : Double} (natural : IsNatural false n value) :
    value.toInt = n := by
  obtain ⟨m, e, rfl, whole⟩ := natural
  by_cases sign : e < 0
  · have none : e.toNat = 0 := Int.toNat_of_nonpos (by omega)
    rw [none, Nat.shiftLeft_zero] at whole
    simp [Double.toInt, toInt?, sign, whole]
  · have none : (-e).toNat = 0 := Int.toNat_of_nonpos (by omega)
    rw [none, Nat.shiftLeft_zero] at whole
    simp [Double.toInt, toInt?, sign, whole]

end FootprintTemplate.Number.Double

namespace FootprintTemplate.Script

open Interpreter (machine)
open Number (Double)
open Text (Units units)

variable {store after : Store} {id : Nat} {values : List Value} {value : Value}

/-- A length below the limit of places is one that a list can have. -/
theorem lengthOf_ofNat {n : Nat} (small : n ≤ indexLimit) :
    Member.lengthOf (.ofNat n) store = (.ok n, store) := by
  have natural := Double.isNatural_ofNat (n := n) (by
    have limit : indexLimit < 1 <<< Double.precision := by decide
    omega)
  have bits : (Double.ofNat n).toUInt32 = n := by
    rw [Double.toUInt32, Double.wrapUnsigned, natural.toInt]
    change ((n : Int) % 4294967296).toNat = n
    unfold indexLimit at small
    omega
  change (if _ then pure _ else _ : Run Nat) store = _
  rw [bits, natural.toInt, natural.isWhole, if_pos (by simp)]
  rfl

/-- A list of values as a script holds it. -/
def listOf (values : List Value) : Object where
  prototype := some Origin.list.id
  kind := .list values.length true
  items := Object.itemsOf values

theorem getElem?_itemsOf (values : List Value) (i : Nat) :
    (Object.itemsOf values)[i]? = (values[i]?).map fun value => (i, .ordinary value) := by
  simp [Object.itemsOf]

theorem itemsOf_push (values : List Value) (value : Value) :
    (Object.itemsOf values).push (values.length, .ordinary value) =
      Object.itemsOf (values ++ [value]) := by
  refine Array.ext_getElem? fun i => ?_
  have size : (Object.itemsOf values).size = values.length := by simp [Object.itemsOf]
  rw [Array.getElem?_push, size, getElem?_itemsOf, getElem?_itemsOf, List.getElem?_append]
  split
  · rename_i last
    simp [last]
  · rename_i other
    split
    · rfl
    · rw [List.getElem?_eq_none (by omega), List.getElem?_eq_none (by simp; omega)]

theorem own?_listOf_other {key : Key} (other : key ≠ Object.lengthKey) :
    (listOf values).own? key = (listOf values).slot? key := by
  simp [Object.own?, Object.length?, listOf, other]

theorem own?_listOf_length :
    (listOf values).own? Object.lengthKey = some (.data (.ofNat values.length) true false false) := by
  simp [Object.own?, Object.length?, listOf]

theorem index_ne_length (i : Nat) : Key.index i ≠ Object.lengthKey := by
  have text : Object.lengthKey = .text (units "length") := by decide
  rw [text]
  exact nofun

/-- The members of a list are those of the base of lists. -/
theorem lacks_listOf {text : Units} (found : store.objects[id]? = some (listOf values))
    (other : Key.text text ≠ Object.lengthKey) :
    Lacks store id (.text text) (some Origin.list.id) := by
  refine ⟨_, found, rfl, ?_, rfl⟩
  rw [own?_listOf_other other, Object.slot?_other fun _ => Key.noConfusion,
    Object.slotPlace?_empty rfl]
  rfl

theorem own?_listOf_index (values : List Value) (i : Nat) :
    (listOf values).own? (.index i) = (values[i]?).map Slot.ordinary := by
  rw [own?_listOf_other (index_ne_length i)]
  have place : (listOf values).itemPlace? i = if i < values.length then some i else none := by
    unfold Object.itemPlace?
    change (if ((Object.itemsOf values)[i]?).any _ = true then _ else
      if i < values.length then _ else _) = _
    rw [getElem?_itemsOf]
    by_cases inside : i < values.length
    · simp [inside]
    · simp [inside]
  rw [Object.slot?, place]
  split
  · change ((Object.itemsOf values)[i]?).map _ = _
    rw [getElem?_itemsOf, Option.map_map]
    rfl
  · rw [List.getElem?_eq_none (by omega)]
    rfl

theorem slot?_index_empty {object : Object} (empty : object.items = #[]) (i : Nat) :
    object.slot? (.index i) = none := by
  have place : object.itemPlace? i = none := by
    unfold Object.itemPlace?
    rw [empty]
    split
    · rename_i found
      cases found
    · split
      · split
        · exact Array.findIdx?_empty
        · rfl
      · exact Array.findIdx?_empty
  rw [Object.slot?, place]
  rfl

theorem IsBase.lacks_index {kind : Kind} {base : Option Nat} (own : IsBase store id kind base)
    (simple : kind = .plain ∨ kind = .list 0 true) (i : Nat) : Lacks store id (.index i) base := by
  obtain ⟨object, found, rfl, same, empty⟩ := own
  have slot := slot?_index_empty empty i
  refine ⟨object, found, ?_, ?_, same⟩
  · obtain plain | list := simple
    · rw [Object.isProxy, plain]
    · rw [Object.isProxy, list]
  · obtain plain | list := simple
    · simp [Object.own?, Object.length?, plain, slot]
    · simp [Object.own?, Object.length?, list, slot, index_ne_length]

theorem forRange_one {step : Nat → Run Unit} {start : Nat}
    (done : step start store = (.ok (), after)) :
    Run.forRange step 1 start store = (.ok (), after) := by
  simp only [Run.forRange, done]

section Push

variable {m : Machine} (equipped : Equipped store)
  (found : store.objects[id]? = some (listOf values))

theorem getElem?_withObject {object : Object} (found : store.objects[id]? = some object)
    (other : Object) : (store.withObject id other).objects[id]? = some other := by
  have inside := (Array.getElem?_eq_some_iff.mp found).1
  change (store.objects.setIfInBounds id other)[id]? = _
  rw [Array.getElem?_setIfInBounds, if_pos rfl, if_pos inside]

theorem withObject_withObject (object other : Object) :
    (store.withObject id object).withObject id other = store.withObject id other := by
  simp [Store.withObject, Array.setIfInBounds_setIfInBounds]

include found

theorem defineOwn_place :
    Member.defineOwn id (.index values.length) (.ofSlot (.ordinary value)) store =
      (.ok true, store.withObject id (listOf (values ++ [value]))) := by
  refine (bind_ok (object_of_getElem? found)).trans ?_
  refine (exchange_of_getElem? found _).trans ?_
  have free : (listOf values).own? (.index values.length) = none := by
    rw [own?_listOf_index, List.getElem?_eq_none (Nat.le_refl _)]
    rfl
  have place : (listOf values).itemPlace? values.length = none := by
    unfold Object.itemPlace?
    change (if ((Object.itemsOf values)[_]?).any _ = true then _ else
      if values.length < values.length then _ else _) = _
    rw [getElem?_itemsOf]
    simp
  have put : (listOf values).put (.index values.length) (.ordinary value) =
      { listOf values with
        items := (Object.itemsOf values).push (values.length, .ordinary value) } := by
    rw [Object.put, place]
    rfl
  have defined : (listOf values).defineItem values.length true values.length
      (.ofSlot (.ordinary value)) = (listOf (values ++ [value]), true) := by
    rw [Object.defineItem, if_neg (Nat.lt_irrefl _), Object.define, free]
    change (({ (listOf values).put (.index values.length) (.ordinary value) with
      kind := .list (values.length + 1) true } : Object), true) = _
    rw [put, itemsOf_push]
    simp [listOf]
  rw [defined]

/-- Setting the length that a list has changes nothing. -/
theorem defineOwn_length (small : values.length ≤ indexLimit) :
    Member.defineOwn id Object.lengthKey { value := some (.ofNat values.length) } store =
      (.ok true, store.withObject id (listOf values)) := by
  refine (bind_ok (object_of_getElem? found)).trans ?_
  change ((some (Value.ofNat values.length)).mapM Member.lengthOf >>= _) store = _
  have asked : (some (Value.ofNat values.length)).mapM Member.lengthOf store =
      (.ok (some values.length), store) := (bind_ok (lengthOf_ofNat small)).trans rfl
  refine (bind_ok asked).trans ?_
  refine (exchange_of_getElem? found _).trans ?_
  have defined : (listOf values).defineLength values.length true (some values.length)
      { value := some (.ofNat values.length) } = (listOf values, true) := by
    simp [Object.defineLength, Description.isAccessor, listOf]
  rw [defined]

theorem put_length (small : values.length ≤ indexLimit) :
    Member.put m id Object.lengthKey (.ofNat values.length) store =
      (.ok (), store.withObject id (listOf values)) := by
  have length : Holds store id Object.lengthKey (.data (.ofNat values.length) true false false) :=
    ⟨_, found, rfl, own?_listOf_length⟩
  have set : Member.setWithin m Member.reach id Object.lengthKey (.ofNat values.length)
      (.object id) store = (.ok true, store.withObject id (listOf values)) := by
    change Member.setWithin m (9999 + 1) id _ _ _ store = _
    rw [length.set, defineOwn_length found small]
  exact (bind_ok set).trans rfl

theorem subject_listOf (arguments : List Value) :
    Library.Lists.subject ⟨m, .object id, arguments, none⟩ store =
      (.ok (id, values.length), store) := by
  have length : Coerce.lengthOf m id store = (.ok values.length, store) :=
    (bind_ok (object_of_getElem? found)).trans rfl
  exact (bind_ok length).trans rfl

include equipped

theorem put_place (small : values.length < indexLimit) :
    Member.put m id (.ofNat values.length) value store =
      (.ok (), store.withObject id (listOf (values ++ [value]))) := by
  have key : Key.ofNat values.length = .index values.length := if_pos small
  have free : Lacks store id (.index values.length) (some Origin.list.id) := by
    refine ⟨_, found, rfl, ?_, rfl⟩
    rw [own?_listOf_index, List.getElem?_eq_none (Nat.le_refl _)]
    rfl
  have set : Member.setWithin m Member.reach id (.index values.length) value (.object id) store =
      (.ok true, store.withObject id (listOf (values ++ [value]))) := by
    change Member.setWithin m (9995 + 2 + 1 + 1 + 1) id _ _ _ store = _
    rw [free.set_base, (equipped.lists.lacks_index (.inr rfl) _).set_base,
      (equipped.root.lacks_index (.inl rfl) _).set_none, free.setOwn, defineOwn_place found]
  rw [key]
  exact (bind_ok set).trans rfl

/-- Adding a value to a list makes it the list with this value at its end. -/
theorem push_listOf (small : values.length < indexLimit) :
    Library.Lists.push ⟨m, .object id, [value], none⟩ store =
      (.ok (.ofNat (values.length + 1)), store.withObject id (listOf (values ++ [value]))) := by
  have limit : indexLimit ≤ Coerce.lengthLimit := by decide
  have fits : Library.Lists.checkLength (values.length + 1) store = (.ok (), store) := by
    rw [Library.Lists.checkLength, if_neg (by omega)]
    rfl
  have ranged : Run.forRange (fun i => Library.Lists.put ⟨m, .object id, [value], none⟩ id
      (values.length + i) (([value][i]?).getD .undefined)) 1 0 store =
      (.ok (), store.withObject id (listOf (values ++ [value]))) := by
    refine forRange_one ?_
    rw [Nat.add_zero]
    exact put_place equipped found small
  have now := getElem?_withObject found (listOf (values ++ [value]))
  have length : (values ++ [value]).length = values.length + 1 := List.length_append
  have measured := put_length (m := m) now (by omega)
  rw [length, withObject_withObject] at measured
  refine (bind_ok (subject_listOf found _)).trans ?_
  refine (bind_ok fits).trans ?_
  refine (bind_ok ranged).trans ?_
  exact (bind_ok measured).trans rfl

end Push

section Join

theorem mapM_ok {α β : Type} {step : α → Run β} {items : List α} {results : List β}
    (each : List.Forall₂ (fun item result => step item store = (.ok result, store)) items results) :
    (items.mapM step : Run (List β)) store = (.ok results, store) := by
  induction each with
  | nil => rfl
  | cons first _ ih =>
    rw [List.mapM_cons]
    refine (bind_ok first).trans ?_
    exact (bind_ok ih).trans rfl

/-- What runs while the text of a list is made, if that of no list is being made already. -/
theorem joiningOnce_ok {run : Run Units} {text : Units} (idle : store.joining = [])
    (ran : run { store with joining := [id] } = (.ok text, { store with joining := [id] })) :
    Library.Lists.joiningOnce id run store = (.ok text, store) := by
  obtain ⟨objects, scopes, symbols, registry, depth, journal, joining⟩ := store
  subst idle
  have outcome : Run.outcome run ⟨objects, scopes, symbols, registry, depth, journal, [id]⟩ =
      (.ok (.ok text), ⟨objects, scopes, symbols, registry, depth, journal, [id]⟩) := by
    change ((Except.ok (run _).1 : Except Stop (Except Stop Units)), (run _).2) = _
    rw [ran]
  let before : Store := ⟨objects, scopes, symbols, registry, depth, journal, []⟩
  have got : (MonadState.get : Run Store) before = (.ok before, before) := rfl
  have marked : (modify fun store => { store with joining := id :: store.joining } : Run Unit)
      before = (.ok (), { before with joining := [id] }) := rfl
  refine (bind_ok got).trans ?_
  refine (bind_ok marked).trans ?_
  exact (bind_ok outcome).trans rfl

variable {texts : List Units}

theorem Shown.joining {shown : Units} (own : Shown store value shown) (joining : List Nat) :
    Shown { store with joining } value shown :=
  own.mono ⟨fun _ _ found => found, fun _ _ found => found⟩

/-- Joining a list shows its values, one after another, with a text between them. -/
theorem join_listOf (equipped : Equipped store) (idle : store.joining = []) (depth : Nat)
    (found : store.objects[id]? = some (listOf values))
    (small : values.length ≤ indexLimit) (shown : List.Forall₂ (Shown store) values texts)
    (separator : Units) :
    Library.Lists.join ⟨machine (depth + 1), .object id, [.text separator], none⟩ store =
      (.ok (.text (texts.intersperse separator).flatten), store) := by
  let call : Call := ⟨machine (depth + 1), .object id, [.text separator], none⟩
  let inside : Store := { store with joining := [id] }
  have keeps : store.Keeps inside := ⟨fun _ _ found => found, fun _ _ found => found⟩
  have length : Coerce.lengthOf call.machine id inside = (.ok values.length, inside) :=
    (bind_ok (object_of_getElem? (keeps.objects _ _ found))).trans rfl
  have parts : ((List.range values.length).mapM (fun i => do
      Library.Lists.textOf call (← Library.Lists.get call id i)) : Run (List Units)) inside =
        (.ok texts, inside) := by
    obtain ⟨same, each⟩ := List.forall₂_iff_get.mp shown
    refine mapM_ok (List.forall₂_iff_get.mpr ⟨by simpa using same, fun i one two => ?_⟩)
    rw [List.length_range] at one
    have own : Holds inside id (.ofNat i) (.ordinary values[i]) := by
      refine ⟨_, keeps.objects _ _ found, rfl, ?_⟩
      rw [show Key.ofNat i = .index i from if_pos (Nat.lt_of_lt_of_le one small),
        own?_listOf_index, List.getElem?_eq_getElem one]
      rfl
    have value : Library.Lists.get call id i inside = (.ok values[i], inside) := own.get
    have text : Shown inside values[i] texts[i] := (each i one two).joining [id]
    simp only [List.get_eq_getElem, List.getElem_range]
    refine (bind_ok value).trans ?_
    rw [Library.Lists.textOf, if_neg (by rw [text.isNothing]; exact Bool.false_ne_true)]
    exact text.toText (equipped.mono keeps) depth
  have joined : Library.Lists.joinWith call id separator (Library.Lists.textOf call) store =
      (.ok (texts.intersperse separator).flatten, store) := by
    refine joiningOnce_ok idle ?_
    refine (bind_ok length).trans ?_
    exact (bind_ok parts).trans rfl
  exact (bind_ok joined).trans rfl

end Join

end FootprintTemplate.Script
