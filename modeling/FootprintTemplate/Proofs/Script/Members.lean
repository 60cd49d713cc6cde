import FootprintTemplate.Proofs.Script.Objects
import FootprintTemplate.Proofs.Text.Units
import FootprintTemplate.Script.Value

/-! Keys and members. A text that is the decimal form of a place stands for the place, and every key
of a text gives back the text, so that different texts have different keys. A script finds and
changes members in the object itself, or along its bases. -/
namespace FootprintTemplate.Script

open Text (Units units unitsOfChars)

section Digits

def isDigit (u : UInt16) : Bool :=
  48 ≤ u && u ≤ 57

theorem toNat_isDigit {u : UInt16} (digit : isDigit u = true) : 48 ≤ u.toNat ∧ u.toNat ≤ 57 := by
  rw [isDigit, Bool.and_eq_true, decide_eq_true_eq, decide_eq_true_eq] at digit
  exact digit

theorem unitsOfChars_digit {u : UInt16} (digit : isDigit u = true) :
    unitsOfChars (Nat.toDigits 10 (u.toNat - 48)) = [u] := by
  obtain ⟨low, high⟩ := toNat_isDigit digit
  have all : ∀ n < 10, unitsOfChars [Nat.digitChar n] = [UInt16.ofNat (48 + n)] := by decide
  rw [Nat.toDigits_of_lt_base (by omega), all _ (by omega), Nat.add_sub_of_le low,
    UInt16.ofNat_toNat]

/-- Digits after a number are those of a greater one. -/
theorem unitsOfChars_digits {text : Units} (digits : text.all isDigit = true) {n : Nat}
    (positive : 0 < n) : unitsOfChars (Nat.toDigits 10 n) ++ text =
      unitsOfChars (Nat.toDigits 10 (text.foldl (fun n u => 10 * n + (u.toNat - 48)) n)) := by
  induction text generalizing n with
  | nil => exact List.append_nil _
  | cons u rest ih =>
    rw [List.all_cons, Bool.and_eq_true] at digits
    have range := toNat_isDigit digits.1
    have joined := Nat.toDigits_append_toDigits (b := 10) (d := u.toNat - 48) (by decide) positive
      (by omega)
    calc unitsOfChars (Nat.toDigits 10 n) ++ u :: rest
        = unitsOfChars (Nat.toDigits 10 n ++ Nat.toDigits 10 (u.toNat - 48)) ++ rest := by
          rw [Text.unitsOfChars_append, unitsOfChars_digit digits.1, List.append_assoc]
          rfl
      _ = _ := by
          rw [joined, ih digits.2 (by omega)]
          rfl

theorem units_natural (n : Nat) : units (toString n) = unitsOfChars (Nat.toDigits 10 n) := by
  rw [Nat.toString_eq_ofList_toDigits, units, String.toList_ofList]

theorem units_of_decimal? {text : Units} {n : Nat} (read : decimal? text = some n) :
    units (toString n) = text := by
  rw [units_natural]
  unfold decimal? at read
  split at read
  · cases read
  rename_i digits
  have all : text.all isDigit = true := by
    rw [Bool.or_eq_true, not_or, Bool.not_eq_true', Bool.not_eq_false] at digits
    exact digits.2
  split at read
  · cases read
  · cases read
    decide
  · cases read
  · rename_i nonempty single leading
    obtain rfl := Option.some.inj read
    cases text with
    | nil => exact absurd rfl nonempty
    | cons u rest =>
      rw [List.all_cons, Bool.and_eq_true] at all
      have range := toNat_isDigit all.1
      have nonzero : u ≠ 48 := by
        rintro rfl
        exact leading rest rfl
      have positive : 0 < u.toNat - 48 := by
        have apart : u.toNat ≠ (48 : UInt16).toNat := fun same => nonzero (UInt16.toNat.inj same)
        have value : (48 : UInt16).toNat = 48 := rfl
        omega
      rw [List.foldl_cons, Nat.mul_zero, Nat.zero_add, ← unitsOfChars_digits all.2 positive,
        unitsOfChars_digit all.1]
      rfl

end Digits

namespace Key

/-- The key of a text is the key of no other text. -/
theorem units?_ofUnits (text : Units) : (ofUnits text).units? = some text := by
  unfold ofUnits
  split
  · rename_i n read
    split
    · exact congrArg some (units_of_decimal? read)
    · rfl
  · rfl

theorem ofUnits_injective : Function.Injective ofUnits := fun one other same =>
  Option.some.inj ((units?_ofUnits one).symm.trans ((congrArg units? same).trans (units?_ofUnits other)))

theorem ofString_injective : Function.Injective ofString :=
  ofUnits_injective.comp Text.units_injective

end Key

variable {store : Store} {id base : Nat} {object : Object} {key : Key} {value receiver : Value}
  {slot : Slot} {m : Machine} {fuel : Nat}

namespace Object

def isProxy (object : Object) : Bool :=
  match object.kind with
  | .proxy _ _ _ _ => true
  | _ => false

/-- What an object gives for a member: what it holds itself, or else what its base gives. -/
def given (m : Machine) (fuel : Nat) (object : Object) (key : Key) (receiver : Value) : Run Value :=
  match object.own? key with
  | some (.data value _ _ _) => return value
  | some (.accessor .undefined _ _ _) => return .undefined
  | some (.accessor getter _ _ _) => m.call getter receiver []
  | none =>
    match object.prototype with
    | some base => Member.getWithin m fuel base key receiver
    | none => return .undefined

end Object

/-- An object holds a member under a key. -/
def Holds (store : Store) (id : Nat) (key : Key) (slot : Slot) : Prop :=
  ∃ object, store.objects[id]? = some object ∧ object.isProxy = false ∧ object.own? key = some slot

/-- An object with some base holds no member under a key. -/
def Lacks (store : Store) (id : Nat) (key : Key) (base : Option Nat) : Prop :=
  ∃ object, store.objects[id]? = some object ∧ object.isProxy = false ∧ object.own? key = none ∧
    object.prototype = base

section Reading

theorem getWithin_direct (found : store.objects[id]? = some object)
    (direct : object.isProxy = false) : Member.getWithin m (fuel + 1) id key receiver store =
      object.given m fuel key receiver store := by
  rw [Member.getWithin, bind_ok (object_of_getElem? found)]
  unfold Object.isProxy at direct
  cases kind : object.kind with
  | proxy => rw [kind] at direct; cases direct
  | _ => rfl

variable {writable enumerable configurable : Bool}

theorem Holds.get (holds : Holds store id key (.data value writable enumerable configurable)) :
    Member.getWithin m (fuel + 1) id key receiver store = (.ok value, store) := by
  obtain ⟨object, found, direct, own⟩ := holds
  rw [getWithin_direct found direct, Object.given, own]
  rfl

theorem Lacks.get_base (lacks : Lacks store id key (some base)) :
    Member.getWithin m (fuel + 1) id key receiver store =
      Member.getWithin m fuel base key receiver store := by
  obtain ⟨object, found, direct, own, same⟩ := lacks
  rw [getWithin_direct found direct, Object.given, own, same]

theorem Lacks.get_none (lacks : Lacks store id key none) :
    Member.getWithin m (fuel + 1) id key receiver store = (.ok .undefined, store) := by
  obtain ⟨object, found, direct, own, same⟩ := lacks
  rw [getWithin_direct found direct, Object.given, own, same]
  rfl

theorem Lacks.prototype {last : Option Nat} (lacks : Lacks store id key last) :
    Member.prototype m id store = (.ok last, store) := by
  obtain ⟨object, found, direct, -, same⟩ := lacks
  change Member.prototypeWithin m (9999 + 1) id store = _
  rw [Member.prototypeWithin, bind_ok (object_of_getElem? found), ← same]
  unfold Object.isProxy at direct
  cases kind : object.kind with
  | proxy => rw [kind] at direct; cases direct
  | _ => rfl

theorem Holds.get_computed {getter : Nat} {setter : Value}
    (holds : Holds store id key (.accessor (.object getter) setter enumerable configurable)) :
    Member.getWithin m (fuel + 1) id key receiver store =
      m.call (.object getter) receiver [] store := by
  obtain ⟨object, found, direct, own⟩ := holds
  rw [getWithin_direct found direct, Object.given, own]

theorem Holds.has (holds : Holds store id key slot) :
    Member.hasWithin m (fuel + 1) id key store = (.ok true, store) := by
  obtain ⟨object, found, direct, own⟩ := holds
  rw [Member.hasWithin, bind_ok (object_of_getElem? found)]
  unfold Object.isProxy at direct
  cases kind : object.kind with
  | proxy => rw [kind] at direct; cases direct
  | _ => simp only [own, Option.isSome_some, if_true]; rfl

end Reading

section Writing

/-- What setting a member of an object does, by what the object holds. -/
def Object.accepts (m : Machine) (fuel id : Nat) (object : Object) (key : Key) (value receiver : Value) :
    Run Bool := do
  match object.own? key with
  | some (.accessor _ .undefined _ _) => return false
  | some (.accessor _ setter _ _) =>
    let _ ← m.call setter receiver [value]
    return true
  | some (.data _ writable _ _) =>
    if !writable then return false
    else if receiver == .object id then Member.defineOwn id key { value }
    else Member.setOwn m fuel key value receiver
  | none =>
    match object.prototype with
    | some base => Member.setWithin m fuel base key value receiver
    | none => Member.setOwn m fuel key value receiver

theorem setWithin_direct (found : store.objects[id]? = some object)
    (direct : object.isProxy = false) : Member.setWithin m (fuel + 1) id key value receiver store =
      object.accepts m fuel id key value receiver store := by
  rw [Member.setWithin, bind_ok (object_of_getElem? found)]
  unfold Object.isProxy at direct
  cases kind : object.kind with
  | proxy => rw [kind] at direct; cases direct
  | _ => rfl

theorem Lacks.set_base (lacks : Lacks store id key (some base)) :
    Member.setWithin m (fuel + 1) id key value receiver store =
      Member.setWithin m fuel base key value receiver store := by
  obtain ⟨object, found, direct, own, same⟩ := lacks
  rw [setWithin_direct found direct, Object.accepts, own, same]

theorem Lacks.set_none (lacks : Lacks store id key none) :
    Member.setWithin m (fuel + 1) id key value receiver store =
      Member.setOwn m fuel key value receiver store := by
  obtain ⟨object, found, direct, own, same⟩ := lacks
  rw [setWithin_direct found direct, Object.accepts, own, same]

theorem Holds.set {old : Value} {enumerable configurable : Bool}
    (holds : Holds store id key (.data old true enumerable configurable)) :
    Member.setWithin m (fuel + 1) id key value (.object id) store =
      Member.defineOwn id key { value := some value } store := by
  obtain ⟨object, found, direct, own⟩ := holds
  rw [setWithin_direct found direct, Object.accepts, own]
  change (if (Value.object id == Value.object id) = true then _ else _ : Run Bool) store = _
  rw [if_pos (beq_self_eq_true _)]

theorem defineWithin_direct (found : store.objects[id]? = some object)
    (direct : object.isProxy = false) (description : Description) :
    Member.defineWithin m (fuel + 1) id key description store =
      Member.defineOwn id key description store := by
  rw [Member.defineWithin, bind_ok (object_of_getElem? found)]
  unfold Object.isProxy at direct
  cases kind : object.kind with
  | proxy => rw [kind] at direct; cases direct
  | _ => rfl

/-- A new member of the receiver itself. -/
theorem Lacks.setOwn {last : Option Nat} (lacks : Lacks store id key last) :
    Member.setOwn m (fuel + 2) key value (.object id) store =
      Member.defineOwn id key (.ofSlot (.ordinary value)) store := by
  obtain ⟨object, found, direct, own, -⟩ := lacks
  have none : Member.ownWithin m (fuel + 1) id key store = (.ok none, store) := by
    rw [Member.ownWithin, bind_ok (object_of_getElem? found)]
    unfold Object.isProxy at direct
    cases kind : object.kind with
    | proxy => rw [kind] at direct; cases direct
    | _ => simp only [own]; rfl
  rw [Member.setOwn, bind_ok none]
  exact defineWithin_direct found direct _

theorem defineOwn_plain (found : store.objects[id]? = some object) (plain : object.kind = .plain)
    (description : Description) : Member.defineOwn id key description store =
      (.ok (object.define key description).2,
        store.withObject id (object.define key description).1) := by
  rw [Member.defineOwn, bind_ok (object_of_getElem? found), plain]
  exact exchange_of_getElem? found _

end Writing

section Records

/-- An object that is built by giving it members: which values it holds under which keys. -/
structure Object.IsRecord (object : Object) (fields : Key → Option Value) : Prop where
  keyed : object.Keyed
  extensible : object.extensible = true
  holds : ∀ key, object.slot? key = (fields key).map Slot.ordinary

variable {fields : Key → Option Value}

theorem Object.Keyed.isProxy (keyed : object.Keyed) : object.isProxy = false := by
  rw [Object.isProxy, keyed.plain]

namespace Object.IsRecord

theorem blank (base : Option Nat) : ({ prototype := base } : Object).IsRecord fun _ => none :=
  ⟨keyed_blank base, rfl, fun key => by
    refine Option.eq_none_iff_forall_ne_some.mpr fun slot found => ?_
    cases (keyed_blank base).slot?_eq_some_iff.mp found⟩

theorem own? (record : object.IsRecord fields) (key : Key) :
    object.own? key = (fields key).map Slot.ordinary :=
  (record.keyed.own? key).trans (record.holds key)

theorem put (record : object.IsRecord fields) (key : Key) (value : Value) :
    (object.put key (.ordinary value)).IsRecord (Function.update fields key (some value)) := by
  refine ⟨record.keyed.put _ _, ?_, fun k => ?_⟩
  · obtain ⟨items, slots, same⟩ := put_eq object key (.ordinary value)
    rw [same]
    exact record.extensible
  · rw [record.keyed.slot?_put, record.holds, Function.update_apply]
    split <;> rfl

/-- Giving a record a member puts it there. -/
theorem define (record : object.IsRecord fields) (key : Key) (value : Value) :
    object.define key (.ofSlot (.ordinary value)) = (object.put key (.ordinary value), true) := by
  rw [Object.define, record.own?]
  cases fields key with
  | none => simp only [Option.map_none, record.extensible, if_true]; rfl
  | some old => rfl

theorem redefine (record : object.IsRecord fields) {key : Key} {old : Value}
    (known : fields key = some old) (value : Value) :
    object.define key { value := some value } = (object.put key (.ordinary value), true) := by
  rw [Object.define, record.own?, known]
  rfl

end Object.IsRecord

theorem create_record (found : store.objects[id]? = some object) (record : object.IsRecord fields)
    (key : Key) (value : Value) : Member.create m id key value store =
      (.ok (), store.withObject id (object.put key (.ordinary value))) := by
  have defined : Member.define m id key (.ofSlot (.ordinary value)) store =
      (.ok true, store.withObject id (object.put key (.ordinary value))) := by
    change Member.defineWithin m (9999 + 1) id key _ store = _
    rw [defineWithin_direct found record.keyed.isProxy, defineOwn_plain found record.keyed.plain,
      record.define]
  rw [Member.create, Member.defineOrFail, bind_ok defined]
  rfl

end Records

section Fields

variable {members more : List (String × Value)} {fields : Key → Option Value} {name : String}

theorem Object.prototype_put (object : Object) (key : Key) (slot : Slot) :
    (object.put key slot).prototype = object.prototype := by
  obtain ⟨items, slots, same⟩ := put_eq object key slot
  rw [same]

/-- An object after members were put into it. -/
def putMembers (object : Object) (members : List (String × Value)) : Object :=
  members.foldl (fun object (name, value) => object.put (.ofString name) (.ordinary value)) object

/-- What an object holds after members were put into it. -/
def withMembers (fields : Key → Option Value) (members : List (String × Value)) :
    Key → Option Value :=
  members.foldl (fun fields (name, value) => Function.update fields (.ofString name) (some value)) fields

theorem Object.IsRecord.putMembers (record : object.IsRecord fields)
    (members : List (String × Value)) :
    (putMembers object members).IsRecord (withMembers fields members) := by
  induction members generalizing object fields with
  | nil => exact record
  | cons member rest ih => exact ih (record.put _ _)

theorem prototype_putMembers (object : Object) (members : List (String × Value)) :
    (putMembers object members).prototype = object.prototype := by
  induction members generalizing object with
  | nil => rfl
  | cons member rest ih => exact (ih _).trans (object.prototype_put _ _)

theorem withMembers_append : withMembers fields (members ++ more) =
    withMembers (withMembers fields members) more :=
  List.foldl_append

theorem withMembers_of_notMem (free : name ∉ members.map Prod.fst) :
    withMembers fields members (.ofString name) = fields (.ofString name) := by
  induction members generalizing fields with
  | nil => rfl
  | cons member rest ih =>
    obtain ⟨other, others⟩ := not_or.mp (mt List.mem_cons.mpr free)
    have apart : Key.ofString name ≠ Key.ofString member.1 :=
      fun same => other (Key.ofString_injective same)
    exact (ih others).trans (Function.update_of_ne apart _ _)

/-- Of the members of one name the last one is held. -/
theorem withMembers_of_mem (fields : Key → Option Value) (known : name ∈ members.map Prod.fst) :
    ∃ value, (name, value) ∈ members ∧ withMembers fields members (.ofString name) = some value := by
  induction members generalizing fields with
  | nil => cases known
  | cons member rest ih =>
    by_cases later : name ∈ rest.map Prod.fst
    · obtain ⟨value, own, held⟩ := ih
        (Function.update fields (.ofString member.1) (some member.2)) later
      exact ⟨value, List.mem_cons_of_mem _ own, held⟩
    · obtain rfl | inside := List.mem_cons.mp known
      · exact ⟨member.2, List.mem_cons_self,
          (withMembers_of_notMem later).trans (Function.update_self _ _ _)⟩
      · exact absurd inside later

/-- Whatever is held by an object that was empty is among what was put there. -/
theorem mem_of_withMembers {key : Key} {value : Value}
    (held : withMembers (fun _ => none) members key = some value) :
    ∃ name, key = .ofString name ∧ (name, value) ∈ members := by
  by_cases known : ∃ name ∈ members.map Prod.fst, key = .ofString name
  · obtain ⟨name, inside, rfl⟩ := known
    obtain ⟨own, member, same⟩ := withMembers_of_mem (fun _ => none) inside
    cases held.symm.trans same
    exact ⟨name, rfl, member⟩
  · have untouched (fields : Key → Option Value) (members : List (String × Value))
        (free : ∀ name ∈ members.map Prod.fst, key ≠ .ofString name) :
        withMembers fields members key = fields key := by
      induction members generalizing fields with
      | nil => rfl
      | cons member rest ih =>
        obtain ⟨other, others⟩ := List.forall_mem_cons.mp free
        exact (ih _ others).trans (Function.update_of_ne other _ _)
    rw [untouched _ _ fun name inside same => known ⟨name, inside, same⟩] at held
    cases held

end Fields

end FootprintTemplate.Script
