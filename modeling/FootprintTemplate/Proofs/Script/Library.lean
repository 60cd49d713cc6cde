import FootprintTemplate.Proofs.Script.Provided

/-! What the library gives to the store in which scripts start. Its families come one after another:
each writes members into objects that are there, and makes further objects. What a family writes is
read off its lists, and a member that no later family writes stays as it is. -/
namespace FootprintTemplate.Script

open Library
open Text (Units units)

variable {store middle after : Store} {id : Nat} {key : Key} {slot : Slot} {value : Value}

/-- A place in a list, as a key. -/
def Key.isPlace : Key → Bool
  | .index _ => true
  | _ => false

theorem Key.ne_index (named : key.isPlace = false) (i : Nat) : key ≠ .index i := by
  rintro rfl
  cases named

section Objects

/-- One object has become another, in which some members may have been written. -/
structure Object.ChangesOnly (own now : Object) (written : Key → Prop) : Prop where
  kind : now.kind = own.kind
  prototype : now.prototype = own.prototype
  extensible : now.extensible = own.extensible
  items : (∀ i, ¬ written (.index i)) → now.items = own.items
  slot? : ∀ key : Key, key.isPlace = false → ¬ written key → now.slot? key = own.slot? key

theorem find?_set {entries : List (Key × Slot)} {place : Nat}
    (found : entries.findIdx? (·.1 == key) = some place) (slot : Slot) (k : Key) :
    ((entries.set place (key, slot)).find? (·.1 == k)).map (·.2) =
      if k = key then some slot else (entries.find? (·.1 == k)).map (·.2) := by
  induction entries generalizing place with
  | nil => cases found
  | cons entry rest ih =>
    rw [List.findIdx?_cons] at found
    split at found
    · rename_i here
      obtain rfl := Option.some.inj found
      rw [List.set_cons_zero, List.find?_cons, List.find?_cons, eq_of_beq here]
      by_cases same : k = key
      · simp [same]
      · rw [beq_eq_false_iff_ne.mpr (Ne.symm same), if_neg same]
    · rename_i apart
      obtain ⟨place, further, rfl⟩ := Option.map_eq_some_iff.mp found
      rw [List.set_cons_succ, List.find?_cons, List.find?_cons]
      by_cases first : entry.1 = k
      · subst first
        simp only [beq_self_eq_true, Option.map_some]
        rw [if_neg (by simpa using apart)]
      · rw [beq_eq_false_iff_ne.mpr first]
        exact ih further

namespace Object

variable {object own now : Object} {k : Key} {written : Key → Prop}

theorem slot?_eq_find? (named : key.isPlace = false) :
    object.slot? key = (object.slots.toList.find? (·.1 == key)).map (·.2) := by
  rw [slot?_other (Key.ne_index named), slotPlace?, List.find?_eq_bind_findIdx?_getElem?,
    ← List.findIdx?_toArray, Option.map_bind]
  simp only [Array.getElem?_toList, Array.toArray_toList]
  rfl

/-- A member with a name is what was put there last. -/
theorem slot?_put (named : k.isPlace = false) (object : Object) (key : Key) (slot : Slot) :
    (object.put key slot).slot? k = if k = key then some slot else object.slot? k := by
  by_cases place : key.isPlace = true
  · have apart : k ≠ key := by
      rintro rfl
      rw [named] at place
      cases place
    rw [if_neg apart, slot?_eq_find? named, slot?_eq_find? named]
    cases key with
    | index i => unfold put; dsimp only; split <;> rfl
    | text | symbol | secret => cases place
  · rw [slot?_eq_find? named, slot?_eq_find? named,
      put_other (Key.ne_index (eq_false_of_ne_true place))]
    cases found : object.slotPlace? key with
    | none =>
      have free : object.slots.toList.find? (·.1 == key) = none := by
        rw [List.find?_eq_bind_findIdx?_getElem?, ← List.findIdx?_toArray]
        exact congrArg (Option.bind · _) found
      dsimp only
      rw [Array.toList_push, List.find?_append, List.find?_cons, List.find?_nil]
      by_cases same : k = key
      · subst same
        rw [free, if_pos rfl, beq_self_eq_true]
        rfl
      · rw [if_neg same, beq_eq_false_iff_ne.mpr (Ne.symm same), Option.or_none]
    | some place => 
      dsimp only
      rw [Array.toList_setIfInBounds]
      exact find?_set (by rw [← List.findIdx?_toArray]; exact found) slot k

theorem own?_eq (kind : now.kind = own.kind) (named : key.isPlace = false)
    (same : now.slot? key = own.slot? key) : now.own? key = own.own? key := by
  have length : now.length? = own.length? := by rw [length?, length?, kind]
  rw [own?, own?, length]
  · split
    · exact same
    · split
      · rfl
      · exact same
  all_goals exact fun _ i _ place => Key.ne_index named i place

theorem changesOnly_put (object : Object) (id : Nat) (key : Key) (slot : Slot) :
    object.ChangesOnly (object.put key slot) fun k => id = id ∧ k = key := by
  obtain ⟨items, slots, same⟩ := put_eq object key slot
  refine ⟨by rw [same], by rw [same], by rw [same], fun free => ?_, fun k named apart => ?_⟩
  · rw [put_other fun i own => free i ⟨rfl, own.symm⟩]
    split <;> rfl
  · rw [slot?_put named, if_neg fun own => apart ⟨rfl, own⟩]

end Object

end Objects

section Stores

/-- Members were written and objects made; nothing else has changed. -/
structure Store.ChangesOnly (before after : Store) (written : Nat → Key → Prop) : Prop where
  objects : ∀ (id : Nat) (own : Object), before.objects[id]? = some own →
    ∃ now, after.objects[id]? = some now ∧ own.ChangesOnly now (written id)
  scopes : after.scopes = before.scopes
  depth : after.depth = before.depth
  joining : after.joining = before.joining

variable {before : Store} {written further all : Nat → Key → Prop}

namespace Store.ChangesOnly

theorem refl (store : Store) : store.ChangesOnly store written :=
  ⟨fun _ own found => ⟨own, found, rfl, rfl, rfl, fun _ => rfl, fun _ _ _ => rfl⟩, rfl, rfl, rfl⟩

theorem size_le (changes : before.ChangesOnly after written) :
    before.objects.size ≤ after.objects.size := by
  refine Nat.le_of_not_lt fun less => ?_
  obtain ⟨now, found, -⟩ := changes.objects _ _ (Array.getElem?_eq_getElem less)
  exact Nat.lt_irrefl _ (Array.getElem?_eq_some_iff.mp found).1

/-- What is written into an object that was not there before does not count. -/
theorem mono (changes : before.ChangesOnly after written)
    (within : ∀ id key, id < before.objects.size → written id key → all id key) :
    before.ChangesOnly after all := by
  refine ⟨fun id own found => ?_, changes.scopes, changes.depth, changes.joining⟩
  obtain ⟨now, there, same⟩ := changes.objects id own found
  have inside := (Array.getElem?_eq_some_iff.mp found).1
  exact ⟨now, there, same.kind, same.prototype, same.extensible,
    fun free => same.items fun i own => free i (within id _ inside own),
    fun key named free => same.slot? key named fun own => free (within id key inside own)⟩

theorem trans (first : before.ChangesOnly middle written)
    (second : middle.ChangesOnly after written) : before.ChangesOnly after written := by
  refine ⟨fun id own found => ?_, second.scopes.trans first.scopes, second.depth.trans first.depth,
    second.joining.trans first.joining⟩
  obtain ⟨half, there, one⟩ := first.objects id own found
  obtain ⟨now, there, two⟩ := second.objects id half there
  exact ⟨now, there, two.kind.trans one.kind, two.prototype.trans one.prototype,
    two.extensible.trans one.extensible, fun free => (two.items free).trans (one.items free),
    fun key named free => (two.slot? key named free).trans (one.slot? key named free)⟩

theorem withObject {object now : Object} (found : store.objects[id]? = some object)
    (changes : object.ChangesOnly now (written id)) :
    store.ChangesOnly (store.withObject id now) written := by
  refine ⟨fun i own known => ?_, rfl, rfl, rfl⟩
  change ∃ now', (store.objects.setIfInBounds id now)[i]? = some now' ∧ _
  rw [Array.getElem?_setIfInBounds]
  split
  · rename_i same
    subst same
    obtain rfl := Option.some.inj (found.symm.trans known)
    exact ⟨now, if_pos (Array.getElem?_eq_some_iff.mp found).1, changes⟩
  · exact ⟨own, known, rfl, rfl, rfl, fun _ => rfl, fun _ _ _ => rfl⟩

theorem pushObject (store : Store) (object : Object) :
    store.ChangesOnly (store.pushObject object) written :=
  ⟨fun _ own found => ⟨own, getElem?_push_of_some found object, rfl, rfl, rfl, fun _ => rfl,
    fun _ _ _ => rfl⟩, rfl, rfl, rfl⟩

end Store.ChangesOnly

/-- An object has a slot of its own under a key. -/
def HasSlot (store : Store) (id : Nat) (key : Key) (slot : Slot) : Prop :=
  ∃ object, store.objects[id]? = some object ∧ object.slot? key = some slot

theorem HasSlot.frame (has : HasSlot before id key slot) (changes : before.ChangesOnly after written)
    (named : key.isPlace = false) (free : ¬ written id key) : HasSlot after id key slot := by
  obtain ⟨own, found, held⟩ := has
  obtain ⟨now, there, same⟩ := changes.objects id own found
  exact ⟨now, there, (same.slot? key named free).trans held⟩

theorem Holds.frame (holds : Holds before id key slot) (changes : before.ChangesOnly after written)
    (named : key.isPlace = false) (free : ¬ written id key) : Holds after id key slot := by
  obtain ⟨own, found, direct, held⟩ := holds
  obtain ⟨now, there, same⟩ := changes.objects id own found
  refine ⟨now, there, ?_, ?_⟩
  · rw [Object.isProxy, same.kind]
    exact direct
  · rw [Object.own?_eq same.kind named (same.slot? key named free), held]

theorem Lacks.frame {base : Option Nat} (lacks : Lacks before id key base)
    (changes : before.ChangesOnly after written) (named : key.isPlace = false)
    (free : ¬ written id key) : Lacks after id key base := by
  obtain ⟨own, found, direct, held, last⟩ := lacks
  obtain ⟨now, there, same⟩ := changes.objects id own found
  refine ⟨now, there, ?_, ?_, same.prototype.trans last⟩
  · rw [Object.isProxy, same.kind]
    exact direct
  · rw [Object.own?_eq same.kind named (same.slot? key named free), held]

theorem HasValue.frame (has : HasValue before id key value)
    (changes : before.ChangesOnly after written) (named : key.isPlace = false)
    (free : ¬ written id key) : HasValue after id key value := by
  obtain ⟨writable, enumerable, configurable, holds⟩ := has
  exact ⟨writable, enumerable, configurable, holds.frame changes named free⟩

theorem IsNative.frame {home name : String} {post : Post} (native : IsNative before id home post name)
    (changes : before.ChangesOnly after written) : IsNative after id home post name := by
  obtain ⟨own, found, kind⟩ := native
  obtain ⟨now, there, same⟩ := changes.objects id own found
  exact ⟨now, there, same.kind.trans kind⟩

theorem Provides.frame {member home name : String} {post : Post}
    (provides : Provides before id member home post name)
    (changes : before.ChangesOnly after written) (named : (Key.ofString member).isPlace = false)
    (free : ¬ written id (.ofString member)) : Provides after id member home post name := by
  obtain ⟨routine, has, native⟩ := provides
  exact ⟨routine, has.frame changes named free, native.frame changes⟩

theorem IsBase.frame {kind : Kind} {base : Option Nat} (own : IsBase before id kind base)
    (changes : before.ChangesOnly after written) (free : ∀ i, ¬ written id (.index i)) :
    IsBase after id kind base := by
  obtain ⟨own, found, shape, last, empty⟩ := own
  obtain ⟨now, there, same⟩ := changes.objects id own found
  exact ⟨now, there, same.kind.trans shape, same.prototype.trans last, (same.items free).trans empty⟩

theorem IsBare.frame {owner parent : Option Nat} (bare : IsBare before id owner parent)
    (changes : before.ChangesOnly after written) : IsBare after id owner parent := by
  obtain ⟨scope, found, rest⟩ := bare
  exact ⟨scope, by rw [changes.scopes, found], rest⟩

end Stores

section Runs

variable {α β : Type} {written : Nat → Key → Prop} {run : Run α} {next : α → Run β}

/-- A run that ends normally, changes no more than the members that it may write, and leaves what is
wanted. -/
def Writes (run : Run α) (store : Store) (written : Nat → Key → Prop)
    (leaves : α → Store → Prop) : Prop :=
  ∃ value after, run store = (.ok value, after) ∧ store.ChangesOnly after written ∧ leaves value after

theorem Writes.bind {half : α → Store → Prop} {leaves : β → Store → Prop}
    (one : Writes run store written half)
    (two : ∀ value middle, store.ChangesOnly middle written → half value middle →
      Writes (next value) middle written leaves) : Writes (run >>= next) store written leaves := by
  obtain ⟨value, middle, ran, first, reached⟩ := one
  obtain ⟨result, after, ended, second, left⟩ := two value middle first reached
  exact ⟨result, after, (bind_ok ran).trans ended, first.trans second, left⟩

theorem Writes.mono {all : Nat → Key → Prop} {leaves more : α → Store → Prop}
    (writes : Writes run store written leaves)
    (within : ∀ id key, id < store.objects.size → written id key → all id key)
    (more_of : ∀ value after, store.ChangesOnly after written → leaves value after → more value after) :
    Writes run store all more := by
  obtain ⟨value, after, ran, changes, left⟩ := writes
  exact ⟨value, after, ran, changes.mono within, more_of value after changes left⟩

theorem writes_pure {leaves : α → Store → Prop} {value : α} (left : leaves value store) :
    Writes (pure value) store written leaves :=
  ⟨value, store, rfl, .refl store, left⟩

theorem writes_read {value : α} (ran : run store = (.ok value, store)) :
    Writes run store written fun own after => own = value ∧ after = store :=
  ⟨value, store, ran, .refl store, rfl, rfl⟩

theorem writes_update (written : Nat → Key → Prop) (id : Nat) (change : Object → Object) (store : Store)
    (changes : ∀ object : Object, object.ChangesOnly (change object) (written id)) :
    Writes (Run.update id change) store written fun _ after =>
      ∀ object, store.objects[id]? = some object → after.objects[id]? = some (change object) := by
  refine ⟨(), { store with objects := store.objects.modify id change }, rfl,
    ⟨fun i own found => ?_, rfl, rfl, rfl⟩, fun object found => ?_⟩
  · by_cases same : id = i
    · subst same
      exact ⟨change own, by rw [Array.getElem?_modify, if_pos rfl, found]; rfl, changes own⟩
    · exact ⟨own, by rw [Array.getElem?_modify, if_neg same, found], rfl, rfl, rfl, fun _ => rfl,
        fun _ _ _ => rfl⟩
  · rw [Array.getElem?_modify, if_pos rfl, found]
    rfl

theorem writes_put (id : Nat) (key : Key) (slot : Object → Slot) (store : Store) :
    Writes (Run.update id fun object => object.put key (slot object)) store (fun i k => i = id ∧ k = key)
      fun _ after => id < store.objects.size → key.isPlace = false →
        ∃ object, HasSlot after id key (slot object) := by
  refine (writes_update (fun i k => i = id ∧ k = key) id _ store fun object => ?_).mono
    (fun _ _ _ own => own) fun _ after _ left there named => ?_
  · exact object.changesOnly_put id key (slot object)
  · exact ⟨_, _, left _ (Array.getElem?_eq_getElem there), by rw [Object.slot?_put named, if_pos rfl]⟩

theorem writes_native (home : String) (post : Post) (native : Native) (store : Store) :
    Writes (makeNative home post native) store written fun routine after =>
      store.objects.size ≤ routine ∧ IsNative after routine home post native.name :=
  ⟨_, _, allocate_eq _ store, .pushObject store _, Nat.le_refl _, _, Array.getElem?_push_size, rfl⟩

/-- A loop writes what its turns write. Of the turns that are wanted, the last leaves what it gives. -/
theorem writes_loop (items : List α) {body : α → Run (ForInStep PUnit)}
    {written : α → Nat → Key → Prop} (least : Nat) (wanted : α → Prop) (gives : α → Store → Prop)
    (each : ∀ item ∈ items, ∀ store : Store, least ≤ store.objects.size →
      Writes (body item) store (written item) fun turn after =>
        turn = .yield () ∧ (wanted item → gives item after))
    (kept : ∀ item (before after : Store), gives item before →
      before.ChangesOnly after (fun id key => ∃ other ∈ items, ¬ wanted other ∧ written other id key) →
      gives item after) :
    ∀ store : Store, least ≤ store.objects.size →
      Writes (forIn items PUnit.unit fun item _ => body item) store
        (fun id key => ∃ item ∈ items, written item id key)
        fun _ after => (∃ item ∈ items, wanted item) → ∃ item ∈ items, wanted item ∧ gives item after := by
  induction items with
  | nil => exact fun store _ => writes_pure fun ⟨_, member, _⟩ => absurd member List.not_mem_nil
  | cons item rest ih =>
    intro store enough
    obtain ⟨_, middle, ran, first, rfl, given⟩ := each item List.mem_cons_self store enough
    have rest_kept : ∀ own (before after : Store), gives own before → before.ChangesOnly after
        (fun id key => ∃ other ∈ rest, ¬ wanted other ∧ written other id key) → gives own after :=
      fun own before after held changes => kept own before after held (changes.mono
        fun _ _ _ ⟨other, member, own⟩ => ⟨other, List.mem_cons_of_mem _ member, own⟩)
    obtain ⟨_, after, ended, second, left⟩ := ih
      (fun own member => each own (List.mem_cons_of_mem _ member)) rest_kept middle
      (Nat.le_trans enough first.size_le)
    refine ⟨(), after, ?_, ?_, fun ⟨own, member, is⟩ => ?_⟩
    · rw [List.forIn_cons]
      exact (bind_ok ran).trans ended
    · exact (first.mono fun _ _ _ own => ⟨item, List.mem_cons_self, own⟩).trans
        (second.mono fun _ _ _ ⟨own, member, puts⟩ => ⟨own, List.mem_cons_of_mem _ member, puts⟩)
    · by_cases later : ∃ own ∈ rest, wanted own
      · obtain ⟨own, member, is, held⟩ := left later
        exact ⟨own, List.mem_cons_of_mem _ member, is, held⟩
      · have here : wanted item := by
          obtain rfl | member := List.mem_cons.mp member
          · exact is
          · exact absurd ⟨own, member, is⟩ later
        refine ⟨item, List.mem_cons_self, here, kept item middle after (given here) (second.mono ?_)⟩
        exact fun _ _ _ ⟨own, member, puts⟩ =>
          ⟨own, List.mem_cons_of_mem _ member, fun is => later ⟨own, member, is⟩, puts⟩

/-- A loop writes what its turns write. -/
theorem writes_turns (items : List α) {body : α → Run (ForInStep PUnit)}
    (written : α → Nat → Key → Prop) (each : ∀ item, ∀ store : Store,
      Writes (body item) store (written item) fun turn _ => turn = .yield ()) (store : Store) :
    Writes (forIn items PUnit.unit fun item _ => body item) store
      (fun id key => ∃ item ∈ items, written item id key) fun _ _ => True :=
  (writes_loop items 0 (fun _ => False) (fun _ _ => True) (fun item _ before _ => (each item before).mono
    (fun _ _ _ own => own) fun _ _ _ turn => ⟨turn, nofun⟩) (fun _ _ _ _ _ => trivial) store
      (Nat.zero_le _)).mono (fun _ _ _ own => own) fun _ _ _ _ => trivial

end Runs

section Families

/-- A family has a member in an object whose key passes a test. -/
def Family.writes (family : Family) (owner : Option Nat) (id : Nat) (test : Key → Bool) : Bool :=
  let tagged := family.tag.isSome && test Sign.toStringTag.key
  owner == some id && (family.constants.any (test <| keyOf ·.1) ||
      family.own.any (test <| keyOf ·.name) || tagged) ||
    family.base.any (·.id == id) && (test (.ofString "constructor") ||
      family.shared.any (test <| keyOf ·.name) || family.computed.any (test <| keyOf ·.name) ||
      family.sharedConstants.any (test <| keyOf ·.1) || tagged) ||
    id == Origin.global.id && family.isGlobal && test (.ofString family.name)

/-- What a family gives to its base, or the text for its kind if it has none. -/
def Family.addShared (family : Family) (owner : Nat) : Run Unit :=
  match family.base with
  | none => addTag owner family.tag
  | some base => do
    addMethods base.id family.name .shared family.shared
    addComputed base.id family.name family.computed
    addConstants base.id true family.sharedConstants
    addTag base.id family.tag

def Family.addName (family : Family) (owner : Nat) : Run Unit :=
  if family.isGlobal then
    Run.update Origin.global.id fun object =>
      object.put (.ofString family.name) (.hidden (.object owner))
  else pure ()

/-- What a family writes once there is the object that makes its objects. -/
def Family.addMembers (family : Family) (owner : Nat) : Run Unit := do
  addConstants owner false family.constants
  addMethods owner family.name .own family.own
  family.addShared owner
  family.addName owner

theorem addFamily_eq (family : Family) :
    addFamily family = addOwner family >>= family.addMembers := by
  unfold addFamily Family.addMembers Family.addShared Family.addName
  cases family.base <;> simp only [bind_assoc]

/-- A loop that puts one member after another into an object: of the members under a key the last
stays. -/
theorem writes_members {α : Type} {items : List α} {body : α → Run (ForInStep PUnit)} {name : α → Key}
    (suits : α → Slot → Store → Prop)
    (each : ∀ item, ∀ store : Store, Writes (body item) store (fun i k => i = id ∧ k = name item)
      fun turn after => turn = .yield () ∧ (id < store.objects.size → (name item).isPlace = false →
        ∃ slot, suits item slot after ∧ HasSlot after id (name item) slot))
    (kept : ∀ item slot (before after : Store) (written : Nat → Key → Prop), suits item slot before →
      before.ChangesOnly after written → suits item slot after)
    (named : key.isPlace = false) (store : Store) :
    Writes (forIn items PUnit.unit fun item _ => body item) store
      (fun i k => i = id ∧ ∃ item ∈ items, name item = k)
      fun _ after => id < store.objects.size → (∃ item ∈ items, name item = key) →
        ∃ item ∈ items, name item = key ∧ ∃ slot, suits item slot after ∧ HasSlot after id key slot := by
  have loop := writes_loop items store.objects.size (fun item => name item = key)
    (fun item after => id < store.objects.size →
      ∃ slot, suits item slot after ∧ HasSlot after id key slot)
    (fun item _ before enough => (each item before).mono (fun _ _ _ own => own)
      fun _ _ _ left => ⟨left.1, fun same there => by
        rw [← same]
        exact left.2 (Nat.lt_of_lt_of_le there enough) (same ▸ named)⟩)
    (fun item before after held changes there => by
      obtain ⟨slot, fits, has⟩ := held there
      exact ⟨slot, kept item slot before after _ fits changes,
        has.frame changes named fun ⟨other, _, apart, _, same⟩ => apart same.symm⟩)
    store (Nat.le_refl _)
  refine loop.mono (fun i k _ ⟨item, member, same, put⟩ => ⟨same, item, member, put.symm⟩)
    fun _ after _ left there any => ?_
  obtain ⟨item, member, is, held⟩ := left any
  exact ⟨item, member, is, held there⟩

theorem writes_constants (id : Nat) (writable : Bool) (constants : List (String × Value))
    (named : key.isPlace = false) (store : Store) :
    Writes (addConstants id writable constants) store
      (fun i k => i = id ∧ ∃ constant ∈ constants, keyOf constant.1 = k)
      fun _ after => id < store.objects.size → (∃ constant ∈ constants, keyOf constant.1 = key) →
        ∃ constant ∈ constants, keyOf constant.1 = key ∧ ∃ slot,
          slot = .data constant.2 writable false writable ∧ HasSlot after id key slot := by
  refine (writes_members
    (fun (constant : String × Value) slot _ => slot = .data constant.2 writable false writable)
    (fun constant store => ?_) (fun _ _ _ _ _ same _ => same) named store).bind
      fun _ _ _ left => writes_pure left
  refine (writes_put id (keyOf constant.1) _ store).bind fun _ middle _ left => writes_pure ⟨rfl, ?_⟩
  intro there named
  obtain ⟨_, has⟩ := left there named
  exact ⟨_, rfl, has⟩

theorem writes_methods (id : Nat) (home : String) (post : Post) (natives : List Native)
    (named : key.isPlace = false) (store : Store) :
    Writes (addMethods id home post natives) store
      (fun i k => i = id ∧ ∃ native ∈ natives, keyOf native.name = k)
      fun _ after => id < store.objects.size → (∃ native ∈ natives, keyOf native.name = key) →
        ∃ native ∈ natives, keyOf native.name = key ∧ ∃ slot,
          (∃ routine, slot = .hidden (.object routine) ∧ IsNative after routine home post native.name) ∧
            HasSlot after id key slot := by
  refine (writes_members (fun native slot after => ∃ routine,
      slot = .hidden (.object routine) ∧ IsNative after routine home post native.name)
    (fun native store => ?_) (fun _ _ _ _ _ ⟨routine, same, own⟩ changes =>
      ⟨routine, same, own.frame changes⟩) named store).bind fun _ _ _ left => writes_pure left
  refine (writes_native home post native store).bind fun routine middle first made => ?_
  refine (writes_put id (keyOf native.name) _ middle).bind fun _ after second left =>
    writes_pure ⟨rfl, ?_⟩
  intro there named
  obtain ⟨_, has⟩ := left (Nat.lt_of_lt_of_le there first.size_le) named
  exact ⟨_, ⟨routine, rfl, made.2.frame second⟩, has⟩

theorem writes_computed (id : Nat) (home : String) (natives : List Native) (store : Store) :
    Writes (addComputed id home natives) store
      (fun i k => i = id ∧ ∃ native ∈ natives, keyOf native.name = k) fun _ _ => True := by
  unfold addComputed
  refine ((writes_turns natives (fun native i k => i = id ∧ k = keyOf native.name)
    (fun native store => ?_) store).mono
    (fun i k _ ⟨native, member, same, put⟩ => ⟨same, native, member, put.symm⟩)
      fun _ _ _ _ => trivial).bind fun _ _ _ _ => writes_pure trivial
  refine (writes_native home .shared native store).bind fun routine middle _ _ => ?_
  exact (writes_put id (keyOf native.name) _ middle).bind fun _ _ _ _ => writes_pure rfl

theorem writes_tag (id : Nat) (tag : Option String) (store : Store) :
    Writes (addTag id tag) store (fun i k => i = id ∧ tag.isSome ∧ k = Sign.toStringTag.key)
      fun _ _ => True := by
  cases tag with
  | none => exact writes_pure trivial
  | some tag =>
    exact (writes_put id _ _ store).mono (fun _ _ _ own => ⟨own.1, rfl, own.2⟩) fun _ _ _ _ => trivial

variable {family : Family} {owner : Nat}

theorem Family.writes_own {test : Key → Bool} (own : (∃ constant ∈ family.constants,
    test (keyOf constant.1)) ∨ (∃ native ∈ family.own, test (keyOf native.name)) ∨
      family.tag.isSome ∧ test Sign.toStringTag.key) : family.writes (some owner) owner test = true := by
  simp only [Family.writes, Bool.or_eq_true, Bool.and_eq_true, List.any_eq_true, beq_self_eq_true,
    true_and]
  exact .inl (.inl ((or_assoc.mpr own)))

theorem Family.writes_base {base : Origin} {owner : Option Nat} {test : Key → Bool}
    (based : family.base = some base) (own : test (.ofString "constructor") ∨
      (∃ native ∈ family.shared, test (keyOf native.name)) ∨
      (∃ native ∈ family.computed, test (keyOf native.name)) ∨
      (∃ constant ∈ family.sharedConstants, test (keyOf constant.1)) ∨
      family.tag.isSome ∧ test Sign.toStringTag.key) : family.writes owner base.id test = true := by
  simp only [Family.writes, Bool.or_eq_true, Bool.and_eq_true, List.any_eq_true, based, Option.any_some,
    beq_self_eq_true, true_and]
  exact .inl (.inr (by simpa only [or_assoc] using own))

/-- What a family leaves in its base under a name: the last routine, or the last constant. -/
structure Family.Shares (family : Family) (base : Origin) (key : Key) (after : Store) : Prop where
  routine : (∃ native ∈ family.shared, keyOf native.name = key) →
    (∀ native ∈ family.computed, keyOf native.name ≠ key) →
    (∀ constant ∈ family.sharedConstants, keyOf constant.1 ≠ key) → key ≠ Sign.toStringTag.key →
    ∃ native ∈ family.shared, keyOf native.name = key ∧ ∃ routine,
      IsNative after routine family.name .shared native.name ∧
        HasSlot after base.id key (.hidden (.object routine))
  constant : (∃ constant ∈ family.sharedConstants, keyOf constant.1 = key) →
    key ≠ Sign.toStringTag.key → ∃ constant ∈ family.sharedConstants, keyOf constant.1 = key ∧
      HasSlot after base.id key (.data constant.2 true false true)

theorem Family.Shares.frame {base : Origin} {written : Nat → Key → Prop}
    (shares : family.Shares base key store) (changes : store.ChangesOnly after written)
    (named : key.isPlace = false) (free : ¬ written base.id key) : family.Shares base key after where
  routine any computed constants tag := by
    obtain ⟨native, member, same, routine, own, has⟩ := shares.routine any computed constants tag
    exact ⟨native, member, same, routine, own.frame changes, has.frame changes named free⟩
  constant any tag := by
    obtain ⟨constant, member, same, has⟩ := shares.constant any tag
    exact ⟨constant, member, same, has.frame changes named free⟩

theorem writes_shared {base : Origin} (based : family.base = some base) (named : key.isPlace = false)
    (store : Store) : Writes (family.addShared owner) store
      (fun i k => family.writes (some owner) i (· == k) = true)
      fun _ after => base.id < store.objects.size → family.Shares base key after := by
  unfold Family.addShared
  rw [based]
  obtain ⟨_, s1, ran1, one, routines⟩ :=
    writes_methods base.id family.name .shared family.shared named store
  obtain ⟨_, s2, ran2, two, -⟩ := writes_computed base.id family.name family.computed s1
  obtain ⟨_, s3, ran3, three, constants⟩ := writes_constants base.id true family.sharedConstants named s2
  obtain ⟨_, s4, ran4, four, -⟩ := writes_tag base.id family.tag s3
  refine ⟨(), s4, (bind_ok ran1).trans ((bind_ok ran2).trans ((bind_ok ran3).trans ran4)), ?_,
    fun there => ⟨fun any computed fixed tag => ?_, fun any tag => ?_⟩⟩
  · refine ((one.mono ?_).trans (two.mono ?_)).trans ((three.mono ?_).trans (four.mono ?_))
    · exact fun i k _ ⟨same, native, member, own⟩ => same ▸ Family.writes_base based
        (.inr (.inl ⟨native, member, beq_iff_eq.mpr own⟩))
    · exact fun i k _ ⟨same, native, member, own⟩ => same ▸ Family.writes_base based
        (.inr (.inr (.inl ⟨native, member, beq_iff_eq.mpr own⟩)))
    · exact fun i k _ ⟨same, constant, member, own⟩ => same ▸ Family.writes_base based
        (.inr (.inr (.inr (.inl ⟨constant, member, beq_iff_eq.mpr own⟩))))
    · exact fun i k _ ⟨same, tagged, own⟩ => same ▸ Family.writes_base based
        (.inr (.inr (.inr (.inr ⟨tagged, beq_iff_eq.mpr own.symm⟩))))
  · obtain ⟨native, member, own, slot, ⟨routine, rfl, made⟩, has⟩ := routines there any
    refine ⟨native, member, own, routine, ((made.frame two).frame three).frame four, ?_⟩
    refine ((has.frame two named ?_).frame three named ?_).frame four named ?_
    · exact fun ⟨_, native, member, own⟩ => computed native member own
    · exact fun ⟨_, constant, member, own⟩ => fixed constant member own
    · exact fun ⟨_, _, same⟩ => tag same
  · obtain ⟨constant, member, own, slot, rfl, has⟩ := constants
      (Nat.lt_of_lt_of_le there (Nat.le_trans one.size_le two.size_le)) any
    exact ⟨constant, member, own, has.frame four named fun ⟨_, _, same⟩ => tag same⟩

/-- What a family leaves once there is the object that makes its objects. -/
structure Family.Leaves (family : Family) (owner : Nat) (key : Key) (before after : Store) : Prop where
  shares : ∀ base, family.base = some base → base.id < before.objects.size →
    base.id ≠ Origin.global.id → family.Shares base key after
  name : family.isGlobal = true → Origin.global.id < before.objects.size →
    key = .ofString family.name → HasSlot after Origin.global.id key (.hidden (.object owner))

theorem writes_addMembers (family : Family) (owner : Nat) (named : key.isPlace = false) (store : Store) :
    Writes (family.addMembers owner) store (fun i k => family.writes (some owner) i (· == k) = true)
      fun _ after => family.Leaves owner key store after := by
  obtain ⟨_, s1, ran1, one, -⟩ := writes_constants owner false family.constants named store
  obtain ⟨_, s2, ran2, two, -⟩ := writes_methods owner family.name .own family.own named s1
  have shared : Writes (family.addShared owner) s2
      (fun i k => family.writes (some owner) i (· == k) = true) fun _ after => ∀ base,
        family.base = some base → base.id < s2.objects.size → family.Shares base key after := by
    cases based : family.base with
    | none =>
      rw [Family.addShared, based]
      refine (writes_tag owner family.tag s2).mono (fun i k _ ⟨same, tagged, own⟩ => same ▸
        family.writes_own (.inr (.inr ⟨tagged, beq_iff_eq.mpr own.symm⟩))) fun _ _ _ _ => nofun
    | some base =>
      refine (writes_shared based named s2).mono (fun _ _ _ own => own) fun _ _ _ left own same => ?_
      cases same
      exact left
  obtain ⟨_, s3, ran3, three, left⟩ := shared
  have name : Writes (family.addName owner) s3
      (fun i k => i = Origin.global.id ∧ family.isGlobal = true ∧ k = .ofString family.name)
      fun _ after => family.isGlobal = true → Origin.global.id < s3.objects.size →
        key = .ofString family.name → HasSlot after Origin.global.id key (.hidden (.object owner)) := by
    unfold Family.addName
    split
    · rename_i isGlobal
      refine (writes_put _ _ _ s3).mono (fun i k _ ⟨same, own⟩ => ⟨same, isGlobal, own⟩)
        fun _ _ _ put _ there own => ?_
      obtain ⟨_, has⟩ := put there (own ▸ named)
      rwa [own]
    · rename_i other
      exact writes_pure fun isGlobal => absurd isGlobal other
  obtain ⟨_, s4, ran4, four, given⟩ := name
  refine ⟨(), s4, (bind_ok ran1).trans ((bind_ok ran2).trans ((bind_ok ran3).trans ran4)), ?_, ?_, ?_⟩
  · refine ((one.mono ?_).trans (two.mono ?_)).trans (three.trans (four.mono ?_))
    · exact fun i k _ ⟨same, constant, member, own⟩ => same ▸ family.writes_own
        (.inl ⟨constant, member, beq_iff_eq.mpr own⟩)
    · exact fun i k _ ⟨same, native, member, own⟩ => same ▸ family.writes_own
        (.inr (.inl ⟨native, member, beq_iff_eq.mpr own⟩))
    · rintro i k - ⟨rfl, isGlobal, rfl⟩
      simp [Family.writes, isGlobal]
  · intro base based there apart
    exact (left base based (Nat.lt_of_lt_of_le there (Nat.le_trans one.size_le two.size_le))).frame four
      named fun ⟨same, _⟩ => apart same
  · exact fun isGlobal there => given isGlobal
      (Nat.lt_of_lt_of_le there (Nat.le_trans (Nat.le_trans one.size_le two.size_le) three.size_le))

/-- The object that makes the objects of a family is there or new; a new one knows the base. -/
theorem writes_owner (family : Family) (store : Store) : Writes (addOwner family) store
    (fun i k => store.objects.size ≤ i ∨
      family.base.any (·.id == i) = true ∧ k = .ofString "constructor")
    fun owner after => (family.owner.map (·.id) = some owner ∨
        family.owner = none ∧ store.objects.size ≤ owner) ∧
      ∀ native base, family.owner = none → family.maker = some native → family.base = some base →
        IsNative after owner family.name .maker native.name ∧
          HasSlot after owner (.ofString "prototype") (.data (.object base.id) false false false) := by
  unfold addOwner
  split
  · rename_i owner owned
    exact writes_pure ⟨.inl (by rw [owned]; rfl), fun _ _ none => by rw [owned] at none; cases none⟩
  · rename_i owned made
    exact ⟨_, _, allocate_eq _ store, .pushObject store _, .inr ⟨owned, Nat.le_refl _⟩,
      fun _ _ _ some => by rw [made] at some; cases some⟩
  · rename_i native owned made
    refine (writes_native family.name .maker native store).bind fun owner s1 one ⟨fresh, own⟩ => ?_
    split
    · rename_i based
      exact writes_pure ⟨.inr ⟨owned, fresh⟩, fun _ _ _ _ some => by rw [based] at some; cases some⟩
    · rename_i base based
      have there : owner < s1.objects.size := by
        obtain ⟨_, found, -⟩ := own
        exact (Array.getElem?_eq_some_iff.mp found).1
      obtain ⟨_, s2, ran2, two, left⟩ := writes_put owner (.ofString "prototype")
        (fun _ => .data (.object base.id) false false false) s1
      obtain ⟨_, s3, ran3, three, -⟩ := writes_put base.id (.ofString "constructor")
        (fun _ => .hidden (.object owner)) s2
      obtain ⟨_, has⟩ := left there (by decide)
      refine ⟨owner, s3, (bind_ok ran2).trans ((bind_ok ran3).trans rfl), ?_, .inr ⟨owned, fresh⟩, ?_⟩
      · refine (two.mono fun i k _ ⟨same, _⟩ => .inl (same ▸ fresh)).trans
          (three.mono fun i k _ ⟨same, own⟩ => .inr ⟨?_, own⟩)
        rw [based, same]
        exact beq_self_eq_true _
      · intro _ _ _ made' based'
        obtain rfl := Option.some.inj (made.symm.trans made')
        obtain rfl := Option.some.inj (based.symm.trans based')
        exact ⟨(own.frame two).frame three, has.frame three (by decide) fun ⟨_, same⟩ => by
          revert same; decide⟩

/-- What is written into an object that is there, whichever object a family makes. -/
theorem Family.writes_of_new {test : Key → Bool} {id : Nat} (there : id < store.objects.size)
    (of : family.owner.map (·.id) = some owner ∨ family.owner = none ∧ store.objects.size ≤ owner)
    (writes : family.writes (some owner) id test = true) :
    family.writes (family.owner.map (·.id)) id test = true := by
  obtain owned | ⟨-, fresh⟩ := of
  · rwa [owned]
  · have other : (some owner == some id) = false := by simp; omega
    simp only [Family.writes, other, Bool.false_and, Bool.false_or] at writes
    simp only [Family.writes, Bool.or_assoc, Bool.or_eq_true] at writes ⊢
    exact .inr writes

/-- A family writes what is read off its lists. -/
theorem writes_family (family : Family) (named : key.isPlace = false) (store : Store) :
    Writes (addFamily family) store
      (fun i k => family.writes (family.owner.map (·.id)) i (· == k) = true)
      fun _ after => ∀ base, family.base = some base → base.id < store.objects.size →
        base.id ≠ Origin.global.id → family.Shares base key after := by
  obtain ⟨owner, s1, ran1, one, isOwner, -⟩ := writes_owner family store
  obtain ⟨_, after, ran2, two, leaves⟩ := writes_addMembers family owner named s1
  rw [addFamily_eq]
  refine ⟨_, after, (bind_ok ran1).trans ran2, ?_, fun base based there =>
    leaves.shares base based (Nat.lt_of_lt_of_le there one.size_le)⟩
  have both : store.ChangesOnly after fun i k => store.objects.size ≤ i ∨
      family.writes (family.owner.map (·.id)) i (· == k) = true := by
    have first : store.ChangesOnly s1 fun i k => store.objects.size ≤ i ∨
        family.writes (family.owner.map (·.id)) i (· == k) = true := by
      refine one.mono fun i k _ own => own.imp_right fun ⟨based, same⟩ => ?_
      simp [Family.writes, based, same]
    refine first.trans (two.mono fun i k _ writes => ?_)
    obtain there | new := Nat.lt_or_ge i store.objects.size
    · exact .inr (family.writes_of_new there isOwner writes)
    · exact .inl new
  exact both.mono fun i k there own => own.resolve_left (Nat.not_le_of_lt there)

end Families

section Start

/-- A store after some families have come. -/
def Store.given (store : Store) (families : List Family) : Store :=
  families.foldl (fun store family => (addFamily family store).2) store

/-- What comes after the families: members that stand in two places. -/
def addTwins : Run Unit := do
  addParsers
  addAlias .list "values" Sign.iterator.key
  addAlias .map "entries" Sign.iterator.key
  addAlias .set "values" Sign.iterator.key
  addAlias .set "values" (.ofString "keys")
  Run.update Origin.generatorRoutine.id fun object =>
    object.put (.ofString "prototype") (Routines.fixedSlot (.object Origin.generator.id))

def twinWrites (id : Nat) (test : Key → Bool) : Bool :=
  Numbers.parsers.any (test <| .ofString ·.name) ||
    [(Origin.list, Sign.iterator.key), (.map, Sign.iterator.key), (.set, Sign.iterator.key),
      (.set, .ofString "keys"), (.generatorRoutine, .ofString "prototype")].any fun twin =>
        twin.1.id == id && test twin.2

theorem addFamily_run (family : Family) (store : Store) :
    addFamily family store = (.ok (), (addFamily family store).2) ∧
      store.ChangesOnly (addFamily family store).2
        (fun i k => family.writes (family.owner.map (·.id)) i (· == k) = true) := by
  have named : (Key.symbol 0).isPlace = false := rfl
  obtain ⟨_, after, ran, changes, -⟩ := writes_family family named store
  rw [ran]
  exact ⟨rfl, changes⟩

theorem addFamilies_run (families : List Family) (store : Store) :
    (forIn families PUnit.unit fun family _ => do
      addFamily family
      pure (ForInStep.yield PUnit.unit) : Run PUnit) store = (.ok (), store.given families) := by
  induction families generalizing store with
  | nil => rfl
  | cons family rest ih =>
    have turn : (do addFamily family; pure (ForInStep.yield PUnit.unit) : Run (ForInStep PUnit)) store =
        (.ok (.yield ()), (addFamily family store).2) := (bind_ok (addFamily_run family store).1).trans rfl
    rw [List.forIn_cons]
    exact (bind_ok turn).trans (ih _)

theorem changesOnly_given (families : List Family) (store : Store) :
    store.ChangesOnly (store.given families)
      (fun i k => families.any
        (fun family => family.writes (family.owner.map (·.id)) i (· == k)) = true) := by
  induction families generalizing store with
  | nil => exact .refl store
  | cons family rest ih =>
    refine ((addFamily_run family store).2.mono fun i k _ own => ?_).trans
      ((ih _).mono fun i k _ own => ?_)
    · rw [List.any_cons, own, Bool.true_or]
    · rw [List.any_cons, own, Bool.or_true]

theorem writes_alias (origin : Origin) (name : String) (key : Key) (store : Store) :
    Writes (addAlias origin name key) store (fun i k => i = origin.id ∧ k = key) fun _ _ => True := by
  refine (writes_update (fun i k => i = origin.id ∧ k = key) origin.id _ store
    fun object => ?_).mono (fun _ _ _ own => own) fun _ _ _ _ => trivial
  split
  · exact object.changesOnly_put origin.id key _
  · exact ⟨rfl, rfl, rfl, fun _ => rfl, fun _ _ _ => rfl⟩

theorem makerOf_run (origin : Origin) (store : Store) :
    ∃ id, makerOf origin store = (.ok id, store) := by
  have read : Run.object origin.id store = (.ok ((store.objects[origin.id]?).getD default), store) := rfl
  rw [makerOf, bind_ok read]
  cases ((store.objects[origin.id]?).getD default).slot? (.ofString "constructor") with
  | none => exact ⟨_, rfl⟩
  | some slot =>
    cases slot with
    | accessor => exact ⟨_, rfl⟩
    | data value => cases value <;> exact ⟨_, rfl⟩

/-- The routines that read numbers are put into one object, whichever it is. -/
theorem writes_parsers (store : Store) : Writes addParsers store
    (fun _ k => ∃ native ∈ Numbers.parsers, .ofString native.name = k) fun _ _ => True := by
  obtain ⟨id, maker⟩ := makerOf_run .number store
  have read : Run.object Origin.global.id store =
    (.ok ((store.objects[Origin.global.id]?).getD default), store) := rfl
  unfold addParsers
  generalize Numbers.parsers = natives
  refine (writes_read read).bind fun global _ _ ⟨_, same⟩ => ?_
  subst same
  refine (writes_read maker).bind fun id middle _ _ => ?_
  refine Writes.bind (?_ : Writes _ middle _ fun _ _ => True) fun _ _ _ _ => writes_pure trivial
  refine writes_turns natives (fun (native : Native) _ k => Key.ofString native.name = k)
    (fun native store => ?_) middle
  dsimp only
  split
  · rename_i slot _
    exact ((writes_put id (.ofString native.name) (fun _ => slot) store).mono
      (fun _ _ _ own => own.2.symm) fun _ _ _ left => left).bind fun _ _ _ _ => writes_pure rfl
  · exact writes_pure rfl

theorem writes_twins (store : Store) :
    Writes addTwins store (fun i k => twinWrites i (· == k) = true) fun _ _ => True := by
  obtain ⟨_, s1, ran1, one, -⟩ := writes_parsers store
  obtain ⟨_, s2, ran2, two, -⟩ := writes_alias .list "values" Sign.iterator.key s1
  obtain ⟨_, s3, ran3, three, -⟩ := writes_alias .map "entries" Sign.iterator.key s2
  obtain ⟨_, s4, ran4, four, -⟩ := writes_alias .set "values" Sign.iterator.key s3
  obtain ⟨_, s5, ran5, five, -⟩ := writes_alias .set "values" (.ofString "keys") s4
  obtain ⟨_, s6, ran6, six, -⟩ := writes_put Origin.generatorRoutine.id (.ofString "prototype")
    (fun _ => Routines.fixedSlot (.object Origin.generator.id)) s5
  refine ⟨(), s6, (bind_ok ran1).trans ((bind_ok ran2).trans ((bind_ok ran3).trans ((bind_ok ran4).trans
    ((bind_ok ran5).trans ran6)))), ?_, trivial⟩
  have all (twin : Origin × Key) (member : twin ∈ [(Origin.list, Sign.iterator.key),
      (.map, Sign.iterator.key), (.set, Sign.iterator.key), (.set, .ofString "keys"),
      (.generatorRoutine, .ofString "prototype")]) (i : Nat) (k : Key)
      (own : i = twin.1.id ∧ k = twin.2) : twinWrites i (· == k) = true := by
    rw [twinWrites, Bool.or_eq_true]
    refine .inr (List.any_eq_true.mpr ⟨twin, member, ?_⟩)
    rw [own.1, own.2, beq_self_eq_true, beq_self_eq_true]
    rfl
  refine (one.mono fun i k _ ⟨native, member, own⟩ => ?_).trans
    ((two.mono fun i k _ own => all (.list, Sign.iterator.key) (by simp) i k own).trans
    ((three.mono fun i k _ own => all (.map, Sign.iterator.key) (by simp) i k own).trans
    ((four.mono fun i k _ own => all (.set, Sign.iterator.key) (by simp) i k own).trans
    ((five.mono fun i k _ own => all (.set, .ofString "keys") (by simp) i k own).trans
    (six.mono fun i k _ own => all (.generatorRoutine, .ofString "prototype") (by simp) i k own)))))
  rw [twinWrites, Bool.or_eq_true]
  exact .inl (List.any_eq_true.mpr ⟨native, member, beq_iff_eq.mpr own⟩)

theorem addAll_eq : addAll = (forIn families PUnit.unit fun family _ => do
    addFamily family
    pure (ForInStep.yield PUnit.unit)) >>= fun _ => addTwins :=
  rfl

theorem storeAfter_eq {run : Run Unit} (ran : run store = (.ok (), after)) :
    storeAfter run store = after :=
  congrArg Prod.snd ran

/-- The first families have come. -/
def stage (n : Nat) : Store :=
  blankStore.given (families.take n)

/-- What comes after the first families writes a member whose key passes a test. -/
def laterWrites (n id : Nat) (test : Key → Bool) : Bool :=
  (families.drop n).any (fun family => family.writes (family.owner.map (·.id)) id test) ||
    twinWrites id test

theorem changesOnly_startStore (n : Nat) :
    (stage n).ChangesOnly startStore fun i k => laterWrites n i (· == k) = true := by
  obtain ⟨_, after, ran, changes, -⟩ := writes_twins (blankStore.given families)
  have all : addAll blankStore = (.ok (), after) := by
    rw [addAll_eq, bind_ok (addFamilies_run families blankStore), ran]
  have start : startStore = after := storeAfter_eq all
  have split : blankStore.given families = (stage n).given (families.drop n) := by
    rw [stage, Store.given, Store.given, Store.given, ← List.foldl_append, List.take_append_drop]
  rw [start]
  rw [split] at changes
  refine ((changesOnly_given _ _).mono fun i k _ own => ?_).trans (changes.mono fun i k _ own => ?_)
  · rw [laterWrites, own, Bool.true_or]
  · rw [laterWrites, own, Bool.or_true]

theorem Family.writes_mono {family : Family} {owner : Option Nat} {test other : Key → Bool}
    (implies : ∀ key, test key = true → other key = true) (writes : family.writes owner id test = true) :
    family.writes owner id other = true := by
  simp only [Family.writes, Bool.or_eq_true, Bool.and_eq_true, List.any_eq_true] at writes ⊢
  grind

theorem not_laterWrites {n : Nat} {test : Key → Bool} (none : laterWrites n id test = false)
    (passes : test key = true) : ¬ laterWrites n id (· == key) = true := by
  have implies (k : Key) (same : (k == key) = true) : test k = true := by
    rwa [eq_of_beq same]
  intro writes
  refine Bool.false_ne_true (none.symm.trans ?_)
  simp only [laterWrites, twinWrites, Bool.or_eq_true, Bool.and_eq_true, List.any_eq_true] at writes ⊢
  obtain ⟨family, member, writes⟩ | ⟨native, member, same⟩ | ⟨twin, member, own, same⟩ := writes
  · exact .inl ⟨family, member, Family.writes_mono implies writes⟩
  · exact .inr (.inl ⟨native, member, implies _ same⟩)
  · exact .inr (.inr ⟨twin, member, own, implies _ same⟩)

theorem stage_succ {n : Nat} {family : Family} (found : families[n]? = some family) :
    stage (n + 1) = (addFamily family (stage n)).2 := by
  rw [stage, List.take_add_one, found, Store.given, List.foldl_append]
  rfl

theorem id_lt_stage (origin : Origin) (n : Nat) : origin.id < (stage n).objects.size := by
  have within : origin.id < blankStore.objects.size := by
    cases origin with
    | error kind => cases kind <;> decide
    | _ => decide
  exact Nat.lt_of_lt_of_le within (changesOnly_given _ _).size_le

/-- A member with this key is shown as it was put. -/
def Kind.shows (kind : Kind) (key : Key) : Bool :=
  match kind with
  | .plain | .native .. => true
  | .list .. => key != Object.lengthKey
  | _ => false

theorem Object.own?_of_shows {object : Object} (named : key.isPlace = false)
    (shows : object.kind.shows key = true) :
    object.isProxy = false ∧ object.own? key = object.slot? key := by
  rw [Object.isProxy, Object.own?, Object.length?]
  · revert shows
    cases object.kind with
    | list length writable =>
      exact fun shows => ⟨rfl, if_neg fun same => by simp [Kind.shows, eq_of_beq same] at shows⟩
    | _ => simp [Kind.shows]
  · exact fun _ i _ place => Key.ne_index named i place

theorem HasSlot.holds {kind : Kind} (has : HasSlot store id key slot)
    (own : ∃ object, store.objects[id]? = some object ∧ object.kind = kind) (named : key.isPlace = false)
    (shows : kind.shows key = true) : Holds store id key slot := by
  obtain ⟨object, found, held⟩ := has
  obtain ⟨_, found', rfl⟩ := own
  obtain rfl := Option.some.inj (found.symm.trans found')
  obtain ⟨direct, same⟩ := Object.own?_of_shows named shows
  exact ⟨object, found, direct, same.trans held⟩

/-- An object that was there before the families came. -/
theorem found_startStore (origin : Origin) : ∃ object, startStore.objects[origin.id]? = some object ∧
    ({ prototype := baseOf origin, kind := kindOf origin } : Object).ChangesOnly object
      fun key => laterWrites 0 origin.id (· == key) = true :=
  (changesOnly_startStore 0).objects origin.id _ (by
    cases origin with
    | error kind => cases kind <;> rfl
    | _ => rfl)

theorem lacks_startStore (origin : Origin) (named : key.isPlace = false)
    (shows : (kindOf origin).shows key = true) (free : ¬ laterWrites 0 origin.id (· == key) = true) :
    Lacks startStore origin.id key (baseOf origin) := by
  obtain ⟨object, found, changes⟩ := found_startStore origin
  obtain ⟨direct, same⟩ := Object.own?_of_shows named (by rw [changes.kind]; exact shows)
  refine ⟨object, found, direct, same.trans ((changes.slot? key named free).trans ?_), changes.prototype⟩
  rw [Object.slot?_eq_find? named]
  rfl

theorem isBase_startStore (origin : Origin) {test : Key → Bool}
    (free : laterWrites 0 origin.id test = false) (places : ∀ i, test (.index i) = true) :
    IsBase startStore origin.id (kindOf origin) (baseOf origin) := by
  obtain ⟨object, found, changes⟩ := found_startStore origin
  exact ⟨object, found, changes.kind, changes.prototype,
    changes.items fun i => not_laterWrites free (places i)⟩

theorem HasSlot.start {n : Nat} {test : Key → Bool} (origin : Origin)
    (has : HasSlot (stage n) origin.id key slot) (free : laterWrites n origin.id test = false)
    (passes : test key = true) (named : key.isPlace = false) (shows : (kindOf origin).shows key = true) :
    Holds startStore origin.id key slot := by
  obtain ⟨object, found, changes⟩ := found_startStore origin
  exact (has.frame (changesOnly_startStore n) named (not_laterWrites free passes)).holds
    ⟨object, found, changes.kind⟩ named shows

/-- A family gives its base a routine under a name, and no other member in its place. -/
def Family.offers (family : Family) (name : String) : Bool :=
  let key := Key.ofString name
  family.shared.any (keyOf ·.name == key) &&
    family.shared.all (fun native => native.name == name || keyOf native.name != key) &&
    family.computed.all (keyOf ·.name != key) && family.sharedConstants.all (keyOf ·.1 != key)

theorem ofString_ne_sign {name : String} {sign : Sign} : Key.ofString name ≠ sign.key := by
  unfold Key.ofString Key.ofUnits Sign.key
  split
  · split <;> exact Key.noConfusion
  · exact Key.noConfusion

theorem provides_startStore (n : Nat) {family : Family} (base : Origin) {name : String}
    {test : Key → Bool} (found : families[n]? = some family) (based : family.base = some base)
    (apart : base.id ≠ Origin.global.id) (offers : family.offers name = true)
    (free : laterWrites (n + 1) base.id test = false) (passes : test (.ofString name) = true)
    (named : (Key.ofString name).isPlace = false) (shows : (kindOf base).shows (.ofString name) = true) :
    Provides startStore base.id name family.name .shared name := by
  obtain ⟨_, after, ran, -, left⟩ := writes_family family named (stage n)
  have same : after = stage (n + 1) := by rw [stage_succ found, ran]
  subst same
  simp only [Family.offers, Bool.and_eq_true, List.any_eq_true, List.all_eq_true, beq_iff_eq,
    Bool.or_eq_true, bne_iff_ne] at offers
  obtain ⟨⟨⟨any, only⟩, computed⟩, constants⟩ := offers
  obtain ⟨native, member, own, routine, made, has⟩ := (left base based (id_lt_stage base n) apart).routine
    any computed constants ofString_ne_sign
  have called : native.name = name := (only native member).resolve_right fun other => other own
  rw [called] at made
  exact ⟨routine, ⟨_, _, _, has.start base free passes named shows⟩,
    made.frame (changesOnly_startStore (n + 1))⟩

theorem Family.origin_of_writes {family : Family} {test : Key → Bool}
    (writes : family.writes (family.owner.map (·.id)) id test = true) :
    ∃ origin : Origin, origin.id = id := by
  simp only [Family.writes, Bool.or_eq_true, Bool.and_eq_true, beq_iff_eq, Option.map_eq_some_iff,
    Option.any_eq_true] at writes
  obtain (⟨⟨origin, -, same⟩, -⟩ | ⟨⟨origin, -, same⟩, -⟩) | ⟨⟨same, -⟩, -⟩ := writes
  · exact ⟨origin, same⟩
  · exact ⟨origin, same⟩
  · exact ⟨.global, same.symm⟩

/-- An object that a family has made keeps its members, but for the names of the twins. -/
theorem not_laterWrites_new {n m : Nat} (new : (stage m).objects.size ≤ id)
    (free : Numbers.parsers.any (Key.ofString ·.name == key) = false) :
    ¬ laterWrites n id (· == key) = true := by
  have apart (origin : Origin) : origin.id ≠ id :=
    Nat.ne_of_lt (Nat.lt_of_lt_of_le (id_lt_stage origin m) new)
  intro writes
  rw [laterWrites, twinWrites, free, Bool.false_or, Bool.or_eq_true, List.any_eq_true,
    List.any_eq_true] at writes
  obtain ⟨family, -, writes⟩ | ⟨twin, -, same⟩ := writes
  · obtain ⟨origin, same⟩ := family.origin_of_writes writes
    exact apart origin same
  · exact apart twin.1 (eq_of_beq (Bool.and_eq_true_iff.mp same).1)

theorem errors_startStore (free : laterWrites 48 Origin.global.id (· == .ofString "Error") = false) :
    ∃ maker, HasValue startStore Origin.global.id (.ofString "Error") (.object maker) ∧
      MakesErrors startStore maker := by
  have found : families[47]? = some (Failures.family .error) := rfl
  have named : (Key.ofString "Error").isPlace = false := by decide
  obtain ⟨maker, s1, ran1, one, isOwner, made⟩ := writes_owner (Failures.family .error) (stage 47)
  obtain ⟨_, s2, ran2, two, leaves⟩ := writes_addMembers (Failures.family .error) maker named s1
  have reached : stage 48 = s2 := by
    rw [stage_succ found, addFamily_eq, bind_ok ran1, ran2]
  have new : (stage 47).objects.size ≤ maker := (isOwner.resolve_left nofun).2
  have apart (origin : Origin) : origin.id ≠ maker :=
    Nat.ne_of_lt (Nat.lt_of_lt_of_le (id_lt_stage origin 47) new)
  obtain ⟨native, has⟩ := made _ _ rfl rfl rfl
  have kept : ¬ (Failures.family .error).writes (some maker) maker (· == .ofString "prototype") = true := by
    intro writes
    simp only [Family.writes, Bool.or_eq_true, Bool.and_eq_true] at writes
    obtain (⟨-, own⟩ | ⟨based, -⟩) | ⟨⟨same, -⟩, -⟩ := writes
    · simp [Failures.family] at own
    · exact apart (.error .error) (eq_of_beq based)
    · exact apart .global (eq_of_beq same).symm
  have later := changesOnly_startStore 48
  rw [reached] at later
  have own := (native.frame two).frame later
  have prototype := (has.frame two (by decide) kept).frame later (by decide)
    (not_laterWrites_new new (by decide +kernel))
  have name := leaves.name rfl (Nat.lt_of_lt_of_le (id_lt_stage .global 47) one.size_le) rfl
  rw [← reached] at name
  exact ⟨maker, ⟨_, _, _, name.start .global free (beq_self_eq_true _) named rfl⟩, own,
    ⟨_, _, _, prototype.holds own (by decide) rfl⟩⟩

theorem errorName_startStore
    (free : laterWrites 48 (Origin.error .error).id (· == .ofString "name") = false) :
    HasValue startStore (Origin.error .error).id (.ofString "name") (.ofString "Error") := by
  have found : families[47]? = some (Failures.family .error) := rfl
  have named : (Key.ofString "name").isPlace = false := by decide
  obtain ⟨_, after, ran, -, left⟩ := writes_family (Failures.family .error) named (stage 47)
  have same : after = stage 48 := by rw [stage_succ found, ran]
  subst same
  obtain ⟨constant, member, own, has⟩ := (left (.error .error) rfl (id_lt_stage _ _) (by decide)).constant
    ⟨_, List.mem_cons_self, by decide⟩ ofString_ne_sign
  obtain rfl | member := List.mem_cons.mp member
  · exact ⟨_, _, _, has.start (.error .error) free (beq_self_eq_true _) named rfl⟩
  · obtain rfl := List.mem_singleton.mp member
    exact absurd own (by decide)

/-- A member of an object is computed by a routine that is shared by the objects of a family. -/
def Store.isComputed (store : Store) (id : Nat) (key : Key) (home name : String) : Bool :=
  ((store.objects[id]?).bind (·.slot? key)).any fun slot =>
    match slot with
    | .accessor (.object getter) _ _ _ => (store.objects[getter]?).any fun routine =>
        match routine.kind with
        | .native own .shared called => own == home && called == name
        | _ => false
    | _ => false

theorem hasSlot_of_isComputed {home name : String} (computed : store.isComputed id key home name = true) :
    ∃ getter setter enumerable configurable,
      HasSlot store id key (.accessor (.object getter) setter enumerable configurable) ∧
        IsNative store getter home .shared name := by
  obtain ⟨slot, found, own⟩ := (Option.any_eq_true _ _).mp computed
  obtain ⟨object, there, held⟩ := Option.bind_eq_some_iff.mp found
  split at own
  · obtain ⟨routine, known, is⟩ := (Option.any_eq_true _ _).mp own
    split at is
    · rename_i kind
      obtain ⟨rfl, rfl⟩ : _ = _ ∧ _ = _ := by simpa using is
      exact ⟨_, _, _, _, ⟨object, there, held⟩, routine, known, kind⟩
    · cases is
  · cases own

theorem free_object : laterWrites 0 Origin.object.id (fun key => key.isPlace || [Sign.toPrimitive.key,
    Sign.toStringTag.key, .ofString "module", .ofString "exports"].contains key) = false := by
  decide +kernel

theorem free_global : laterWrites 0 Origin.global.id (fun key =>
    [.ofString "module", .ofString "exports"].contains key) = false := by
  decide +kernel

theorem equipped_startStore : Equipped startStore := by
  have start := changesOnly_startStore 0
  have objects : laterWrites 1 Origin.object.id (fun key =>
      [.ofString "toString", .ofString "valueOf", .ofString "__proto__"].contains key) = false := by
    decide +kernel
  have list : laterWrites 0 Origin.list.id Key.isPlace = false := by decide +kernel
  have lists : laterWrites 4 Origin.list.id (fun key =>
      [.ofString "push", .ofString "join"].contains key) = false := by
    decide +kernel
  have base : (stage 1).isComputed Origin.object.id (.ofString "__proto__") "Object" "__proto__" := by
    decide +kernel
  exact {
    root := isBase_startStore .object free_object fun _ => rfl
    toPrimitive := lacks_startStore .object rfl rfl (not_laterWrites free_object (by decide))
    toStringTag := lacks_startStore .object rfl rfl (not_laterWrites free_object (by decide))
    toText := provides_startStore 0 .object rfl rfl (by decide) (by decide +kernel) objects (by decide)
      (by decide) rfl
    valueOf := provides_startStore 0 .object rfl rfl (by decide) (by decide +kernel) objects (by decide)
      (by decide) rfl
    baseOf := by
      obtain ⟨getter, setter, enumerable, configurable, has, native⟩ := hasSlot_of_isComputed base
      exact ⟨getter, setter, enumerable, configurable,
        has.start .object objects (by decide) (by decide) rfl, native.frame (changesOnly_startStore 1)⟩
    lists := isBase_startStore .list list fun _ => rfl
    push := provides_startStore 3 .list rfl rfl (by decide) (by decide +kernel) lists (by decide)
      (by decide) (by decide)
    join := provides_startStore 3 .list rfl rfl (by decide) (by decide +kernel) lists (by decide)
      (by decide) (by decide)
    error := errors_startStore (by decide +kernel)
    errorName := errorName_startStore (by decide +kernel)
    outer := ⟨_, (congrArg (·[0]?) start.scopes).trans rfl, rfl, rfl, rfl⟩
    inner := ⟨_, (congrArg (·[Library.scriptScope]?) start.scopes).trans rfl, rfl, rfl, rfl⟩ }

/-- Scripts know the object that their names are members of. -/
theorem world_startStore :
    HasValue startStore Origin.global.id (.ofString "globalThis") (.object Origin.global.id) := by
  have own : ((stage 3).objects[Origin.global.id]?).bind (·.slot? (.ofString "globalThis")) =
      some (.data (.object Origin.global.id) false false false) := by
    decide +kernel
  have free : laterWrites 3 Origin.global.id (· == .ofString "globalThis") = false := by decide +kernel
  obtain ⟨object, found, held⟩ := Option.bind_eq_some_iff.mp own
  have has : HasSlot (stage 3) Origin.global.id _ _ := ⟨object, found, held⟩
  exact ⟨_, _, _, has.start .global free (beq_self_eq_true _) (by decide) rfl⟩

/-- The names of the exports are free. -/
theorem free_startStore {name : String} (own : name = "module" ∨ name = "exports") :
    Lacks startStore Origin.global.id (.ofString name) (some Origin.object.id) ∧
      Lacks startStore Origin.object.id (.ofString name) none := by
  obtain rfl | rfl := own
  · exact ⟨lacks_startStore .global (by decide) rfl (not_laterWrites free_global (by decide)),
      lacks_startStore .object (by decide) rfl (not_laterWrites free_object (by decide))⟩
  · exact ⟨lacks_startStore .global (by decide) rfl (not_laterWrites free_global (by decide)),
      lacks_startStore .object (by decide) rfl (not_laterWrites free_object (by decide))⟩

end Start

end FootprintTemplate.Script
