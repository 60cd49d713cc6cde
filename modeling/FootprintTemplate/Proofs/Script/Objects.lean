import FootprintTemplate.Proofs.Script.Steps
import Mathlib.Data.List.Nodup

/-! Members of plain objects. An object that is built by putting members into it holds each key once,
with the slot that was put there last. -/
namespace FootprintTemplate.Script

section Entries

variable {κ : Type} {entries : List (κ × Slot)} {key : κ} {old slot : Slot} {place : Nat}

theorem unique_of_nodup (once : (entries.map Prod.fst).Nodup) (one : (key, old) ∈ entries)
    (another : (key, slot) ∈ entries) : old = slot :=
  (Prod.mk.inj (List.inj_on_of_nodup_map once one another rfl)).2

theorem mem_set_iff (once : (entries.map Prod.fst).Nodup)
    (found : entries[place]? = some (key, old)) (k : κ) (s : Slot) :
    (k, s) ∈ entries.set place (key, slot) ↔ (k = key ∧ s = slot) ∨ (k ≠ key ∧ (k, s) ∈ entries) := by
  induction entries generalizing place with
  | nil => cases found
  | cons entry rest ih =>
    obtain ⟨apart, others⟩ := List.nodup_cons.mp once
    cases place with
    | zero =>
      obtain rfl := Option.some.inj found
      have inside (member : (k, s) ∈ rest) : k ≠ key := by
        rintro rfl
        exact apart (List.mem_map.mpr ⟨_, member, rfl⟩)
      simp only [List.set_cons_zero, List.mem_cons, Prod.mk.injEq]
      constructor
      · rintro (same | member)
        · exact .inl same
        · exact .inr ⟨inside member, .inr member⟩
      · rintro (same | ⟨other, ⟨same, -⟩ | member⟩)
        · exact .inl same
        · exact absurd same other
        · exact .inr member
    | succ place =>
      have first : entry.1 ≠ key := by
        intro same
        have member : (key, old) ∈ rest := List.mem_of_getElem? found
        exact apart (List.mem_map.mpr ⟨_, member, same.symm⟩)
      rw [List.set_cons_succ, List.mem_cons, ih others found, List.mem_cons]
      constructor
      · rintro (same | own | ⟨other, member⟩)
        · exact .inr ⟨by rw [← same] at first; exact first, .inl same⟩
        · exact .inl own
        · exact .inr ⟨other, .inr member⟩
      · rintro (own | ⟨other, same | member⟩)
        · exact .inr (.inl own)
        · exact .inl same
        · exact .inr (.inr ⟨other, member⟩)

theorem map_fst_set (found : entries[place]? = some (key, old)) :
    (entries.set place (key, slot)).map Prod.fst = entries.map Prod.fst := by
  have same : (entries.map Prod.fst)[place]? = some key := by rw [List.getElem?_map, found]; rfl
  rw [List.map_set]
  exact List.ext_getElem? fun i => by
    rw [List.getElem?_set]
    split
    · rename_i here
      subst here
      rw [same, if_pos (List.getElem?_eq_some_iff.mp same).1]
    · rfl

theorem mem_append_iff (free : ∀ old, (key, old) ∉ entries) (k : κ) (s : Slot) :
    (k, s) ∈ entries ++ [(key, slot)] ↔ (k = key ∧ s = slot) ∨ (k ≠ key ∧ (k, s) ∈ entries) := by
  rw [List.mem_append, List.mem_singleton, Prod.mk.injEq, or_comm]
  refine or_congr_right ⟨fun member => ⟨?_, member⟩, And.right⟩
  rintro rfl
  exact free s member

theorem nodup_append (once : (entries.map Prod.fst).Nodup) (free : ∀ old, (key, old) ∉ entries) :
    ((entries ++ [(key, slot)]).map Prod.fst).Nodup := by
  rw [List.map_append]
  refine List.Nodup.append once (List.nodup_singleton key) fun k own last => ?_
  obtain rfl := List.mem_singleton.mp last
  obtain ⟨entry, member, rfl⟩ := List.mem_map.mp own
  exact free entry.2 member

end Entries

namespace Object

/-- The members of an object that is no list and no text. -/
def entries (object : Object) : List (Key × Slot) :=
  object.items.toList.map (fun item => (.index item.1, item.2)) ++ object.slots.toList

/-- A plain object with its members where they belong, each of them once. -/
structure Keyed (object : Object) : Prop where
  plain : object.kind = .plain
  items : (object.items.toList.map Prod.fst).Nodup
  slots : (object.slots.toList.map Prod.fst).Nodup
  apart : ∀ i slot, (Key.index i, slot) ∉ object.slots.toList

variable {object : Object} {key : Key} {slot : Slot}

theorem itemPlace?_some (plain : object.kind = .plain) {i place : Nat}
    (found : object.itemPlace? i = some place) :
    ∃ old, object.items.toList[place]? = some (i, old) := by
  have holds : (object.items[place]?).any (·.1 == i) = true := by
    unfold itemPlace? at found
    split at found
    · rename_i own
      rwa [← Option.some.inj found]
    · rw [plain] at found
      have at_place := Array.of_findIdx?_eq_some found
      cases entry : object.items[place]? with
      | none => rw [entry] at at_place; cases at_place
      | some item => rw [entry] at at_place; simpa using at_place
  rw [← Array.getElem?_toList] at holds
  cases entry : object.items.toList[place]? with
  | none => rw [entry] at holds; cases holds
  | some item =>
    rw [entry, Option.any_some, beq_iff_eq] at holds
    exact ⟨item.2, by rw [← holds]⟩

theorem itemPlace?_none (plain : object.kind = .plain) {i : Nat}
    (missing : object.itemPlace? i = none) (old : Slot) : (i, old) ∉ object.items.toList := by
  unfold itemPlace? at missing
  split at missing
  · cases missing
  · rw [plain] at missing
    intro member
    have other := Array.findIdx?_eq_none_iff.mp missing (i, old) (Array.mem_def.mpr member)
    simp at other

theorem slotPlace?_some {place : Nat} (found : object.slotPlace? key = some place) :
    ∃ old, object.slots.toList[place]? = some (key, old) := by
  have at_place := Array.of_findIdx?_eq_some found
  rw [← Array.getElem?_toList] at at_place
  cases entry : object.slots.toList[place]? with
  | none => rw [entry] at at_place; cases at_place
  | some item =>
    rw [entry] at at_place
    exact ⟨item.2, by rw [← eq_of_beq at_place]⟩

theorem slotPlace?_none (missing : object.slotPlace? key = none) (old : Slot) :
    (key, old) ∉ object.slots.toList := by
  intro member
  have other := Array.findIdx?_eq_none_iff.mp missing (key, old) (Array.mem_def.mpr member)
  simp at other

theorem mem_entries_index {i : Nat} (apart : (Key.index i, slot) ∉ object.slots.toList) :
    (Key.index i, slot) ∈ object.entries ↔ (i, slot) ∈ object.items.toList := by
  rw [entries, List.mem_append, or_iff_left apart]
  simp only [List.mem_map, Prod.mk.injEq, Key.index.injEq]
  exact ⟨fun ⟨_, member, one, two⟩ => by rw [← one, ← two]; exact member,
    fun member => ⟨_, member, rfl, rfl⟩⟩

theorem mem_entries_other (other : ∀ i, key ≠ .index i) :
    (key, slot) ∈ object.entries ↔ (key, slot) ∈ object.slots.toList := by
  rw [entries, List.mem_append, or_iff_right]
  intro member
  obtain ⟨item, -, same⟩ := List.mem_map.mp member
  exact other item.1 (Prod.mk.inj same).1.symm

theorem slot?_other (other : ∀ i, key ≠ .index i) : object.slot? key =
    (object.slotPlace? key).bind fun place => (object.slots[place]?).map (·.2) := by
  cases key with
  | index i => exact absurd rfl (other i)
  | text | symbol | secret => rfl

theorem put_other (other : ∀ i, key ≠ .index i) : object.put key slot =
    match object.slotPlace? key with
    | some place => { object with slots := object.slots.setIfInBounds place (key, slot) }
    | none => { object with slots := object.slots.push (key, slot) } := by
  cases key with
  | index i => exact absurd rfl (other i)
  | text | symbol | secret => rfl

theorem slotPlace?_empty (empty : object.slots = #[]) (key : Key) : object.slotPlace? key = none := by
  rw [slotPlace?, empty]
  exact Array.findIdx?_empty

theorem Keyed.slot?_eq_some_iff (keyed : object.Keyed) :
    object.slot? key = some slot ↔ (key, slot) ∈ object.entries := by
  by_cases index : ∃ i, key = .index i
  · obtain ⟨i, rfl⟩ := index
    rw [mem_entries_index (keyed.apart i slot), slot?]
    cases found : object.itemPlace? i with
    | none => simpa using itemPlace?_none keyed.plain found slot
    | some place =>
      obtain ⟨old, entry⟩ := itemPlace?_some keyed.plain found
      rw [Option.bind_some, ← Array.getElem?_toList, entry, Option.map_some, Option.some.injEq]
      have own := List.mem_of_getElem? entry
      exact ⟨fun same => same ▸ own, fun member => unique_of_nodup keyed.items own member⟩
  · have other := not_exists.mp index
    rw [mem_entries_other other, slot?_other other]
    cases found : object.slotPlace? key with
    | none => simpa using slotPlace?_none found slot
    | some place =>
      obtain ⟨old, entry⟩ := slotPlace?_some found
      rw [Option.bind_some, ← Array.getElem?_toList, entry, Option.map_some, Option.some.injEq]
      have own := List.mem_of_getElem? entry
      exact ⟨fun same => same ▸ own, fun member => unique_of_nodup keyed.slots own member⟩

/-- Entries after one of them was put there under a key. -/
structure Puts {κ : Type} (entries after : List (κ × Slot)) (key : κ) (slot : Slot) : Prop where
  once : (after.map Prod.fst).Nodup
  mem : ∀ k s, (k, s) ∈ after ↔ (k = key ∧ s = slot) ∨ (k ≠ key ∧ (k, s) ∈ entries)

theorem Keyed.put_index (keyed : object.Keyed) (i : Nat) (slot : Slot) : ∃ items,
    object.put (.index i) slot = { object with items } ∧
      Puts object.items.toList items.toList i slot := by
  rw [Object.put]
  cases found : object.itemPlace? i with
  | some place =>
    obtain ⟨old, entry⟩ := itemPlace?_some keyed.plain found
    refine ⟨_, rfl, ?_⟩
    rw [Array.toList_setIfInBounds]
    exact ⟨by rw [map_fst_set entry]; exact keyed.items, mem_set_iff keyed.items entry⟩
  | none =>
    have free := itemPlace?_none keyed.plain found
    refine ⟨_, rfl, ?_⟩
    rw [Array.toList_push]
    exact ⟨nodup_append keyed.items free, mem_append_iff free⟩

theorem Keyed.put_other (keyed : object.Keyed) (other : ∀ i, key ≠ .index i) (slot : Slot) :
    ∃ slots, object.put key slot = { object with slots } ∧
      Puts object.slots.toList slots.toList key slot := by
  rw [Object.put_other other]
  cases found : object.slotPlace? key with
  | some place =>
    obtain ⟨old, entry⟩ := slotPlace?_some found
    refine ⟨_, rfl, ?_⟩
    rw [Array.toList_setIfInBounds]
    exact ⟨by rw [map_fst_set entry]; exact keyed.slots, mem_set_iff keyed.slots entry⟩
  | none =>
    have free := slotPlace?_none found
    refine ⟨_, rfl, ?_⟩
    rw [Array.toList_push]
    exact ⟨nodup_append keyed.slots free, mem_append_iff free⟩

theorem Keyed.put (keyed : object.Keyed) (key : Key) (slot : Slot) : (object.put key slot).Keyed := by
  by_cases index : ∃ i, key = .index i
  · obtain ⟨i, rfl⟩ := index
    obtain ⟨items, same, puts⟩ := keyed.put_index i slot
    rw [same]
    exact ⟨keyed.plain, puts.once, keyed.slots, keyed.apart⟩
  · have other := not_exists.mp index
    obtain ⟨slots, same, puts⟩ := keyed.put_other other slot
    rw [same]
    refine ⟨keyed.plain, keyed.items, puts.once, fun i s member => ?_⟩
    obtain ⟨own, -⟩ | ⟨-, member⟩ := (puts.mem _ _).mp member
    · exact other i own.symm
    · exact keyed.apart i s member

/-- What is put into an object replaces the member of that key, or is a further one. -/
theorem Keyed.mem_put (keyed : object.Keyed) (key : Key) (slot : Slot) (k : Key) (s : Slot) :
    (k, s) ∈ (object.put key slot).entries ↔
      (k = key ∧ s = slot) ∨ (k ≠ key ∧ (k, s) ∈ object.entries) := by
  have after := keyed.put key slot
  by_cases index : ∃ i, key = .index i
  · obtain ⟨i, rfl⟩ := index
    obtain ⟨items, same, puts⟩ := keyed.put_index i slot
    rw [same] at after ⊢
    by_cases place : ∃ j, k = .index j
    · obtain ⟨j, rfl⟩ := place
      rw [mem_entries_index (after.apart j s), mem_entries_index (keyed.apart j s), puts.mem]
      simp only [ne_eq, Key.index.injEq]
    · have apart := not_exists.mp place
      rw [mem_entries_other apart, mem_entries_other apart]
      simp [apart i]
  · have other := not_exists.mp index
    obtain ⟨slots, same, puts⟩ := keyed.put_other other slot
    rw [same] at after ⊢
    by_cases place : ∃ j, k = .index j
    · obtain ⟨j, rfl⟩ := place
      rw [mem_entries_index (after.apart j s), mem_entries_index (keyed.apart j s)]
      simp [Ne.symm (other j)]
    · have apart := not_exists.mp place
      rw [mem_entries_other apart, mem_entries_other apart, puts.mem]

theorem Keyed.slot?_put (keyed : object.Keyed) (key : Key) (slot : Slot) (k : Key) :
    (object.put key slot).slot? k = if k = key then some slot else object.slot? k := by
  refine Option.ext fun s => ?_
  rw [(keyed.put key slot).slot?_eq_some_iff, keyed.mem_put]
  split
  · rename_i own
    simp [own, eq_comm]
  · rename_i other
    rw [keyed.slot?_eq_some_iff]
    simp [other]

theorem Keyed.own? (keyed : object.Keyed) (key : Key) : object.own? key = object.slot? key := by
  simp only [Object.own?, length?, keyed.plain]

theorem Keyed.ownKeys_eq (keyed : object.Keyed) : object.ownKeys =
    ((object.items.toList.map Prod.fst).mergeSort (· ≤ ·)).map Key.index ++
      (object.slots.toList.map Prod.fst).filter isTextKey ++
        (object.slots.toList.map Prod.fst).filter fun
          | .symbol _ => true
          | _ => false := by
  rw [ownKeys, length?, keyed.plain]
  -- An object of the plain kind has neither letters nor a length.
  exact congrArg (· ++ _ ++ _) (List.append_nil _)

theorem Keyed.mem_of_mem_ownKeys (keyed : object.Keyed) (member : key ∈ object.ownKeys) :
    ∃ slot, object.slot? key = some slot := by
  have inside : ∃ slot, (key, slot) ∈ object.entries := by
    rw [keyed.ownKeys_eq, List.mem_append, List.mem_append, List.mem_map, List.mem_filter,
      List.mem_filter] at member
    obtain (⟨i, place, rfl⟩ | ⟨own, -⟩) | ⟨own, -⟩ := member
    · obtain ⟨⟨_, slot⟩, item, rfl⟩ := List.mem_map.mp (List.mem_mergeSort.mp place)
      exact ⟨slot, List.mem_append_left _ (List.mem_map.mpr ⟨_, item, rfl⟩)⟩
    · obtain ⟨⟨_, slot⟩, item, rfl⟩ := List.mem_map.mp own
      exact ⟨slot, List.mem_append_right _ item⟩
    · obtain ⟨⟨_, slot⟩, item, rfl⟩ := List.mem_map.mp own
      exact ⟨slot, List.mem_append_right _ item⟩
  obtain ⟨slot, own⟩ := inside
  exact ⟨slot, keyed.slot?_eq_some_iff.mpr own⟩

theorem Keyed.mem_ownKeys (keyed : object.Keyed) (isText : key.isText = true)
    (found : object.slot? key = some slot) : key ∈ object.ownKeys := by
  have inside := keyed.slot?_eq_some_iff.mp found
  rw [keyed.ownKeys_eq, List.mem_append, List.mem_append]
  cases key with
  | symbol | secret => cases isText
  | index i =>
    have item := (mem_entries_index (keyed.apart i slot)).mp inside
    exact .inl (.inl (List.mem_map.mpr ⟨i, List.mem_mergeSort.mpr (List.mem_map.mpr ⟨_, item, rfl⟩), rfl⟩))
  | text name =>
    have own := (mem_entries_other fun _ => Key.noConfusion).mp inside
    exact .inl (.inr (List.mem_filter.mpr ⟨List.mem_map.mpr ⟨_, own, rfl⟩, rfl⟩))

theorem Keyed.nodup_ownKeys (keyed : object.Keyed) : object.ownKeys.Nodup := by
  have places : (((object.items.toList.map Prod.fst).mergeSort (· ≤ ·)).map Key.index).Nodup :=
    ((List.mergeSort_perm _ _).nodup_iff.mpr keyed.items).map fun _ _ => Key.index.inj
  have texts := keyed.slots.filter isTextKey
  rw [keyed.ownKeys_eq]
  refine List.Nodup.append (List.Nodup.append places texts fun key one other => ?_)
    (keyed.slots.filter _) fun key one other => ?_
  · obtain ⟨i, -, rfl⟩ := List.mem_map.mp one
    cases (List.mem_filter.mp other).2
  · obtain ⟨i, -, rfl⟩ | own := (List.mem_append.mp one).imp_left List.mem_map.mp
    · cases (List.mem_filter.mp other).2
    · have isText := (List.mem_filter.mp own).2
      have symbol := (List.mem_filter.mp other).2
      cases key with
      | text => cases symbol
      | index | symbol | secret => cases isText
theorem put_eq (object : Object) (key : Key) (slot : Slot) :
    ∃ items slots, object.put key slot = { object with items, slots } := by
  unfold Object.put
  split <;> split <;> exact ⟨_, _, rfl⟩

theorem keyed_blank (base : Option Nat) : ({ prototype := base } : Object).Keyed :=
  ⟨rfl, .nil, .nil, nofun⟩

end Object
end FootprintTemplate.Script
