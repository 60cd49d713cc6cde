import FootprintTemplate.Script.Interpreter

/-! Steps of a running script: what a step gives, followed by the next one, and which objects and
scopes are still the same after it. -/
namespace FootprintTemplate.Script

variable {α β : Type} {store after : Store} {id : Nat}

section Sequence

theorem bind_ok {run : Run α} {next : α → Run β} {value : α}
    (ran : run store = (.ok value, after)) : (run >>= next) store = next value after := by
  simp only [bind, ExceptT.bind, ExceptT.mk, StateT.bind, ran]
  rfl

theorem bind_error {run : Run α} {stop : Stop} (ran : run store = (.error stop, after))
    (next : α → Run β) : (run >>= next) store = (.error stop, after) := by
  simp only [bind, ExceptT.bind, ExceptT.mk, StateT.bind, ran]
  rfl

theorem bind_eq {run other : Run α} (same : run store = other after) (next : α → Run β) :
    (run >>= next) store = (other >>= next) after := by
  simp only [bind, ExceptT.bind, ExceptT.mk, StateT.bind, same]

theorem scope_of_getElem? {own : Scope} (found : store.scopes[id]? = some own) :
    Run.scope id store = (.ok own, store) := by
  change (Except.ok ((store.scopes[id]?).getD default), store) = _
  rw [found]
  rfl

theorem object_of_getElem? {object : Object} (found : store.objects[id]? = some object) :
    Run.object id store = (.ok object, store) := by
  change (Except.ok ((store.objects[id]?).getD default), store) = _
  rw [found]
  rfl

end Sequence

section Changes

/-- The store with another object in the place of one. -/
def Store.withObject (store : Store) (id : Nat) (object : Object) : Store :=
  { store with objects := store.objects.setIfInBounds id object }

/-- The store with another scope in the place of one. -/
def Store.withScope (store : Store) (id : Nat) (scope : Scope) : Store :=
  { store with scopes := store.scopes.setIfInBounds id scope }

/-- The store with a further object. -/
def Store.pushObject (store : Store) (object : Object) : Store :=
  { store with objects := store.objects.push object }

/-- The store with a further scope. -/
def Store.pushScope (store : Store) (scope : Scope) : Store :=
  { store with scopes := store.scopes.push scope }

theorem modify_of_getElem? {items : Array α} {item : α} (found : items[id]? = some item)
    (change : α → α) : items.modify id change = items.setIfInBounds id (change item) := by
  obtain ⟨inside, rfl⟩ := Array.getElem?_eq_some_iff.mp found
  refine Array.ext_getElem? fun i => ?_
  rw [Array.getElem?_modify, Array.getElem?_setIfInBounds]
  split
  · rename_i same
    subst same
    rw [found, Option.map_some]
  · rfl

theorem update_of_getElem? {object : Object} (found : store.objects[id]? = some object)
    (change : Object → Object) :
    Run.update id change store = (.ok (), store.withObject id (change object)) := by
  change (Except.ok (), { store with objects := store.objects.modify id change }) = _
  rw [modify_of_getElem? found]
  rfl

theorem updateScope_of_getElem? {own : Scope} (found : store.scopes[id]? = some own)
    (change : Scope → Scope) :
    Run.updateScope id change store = (.ok (), store.withScope id (change own)) := by
  change (Except.ok (), { store with scopes := store.scopes.modify id change }) = _
  rw [modify_of_getElem? found]
  rfl

theorem exchange_of_getElem? {object : Object} (found : store.objects[id]? = some object)
    (change : Object → Object × α) :
    Run.exchange id change store =
      (.ok (change object).2, store.withObject id (change object).1) := by
  change (Except.ok (change ((store.objects[id]?).getD default)).2, ({ store with
    objects := (store.objects.setIfInBounds id default).setIfInBounds id
      (change ((store.objects[id]?).getD default)).1 } : Store)) = _
  rw [found, Array.setIfInBounds_setIfInBounds]
  rfl

theorem allocate_eq (object : Object) (store : Store) :
    Run.allocate object store = (.ok store.objects.size, store.pushObject object) :=
  rfl

theorem openScope_eq (scope : Scope) (store : Store) :
    Run.openScope scope store = (.ok store.scopes.size, store.pushScope scope) :=
  rfl

end Changes

end FootprintTemplate.Script
