import FootprintTemplate.Config.Read
import FootprintTemplate.Proofs.NetNamer.Overrides

/-! The entries of the overrides in a config text. The order of entries for different pads does not
show in the settings that are read, and whether they are read does not hang on any order. -/
namespace FootprintTemplate.Config

open Yaml (Node)

/-- The pad and the net of a member, or none if one of them is no text. -/
def entryOf (root : Node) (member : Node × Node) : Option (String × String) :=
  (targets? root member).bind pairOf

/-- A config text taken apart: the settings without the overrides, and the entries of the overrides
in the order in which they stand, readable or not. -/
structure Parts where
  settings : Config
  entries : List (Option (String × String))

def Parts.pairs (parts : Parts) : List (String × String) :=
  parts.entries.filterMap id

/-- The settings that hold, unless an entry cannot be read. -/
def Parts.config? (parts : Parts) : Option Config :=
  if parts.entries.all Option.isSome then
    some { parts.settings with netNameOverrides := Overrides.ofPairs parts.pairs }
  else none

/-- Takes the members of a mapping apart, each setting once. -/
def takeApart (root : Node) (parts : Parts) (seen : List String) :
    List (Node × Node) → Option Parts
  | [] => some parts
  | member :: rest =>
    match targets? root member with
    | none => none
    | some (key, value) =>
      match textOf key with
      | none => none
      | some name =>
        if seen.contains name then none
        else if name = "net_name_overrides" then
          (membersOf value).bind fun members =>
            takeApart root { parts with entries := members.map (entryOf root) } (name :: seen) rest
        else
          (set root parts.settings name value).bind fun settings =>
            takeApart root { parts with settings } (name :: seen) rest

/-- The parts of a text, or none if it is refused for more than its entries. -/
def parts? (text : String) : Option Parts :=
  if Text.isBlankText text then some ⟨{}, []⟩
  else match Yaml.readStream text with
    | none => none
    | some .empty => some ⟨{}, []⟩
    | some (.document root) => (membersOf root).bind (takeApart root ⟨{}, []⟩ [])

section Reading

theorem mapM_eq {α β : Type} (f : α → Option β) (values : List α) :
    values.mapM f =
      if (values.map f).all Option.isSome then some ((values.map f).filterMap id) else none := by
  induction values with
  | nil => rfl
  | cons value rest ih =>
    rw [List.mapM_cons, ih]
    cases own : f value with
    | none => simp [own]
    | some result => cases all : (rest.map f).all Option.isSome <;> simp [own, all]

theorem overridesOf_eq (root node : Node) :
    overridesOf root node = (membersOf node).bind fun members =>
      if (members.map (entryOf root)).all Option.isSome then
        some (Overrides.ofPairs ((members.map (entryOf root)).filterMap id))
      else none := by
  unfold overridesOf
  cases membersOf node with
  | none => rfl
  | some members =>
    have read : (members.mapM fun member => (targets? root member).bind pairOf) = _ :=
      mapM_eq (entryOf root) members
    rw [Option.bind_some, Option.bind_some, read]
    cases (members.map (entryOf root)).all Option.isSome <;> rfl

/-- Other settings are set alike whatever the overrides are. -/
theorem set_of_ne {name : String} (other : name ≠ "net_name_overrides") (root value : Node)
    (settings : Config) (overrides : Overrides) :
    set root { settings with netNameOverrides := overrides } name value =
      (set root settings name value).map fun config =>
        { config with netNameOverrides := overrides } := by
  unfold set
  split
  · cases textOf value <;> rfl
  · cases boolOf value <;> rfl
  · exact absurd rfl other
  · cases textOf value <;> rfl
  · rfl

variable {root : Node} {parts : Parts} {seen : List String}

/-- The entries stay once they have been met. -/
theorem entries_takeApart {members : List (Node × Node)} {after : Parts}
    (met : "net_name_overrides" ∈ seen)
    (taken : takeApart root parts seen members = some after) : after.entries = parts.entries := by
  induction members generalizing parts seen with
  | nil => cases taken; rfl
  | cons member rest ih =>
    unfold takeApart at taken
    split at taken
    · cases taken
    split at taken
    · cases taken
    rename_i name _
    split at taken
    · cases taken
    rename_i new
    split at taken
    · rename_i same
      exact absurd (List.contains_iff_mem.mpr met) (same ▸ new)
    · obtain ⟨settings, -, taken⟩ := Option.bind_eq_some_iff.mp taken
      exact (ih (List.mem_cons_of_mem _ met) taken : after.entries = (Parts.mk settings _).entries)

theorem takeApart_unreadable {members : List (Node × Node)}
    (met : "net_name_overrides" ∈ seen) (bad : parts.entries.all Option.isSome = false) :
    (takeApart root parts seen members).bind Parts.config? = none := by
  cases taken : takeApart root parts seen members with
  | none => rfl
  | some after =>
    rw [Option.bind_some, Parts.config?, entries_takeApart met taken, bad]
    rfl

theorem setAll_eq {config : Config} (members : List (Node × Node))
    (own : parts.config? = some config) :
    setAll root config seen members = (takeApart root parts seen members).bind Parts.config? := by
  induction members generalizing parts config seen with
  | nil => exact own.symm
  | cons member rest ih =>
    have isConfig := own
    rw [Parts.config?] at isConfig
    split at isConfig
    case isFalse => cases isConfig
    rename_i readable
    cases isConfig
    unfold setAll takeApart
    cases targets? root member with
    | none => rfl
    | some target =>
    obtain ⟨key, value⟩ := target
    dsimp only
    cases textOf key with
    | none => rfl
    | some name =>
    dsimp only
    split
    · rfl
    by_cases same : name = "net_name_overrides"
    · subst same
      rw [if_pos rfl]
      dsimp only [set]
      rw [overridesOf_eq]
      cases membersOf value with
      | none => rfl
      | some members =>
        dsimp only [Option.bind_some]
        -- An entry that cannot be read is refused at once here, and only at the end in the parts.
        cases all : (members.map (entryOf root)).all Option.isSome with
        | false => exact (takeApart_unreadable List.mem_cons_self all).symm
        | true => exact ih (if_pos all)
    · rw [if_neg same, set_of_ne same]
      cases set root parts.settings name value with
      | none => rfl
      | some settings => exact ih (if_pos readable)

/-- Reading a text is taking it apart and reading its entries. -/
theorem read?_eq (text : String) : read? text = (parts? text).bind Parts.config? := by
  unfold read? parts?
  split
  · rfl
  cases Yaml.readStream text with
  | none => rfl
  | some stream =>
    cases stream with
    | empty => rfl
    | document root =>
      dsimp only
      cases membersOf root with
      | none => rfl
      | some members => exact setAll_eq members rfl

end Reading

section Order

/-- Texts that differ at most in the order of their entries, where those of one pad keep theirs. An
entry can be one that is refused. -/
def Reordered (text other : String) : Prop :=
  ∃ parts others, parts? text = some parts ∧ parts? other = some others ∧
    others.settings = parts.settings ∧ others.entries.Perm parts.entries ∧
    SamePairs parts.pairs others.pairs

theorem alike_read {text : String} {config : Config} (read : Config.read? text = some config) :
    config.Alike config := by
  rw [read?_eq] at read
  obtain ⟨parts, -, own⟩ := Option.bind_eq_some_iff.mp read
  unfold Parts.config? at own
  split at own
  · cases own
    exact ⟨rfl, rfl, rfl, fun _ => rfl, Overrides.once_ofPairs _, Overrides.once_ofPairs _⟩
  · cases own

/-- Settings are read alike from both texts, or from neither. -/
theorem Reordered.read? {text other : String} (reordered : Reordered text other) :
    (Config.read? text = none ∧ Config.read? other = none) ∨
      ∃ config same, Config.read? text = some config ∧ Config.read? other = some same ∧
        config.Alike same := by
  obtain ⟨parts, others, first, second, settings, perm, pairs⟩ := reordered
  rw [read?_eq, read?_eq, first, second]
  dsimp only [Option.bind_some, Parts.config?]
  rw [perm.all_eq]
  split
  · refine .inr ⟨_, _, rfl, rfl, ?_⟩
    rw [settings]
    exact ⟨rfl, rfl, rfl, Overrides.lookup_congr (fun _ => rfl) pairs,
      Overrides.once_ofPairs _, Overrides.once_ofPairs _⟩
  · exact .inl ⟨rfl, rfl⟩

end Order

end FootprintTemplate.Config
