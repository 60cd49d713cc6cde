import FootprintTemplate.Proofs.CommandLine.Stages
import FootprintTemplate.Proofs.CommandLine.Files

/-! Trees of one shape: the same files and directories, whatever the files hold. Paths lead to the same
places in them, and what can be written in one can be written in the other. -/
namespace FootprintTemplate.CommandLine

def Entry.isFile : Entry → Bool
  | .file _ => true
  | .directory => false

namespace FileTree

/-- Whether a file stands at a place, if anything does. -/
def isFile? (tree : FileTree) (place : List String) : Option Bool :=
  (tree.entry? place).map Entry.isFile

structure SameShape (tree other : FileTree) : Prop where
  working : other.working = tree.working
  kinds : ∀ place, other.isFile? place = tree.isFile? place

section Kinds

variable (tree : FileTree) (place : List String)

theorem isFile?_eq_none : tree.isFile? place = none ↔ tree.entry? place = none :=
  Option.map_eq_none_iff

theorem isFile?_eq_false : tree.isFile? place = some false ↔ tree.entry? place = some .directory := by
  rw [isFile?, Option.map_eq_some_iff]
  constructor
  · rintro ⟨_ | _, there, kind⟩
    · cases kind
    · exact there
  · exact fun there => ⟨_, there, rfl⟩

theorem isFile?_eq_true :
    tree.isFile? place = some true ↔ ∃ content, tree.entry? place = some (.file content) := by
  rw [isFile?, Option.map_eq_some_iff]
  constructor
  · rintro ⟨content | _, there, kind⟩
    · exact ⟨content, there⟩
    · cases kind
  · rintro ⟨content, there⟩
    exact ⟨_, there, rfl⟩

/-- New content for what is there leaves the shape. -/
theorem sameShape_put (stands : (tree.entry? place).isSome = true) (content : ByteArray) :
    SameShape tree (tree.put place content) := by
  refine ⟨rfl, fun other => ?_⟩
  by_cases same : other = place
  · subst same
    cases there : tree.entry? other with
    | none => rw [there] at stands; cases stands
    | some entry =>
      cases entry with
      | directory =>
        rw [(isFile?_eq_false tree other).mpr there, isFile?_eq_false]
        exact (directory_put tree other content other).mpr there
      | file old =>
        rw [(isFile?_eq_true tree other).mpr ⟨old, there⟩, isFile?_eq_true]
        exact ⟨content, entry?_put_self tree other content (by rw [there]; nofun)⟩
  · rw [isFile?, isFile?, entry?_put_of_ne tree place content same]

end Kinds

section Places

/-- The place of a file in a directory, if its name is one that a file can have. -/
def placeIn (tree : FileTree) (place : List String) (name : String) :
    Except FileError (List String) :=
  if name == "" || name == "." || name == ".." then .error .isADirectory
  else if maxName < name.utf8ByteSize then .error .nameTooLong
  else if tree.isFile? (place ++ [name]) == some false then .error .isADirectory
  else .ok (place ++ [name])

/-- The place at which a file is written, or why none can be. -/
def outputPlace (tree : FileTree) (path : String) : Except FileError (List String) :=
  if maxPath < path.utf8ByteSize then .error .nameTooLong
  else (tree.follow (splitName path).1).bind fun place =>
    match tree.isFile? place with
    | none => .error .notFound
    | some true => .error .notADirectory
    | some false => tree.placeIn place (splitName path).2

theorem writeIn_eq (tree : FileTree) (place : List String) (name text : String) :
    tree.writeIn place name text =
      (tree.placeIn place name).map fun place => tree.put place text.toUTF8 := by
  unfold writeIn placeIn
  split
  · rfl
  split
  · rfl
  cases there : tree.entry? (place ++ [name]) with
  | none =>
    rw [(isFile?_eq_none tree _).mpr there]
    rfl
  | some entry =>
    rw [isFile?, there]
    cases entry <;> rfl

/-- A write fails or succeeds whatever the text is. -/
theorem write_eq (tree : FileTree) (path text : String) :
    tree.write path text = (tree.outputPlace path).map fun place => tree.put place text.toUTF8 := by
  unfold write outputPlace reach
  dsimp only
  split
  · rfl
  cases tree.follow (splitName path).1 with
  | error error => rfl
  | ok place =>
    dsimp only [Except.bind]
    cases there : tree.entry? place with
    | none =>
      rw [(isFile?_eq_none tree _).mpr there]
      rfl
    | some entry =>
      rw [isFile?, there]
      cases entry with
      | file content => rfl
      | directory => exact writeIn_eq tree place _ text

end Places

namespace SameShape

variable {tree other : FileTree} (same : SameShape tree other)
include same

theorem walk (start names : List String) : other.walk start names = tree.walk start names := by
  have gone (place : List String) : other.entry? place = none ↔ tree.entry? place = none := by
    rw [← isFile?_eq_none, same.kinds, isFile?_eq_none]
  have directory (place : List String) :
      other.entry? place = some .directory ↔ tree.entry? place = some .directory := by
    rw [← isFile?_eq_false, same.kinds, isFile?_eq_false]
  fun_induction FileTree.walk tree start names with
  | case1 start => rfl
  | case2 start name rest entry => rw [FileTree.walk, (gone start).mpr entry]
  | case3 start name rest content entry =>
    have isFile := (isFile?_eq_true tree start).mpr ⟨content, entry⟩
    rw [← same.kinds, isFile?_eq_true] at isFile
    obtain ⟨own, entry⟩ := isFile
    rw [FileTree.walk, entry]
  | case4 start name rest entry silent ih =>
    rw [FileTree.walk, (directory start).mpr entry]
    simp [silent, ih]
  | case5 start name rest entry plain parent ih =>
    rw [FileTree.walk, (directory start).mpr entry]
    simp [plain, parent, ih]
  | case6 start name rest entry plain parent long =>
    rw [FileTree.walk, (directory start).mpr entry]
    simp [plain, parent, long]
  | case7 start name rest entry plain parent short ih =>
    rw [FileTree.walk, (directory start).mpr entry]
    simp [plain, parent, short, ih]

theorem follow (names : List String) : other.follow names = tree.follow names := by
  unfold FileTree.follow
  split
  · exact same.walk [] _
  · rw [same.working]
    exact same.walk _ _

theorem resolve (path : String) : other.resolve path = tree.resolve path := by
  unfold FileTree.resolve FileTree.reach
  rw [same.follow]
  cases tree.follow (pathNames path) with
  | error error => rfl
  | ok place =>
    have kinds := same.kinds place
    dsimp only
    cases there : tree.entry? place with
    | none =>
      rw [(isFile?_eq_none tree _).mpr there, isFile?_eq_none] at kinds
      rw [kinds]
    | some entry =>
      cases own : other.entry? place with
      | none =>
        rw [isFile?, isFile?, own, there] at kinds
        cases kinds
      | some entry => rfl

theorem isSame (first second : String) : other.isSame first second = tree.isSame first second := by
  rw [FileTree.isSame, FileTree.isSame, same.resolve, same.resolve]

theorem outputPlace (path : String) : other.outputPlace path = tree.outputPlace path := by
  simp only [FileTree.outputPlace, FileTree.placeIn, same.follow, same.kinds]

end SameShape

end FileTree

end FootprintTemplate.CommandLine
