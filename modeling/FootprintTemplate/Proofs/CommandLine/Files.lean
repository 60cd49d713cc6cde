import FootprintTemplate.CommandLine.Files

/-! Paths in a tree of files in which one file is written. A path that leads somewhere leads to the
same place afterwards, and finds the same there unless it is the place that was written. -/
namespace FootprintTemplate.CommandLine.FileTree

section Entries

variable (tree : FileTree) (place : List String) (content : ByteArray)

theorem entry?_eq_directory (other : List String) :
    tree.entry? other = some .directory ↔ other = [] ∨ other ∈ tree.dirs := by
  unfold entry?
  split
  · rename_i h
    simpa using h
  · rename_i h
    cases tree.files.lookup other <;> simpa using h

theorem directory_put (other : List String) :
    entry? (tree.put place content) other = some .directory ↔
      tree.entry? other = some .directory := by
  rw [entry?_eq_directory, entry?_eq_directory]
  rfl

theorem lookup_filter_ne {other : List String} (h : other ≠ place)
    (files : List (List String × ByteArray)) :
    (files.filter (·.1 != place)).lookup other = files.lookup other := by
  induction files with
  | nil => rfl
  | cons file files ih =>
    rw [List.filter_cons, List.lookup_cons]
    by_cases same : file.1 = place
    · have differs : (other == file.1) = false := beq_false_of_ne (same ▸ h)
      rw [if_neg (by simp [same]), ih, differs]
    · rw [if_pos (by simp [same]), List.lookup_cons, ih]

theorem lookup_put_of_ne {other : List String} (h : other ≠ place) :
    (tree.put place content).files.lookup other = tree.files.lookup other := by
  rw [← lookup_filter_ne place h tree.files]
  show List.lookup other ((place, content) :: _) = _
  rw [List.lookup_cons, beq_false_of_ne h]

theorem entry?_put_of_ne {other : List String} (h : other ≠ place) :
    entry? (tree.put place content) other = tree.entry? other := by
  rw [ entry?, entry?, lookup_put_of_ne tree place content h]
  rfl

theorem entry?_put_self (h : tree.entry? place ≠ some .directory) :
    entry? (tree.put place content) place = some (.file content) := by
  have noDirectory : ¬(place.isEmpty || (tree.put place content).dirs.contains place) = true := by
    rw [ne_eq, ← directory_put tree place content, entry?_eq_directory] at h
    simpa using h
  have written : (tree.put place content).files.lookup place = some content :=
    List.lookup_cons_self
  rw [ entry?, if_neg noDirectory, written]
  rfl

end Entries

section Walks

variable (tree : FileTree)

theorem walk_append (place : List String) (names more : List String) :
    tree.walk place (names ++ more) =
      (tree.walk place names).bind fun place => tree.walk place more := by
  fun_induction walk tree place names with
  | case7 place name rest entry plain parent short ih =>
    rw [List.cons_append, walk, ih]
    simp [entry, plain, parent, short]
  | _ => simp_all [walk, Except.bind]

/-- A name that stands after a first slash, or after other names, is followed last. -/
theorem follow_append (names : List String) {name : String} (h : name ≠ "") :
    tree.follow (names ++ [name]) =
      (tree.follow names).bind fun place => tree.walk place [name] := by
  match names with
  | [] =>
    show tree.follow [name] = tree.walk tree.working [name]
    rw [follow]
    simpa using h
  | first :: names =>
    by_cases slash : first = ""
    · subst slash
      exact walk_append tree [] names [name]
    · have relative (rest : List String) :
          tree.follow (first :: rest) = tree.walk tree.working (first :: rest) := by
        rw [follow]
        simpa using slash
      rw [List.cons_append, relative, relative, ← List.cons_append]
      exact walk_append tree tree.working (first :: names) [name]

variable (place : List String) (content : ByteArray)

theorem walk_put {start names found : List String} (h : tree.walk start names = .ok found) :
    (tree.put place content).walk start names = .ok found := by
  have kept := directory_put tree place content
  fun_induction walk tree start names with
  | case1 start => exact h
  | case2 | case3 | case6 => cases h
  | case4 start name rest entry silent ih =>
    rw [walk, (kept start).mpr entry]
    simp [silent, ih h]
  | case5 start name rest entry plain parent ih =>
    rw [walk, (kept start).mpr entry]
    simp [plain, parent, ih h]
  | case7 start name rest entry plain parent short ih =>
    rw [walk, (kept start).mpr entry]
    simp [plain, parent, short, ih h]

theorem follow_put {names found : List String} (h : tree.follow names = .ok found) :
    (tree.put place content).follow names = .ok found := by
  revert h
  unfold follow
  split
  · exact walk_put tree place content
  · exact walk_put tree place content

theorem reach_eq_ok {names found : List String} {entry : Entry} :
    tree.reach names = .ok (found, entry) ↔
      tree.follow names = .ok found ∧ tree.entry? found = some entry := by
  unfold reach
  cases tree.follow names with
  | error => simp
  | ok other =>
    simp only [Except.ok.injEq]
    constructor
    · intro h
      cases there : tree.entry? other <;> simp_all
    · rintro ⟨rfl, there⟩
      simp [there]

theorem read_eq_ok {path : String} {bytes : ByteArray} :
    tree.read path = .ok bytes ↔ path.utf8ByteSize ≤ maxPath ∧
      ∃ found, tree.reach (pathNames path) = .ok (found, .file bytes) := by
  unfold read
  split
  · rename_i long
    simp [Nat.not_le.mpr long]
  · rename_i short
    rcases tree.reach (pathNames path) with _ | ⟨found, _ | _⟩ <;> simp [Nat.not_lt.mp short]

theorem resolve_eq_some {path : String} {found : List String} :
    tree.resolve path = some found ↔ ∃ entry, tree.reach (pathNames path) = .ok (found, entry) := by
  unfold resolve
  rcases tree.reach (pathNames path) with _ | ⟨place, entry⟩ <;> simp

theorem isSome_entry?_of_resolve {path : String} {found : List String}
    (resolved : tree.resolve path = some found) : (tree.entry? found).isSome = true := by
  obtain ⟨entry, reached⟩ := (tree.resolve_eq_some).mp resolved
  rw [((tree.reach_eq_ok).mp reached).2]
  rfl

end Walks

section Writes

variable {tree after : FileTree} {path text : String}

theorem splitName_spec {names : List String} {name : String} (h : splitName path = (names, name))
    (named : name ≠ "") : pathNames path = names ++ [name] := by
  unfold splitName at h
  dsimp only at h
  split at h
  · cases h
    exact absurd rfl named
  · rename_i last before dropped
    have suffix := List.dropWhile_suffix (· == "") (l := (pathNames path).reverse)
    rw [dropped] at suffix
    split at h <;> cases h
    · rename_i whole
      have whole := suffix.eq_of_length (by simpa using whole)
      simpa using congrArg List.reverse whole.symm
    · exact absurd rfl named

/-- A write gives a new content to what the path leads to, which is no directory. -/
theorem write_eq_ok (h : tree.write path text = .ok after) :
    path.utf8ByteSize ≤ maxPath ∧ ∃ place, tree.follow (pathNames path) = .ok place ∧
      tree.entry? place ≠ some .directory ∧ after = tree.put place text.toUTF8 := by
  unfold write at h
  rcases split : splitName path with ⟨names, name⟩
  rw [split] at h
  dsimp only at h
  split at h
  · cases h
  rename_i short
  split at h
  · cases h
  · cases h
  rename_i parent reached
  unfold writeIn at h
  split at h
  · cases h
  rename_i plain
  split at h
  · cases h
  rename_i shortName
  simp only [Bool.or_eq_true, beq_iff_eq, not_or] at plain
  obtain ⟨followed, there⟩ := (reach_eq_ok tree).mp reached
  refine ⟨Nat.not_lt.mp short, parent ++ [name], ?_, ?_⟩
  · rw [splitName_spec split plain.1.1, follow_append tree names plain.1.1, followed]
    show tree.walk parent [name] = _
    rw [walk, there]
    simp [plain, shortName, walk]
  · split at h <;> cases h <;> simp_all

end Writes

end FootprintTemplate.CommandLine.FileTree
