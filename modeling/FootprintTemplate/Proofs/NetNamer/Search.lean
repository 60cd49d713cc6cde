import FootprintTemplate.Proofs.NetNamer

/-! The search for a free name. It looks at the candidate and its numbered forms one after the other
and ends at the first that is not taken. Only finitely many names are taken and all forms differ, so
it looks at one name more than there are taken ones at most. -/
namespace FootprintTemplate.NetNamer

section Loop

/-- A search that goes on from the form of a number: the count of forms it looks at, and the one at
which it ends. -/
inductive Search (taken : List String) (name : String) : Nat → Nat → String → Prop where
  | stop {k : Nat} (free : suffixed name k ∉ taken) : Search taken name k 1 (suffixed name k)
  | next {k probes : Nat} {net : String} (used : suffixed name k ∈ taken)
      (more : Search taken name (k + 1) probes net) : Search taken name k (probes + 1) net

variable {taken : List String} {name : String}

/-- From any form that is not behind it, the search ends at the first free one. -/
theorem search_from {k : Nat} (free : suffixed name k ∉ taken)
    (used : ∀ j < k, suffixed name j ∈ taken) (steps : Nat) (within : steps ≤ k) :
    Search taken name (k - steps) (steps + 1) (suffixed name k) := by
  induction steps with
  | zero => exact .stop free
  | succ steps ih =>
    have later : k - (steps + 1) + 1 = k - steps := by omega
    refine .next (used _ (by omega)) ?_
    rw [later]
    exact ih (by omega)

theorem search_least {k : Nat} (free : suffixed name k ∉ taken)
    (used : ∀ j < k, suffixed name j ∈ taken) :
    Search taken name 0 (k + 1) (suffixed name k) := by
  have whole := search_from free used k (Nat.le_refl k)
  rwa [Nat.sub_self] at whole

/-- Forms that are all taken are as many different taken names. -/
theorem le_length_of_used {k : Nat} (used : ∀ j < k, suffixed name j ∈ taken) :
    k ≤ taken.eraseDups.length := by
  have apart : ((List.range k).map (suffixed name)).Nodup :=
    List.Nodup.map (fun _ _ same => suffixed_inj same) List.nodup_range
  have inside : (List.range k).map (suffixed name) ⊆ taken.eraseDups := by
    intro form member
    obtain ⟨j, below, rfl⟩ := List.mem_map.mp member
    exact List.mem_eraseDups.mpr (used j (List.mem_range.mp below))
  have counted := (List.subperm_of_subset apart inside).length_le
  rwa [List.length_map, List.length_range] at counted

end Loop

section Taken

/-- Targets of overrides, also of those for pads that do not occur. -/
def targets (config : Config) : List String :=
  config.netNameOverrides.map Prod.snd

/-- The names that a run of calls makes up, for the pads without an override. -/
def generated (config : Config) (asked : List String) : List String :=
  ((asked.zip (answers ⟨config, []⟩ asked)).filter fun call =>
    (config.netNameOverrides.lookup call.1).isNone).map Prod.snd

theorem mem_generated {config : Config} {asked : List String} {net : String} :
    net ∈ generated config asked ↔ ∃ pad ∈ asked, config.netNameOverrides.lookup pad = none ∧
      (nameAll ⟨config, []⟩ asked).netOf pad = net := by
  have calls : asked.zip (answers ⟨config, []⟩ asked) =
      asked.map fun pad => (pad, (nameAll ⟨config, []⟩ asked).netOf pad) := by
    rw [answers_eq, List.map_prod_left_eq_zip]
  rw [generated, calls]
  simp [and_assoc]

theorem generated_concat {config : Config} (asked : List String) {pad : String}
    (plain : config.netNameOverrides.lookup pad = none) :
    generated config (asked ++ [pad]) =
      generated config asked ++ [((nameAll ⟨config, []⟩ asked).name pad).1] := by
  have once : (answers ⟨config, []⟩ asked).length = asked.length := by
    rw [answers_eq, List.length_map]
  rw [generated, answers_append, List.zip_append once.symm, List.filter_append, List.map_append]
  simp [generated, answers, plain]

/-- What a namer avoids after a run of calls. -/
theorem mem_takenNames {config : Config} {asked : List String} {net : String} :
    net ∈ (nameAll ⟨config, []⟩ asked).takenNames ↔
      net ∈ targets config ++ generated config asked := by
  have listed := assigned_eq asked (List.prefix_refl (nameAll ⟨config, []⟩ asked).assigned)
  have sound := (sound_start config).nameAll asked
  rw [takenNames, config_nameAll, List.mem_append, List.mem_append, mem_generated]
  refine ⟨?_, ?_⟩
  · rintro (target | entered)
    · exact .inl target
    · obtain ⟨⟨pad, _⟩, member, rfl⟩ := List.mem_map.mp entered
      have own := member
      rw [listed] at own
      obtain ⟨asker, isAsked, same⟩ := List.mem_map.mp own
      cases same
      cases overridden : config.netNameOverrides.lookup pad with
      | none => exact .inr ⟨pad, List.mem_eraseDups.mp isAsked, overridden, rfl⟩
      | some target =>
        have follows := sound.followed pad _ target member (by rwa [config_nameAll])
        exact .inl (List.mem_map.mpr ⟨_, mem_of_lookup overridden, follows.symm⟩)
  · rintro (target | ⟨pad, isAsked, -, rfl⟩)
    · exact .inl target
    · have entered : (pad, (nameAll ⟨config, []⟩ asked).netOf pad) ∈
          asked.eraseDups.map fun pad => (pad, (nameAll ⟨config, []⟩ asked).netOf pad) :=
        List.mem_map.mpr ⟨pad, List.mem_eraseDups.mpr isAsked, rfl⟩
      rw [← listed] at entered
      exact .inr (List.mem_map.mpr ⟨_, entered, rfl⟩)

end Taken

section Least

theorem candidate_eq (config : Config) (pad : String) :
    candidate config pad =
      if config.prefixNumberPadsOnly = false ∨
          pad.toList.head?.any (fun c => '0' ≤ c ∧ c ≤ '9') = true then
        config.padPrefix ++ pad
      else pad := by
  have digit : startsWithDigit pad = pad.toList.head?.any fun c => '0' ≤ c ∧ c ≤ '9' := by
    unfold startsWithDigit
    split
    · rename_i c rest shape
      rw [shape]
      simp [Char.isDigit, Char.le_def]
    · rename_i shape
      rw [shape]
      rfl
  simp only [candidate, digit, Bool.or_eq_true, Bool.not_eq_true']

/-- A pad that is new and has no override gets its candidate if that is neither a target nor made up
before, and otherwise its first numbered form of which this holds. The search looks at one name more
than there are taken ones at most, and what it finds is taken from then on. -/
theorem name_least_free (config : Config) (asked : List String) (pad : String)
    (plain : config.netNameOverrides.lookup pad = none)
    (new : (nameAll ⟨config, []⟩ asked).assigned.lookup pad = none) :
    let net := ((nameAll ⟨config, []⟩ asked).name pad).1
    let taken := targets config ++ generated config asked
    let base :=
      if config.prefixNumberPadsOnly = false ∨
          pad.toList.head?.any (fun c => '0' ≤ c ∧ c ≤ '9') = true then
        config.padPrefix ++ pad
      else pad
    (base ∉ taken → net = base) ∧
      (base ∈ taken → ∃ k, 1 ≤ k ∧ net = base ++ "_" ++ toString k ∧ net ∉ taken ∧
        ∀ j, 1 ≤ j → j < k → base ++ "_" ++ toString j ∈ taken) ∧
      (∃ probes ≤ taken.eraseDups.length + 1, Search taken base 0 probes net) ∧
      targets config ++ generated config (asked ++ [pad]) = taken ++ [net] ∧
      ∀ other, other ∈ ((nameAll ⟨config, []⟩ asked).name pad).2.takenNames ↔
        other = net ∨ other ∈ taken := by
  intro net taken base
  have isBase : base = candidate config pad := (candidate_eq config pad).symm
  obtain ⟨k, -, found, free, used⟩ :=
    firstFree_spec (nameAll ⟨config, []⟩ asked).takenNames base
  have call : (nameAll ⟨config, []⟩ asked).name pad =
      (suffixed base k, (nameAll ⟨config, []⟩ asked).assign pad (suffixed base k)) := by
    rw [name, config_nameAll, plain, new, ← isBase, found]
  have named : net = suffixed base k := congrArg Prod.fst call
  replace free : suffixed base k ∉ taken := fun member => free (mem_takenNames.mpr member)
  replace used : ∀ j < k, suffixed base j ∈ taken := fun j before =>
    mem_takenNames.mp (used j before)
  refine ⟨fun untaken => ?_, fun isTaken => ?_, ?_, ?_, fun other => ?_⟩
  · cases k with
    | zero => exact named
    | succ k => exact absurd (used 0 (Nat.succ_pos k)) untaken
  · cases k with
    | zero => exact absurd isTaken free
    | succ k =>
      refine ⟨k + 1, Nat.succ_pos k, named, named ▸ free, fun j positive before => ?_⟩
      obtain ⟨i, rfl⟩ := Nat.exists_eq_add_of_le' positive
      exact used (i + 1) before
  · exact ⟨k + 1, Nat.succ_le_succ (le_length_of_used used), named ▸ search_least free used⟩
  · rw [generated_concat asked plain, ← List.append_assoc]
  · have after : other ∈ (nameAll ⟨config, []⟩ (asked ++ [pad])).takenNames ↔
        other ∈ targets config ++ generated config (asked ++ [pad]) := mem_takenNames
    rw [nameAll_append, nameAll_singleton, generated_concat asked plain, ← List.append_assoc,
      List.mem_append, List.mem_singleton] at after
    exact after.trans or_comm

def crowdedConfig : Config where
  netNameOverrides := [("8", "P1"), ("9", "P1_2")]

/-- The candidate of pad `1` is the target of an override, and so is its second form; its first form
was made up for another pad. -/
theorem name_least_free_crowdedPads :
    crowdedConfig.netNameOverrides.lookup "1" = none ∧
      (nameAll ⟨crowdedConfig, []⟩ ["P1_1", "9"]).assigned.lookup "1" = none ∧
      targets crowdedConfig ++ generated crowdedConfig ["P1_1", "9"] = ["P1", "P1_2", "P1_1"] ∧
      ((nameAll ⟨crowdedConfig, []⟩ ["P1_1", "9"]).name "1").1 = "P1_3" ∧
      (∃ probes ≤ 4, Search ["P1", "P1_2", "P1_1"] "P1" 0 probes "P1_3") ∧
      "P1_3" ∈ ((nameAll ⟨crowdedConfig, []⟩ ["P1_1", "9"]).name "1").2.takenNames := by
  have net : ((nameAll ⟨crowdedConfig, []⟩ ["P1_1", "9"]).name "1").1 = "P1_3" := by decide
  have taken : targets crowdedConfig ++ generated crowdedConfig ["P1_1", "9"] =
      ["P1", "P1_2", "P1_1"] := by decide
  obtain ⟨-, -, search, -, after⟩ :=
    name_least_free crowdedConfig ["P1_1", "9"] "1" (by decide) (by decide)
  have count : ["P1", "P1_2", "P1_1"].eraseDups.length = 3 := by decide
  rw [taken, net, count] at search
  exact ⟨by decide, by decide, taken, net, search, (after "P1_3").mpr (.inl net.symm)⟩

end Least

end FootprintTemplate.NetNamer
