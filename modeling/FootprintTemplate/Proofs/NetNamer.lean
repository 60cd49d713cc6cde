import FootprintTemplate.NetNamer
import Mathlib.Data.List.Induction
import Mathlib.Data.List.Nodup
import Mathlib.Data.List.Perm.Subperm

/-! Names of nets over a whole run. Names are only ever added, and every pad that was asked for has
one among the declared names. A name is shared only by pads that are overridden to it. -/
namespace FootprintTemplate.NetNamer

theorem assigned_prefix_name (namer : NetNamer) (pad : String) :
    namer.assigned <+: (namer.name pad).2.assigned := by
  unfold name
  split
  · exact List.prefix_append _ _
  · exact List.prefix_rfl
  · exact List.prefix_rfl
  · exact List.prefix_append _ _

theorem assigned_prefix_nameAll (namer : NetNamer) (pads : List String) :
    namer.assigned <+: (namer.nameAll pads).assigned := by
  induction pads generalizing namer with
  | nil => exact List.prefix_rfl
  | cons pad rest ih => exact (assigned_prefix_name namer pad).trans (ih (namer.name pad).2)

theorem isSome_lookup_name (namer : NetNamer) (pad : String) :
    ((namer.name pad).2.assigned.lookup pad).isSome = true := by
  unfold name
  split
  · simp [assign]
  · rename_i assigned
    simp [assigned]
  · rename_i assigned
    simp [assigned]
  · simp [assign]

theorem isSome_lookup_nameAll {namer : NetNamer} {pads : List String} {pad : String}
    (asked : pad ∈ pads) : ((namer.nameAll pads).assigned.lookup pad).isSome = true := by
  induction pads generalizing namer with
  | nil => cases asked
  | cons other rest ih =>
    rcases List.mem_cons.mp asked with rfl | asked
    · obtain ⟨net, found⟩ := Option.isSome_iff_exists.mp (isSome_lookup_name namer pad)
      exact Option.isSome_iff_exists.mpr
        ⟨net, (assigned_prefix_nameAll (namer.name pad).2 rest).lookup_eq_some found⟩
    · exact ih asked

theorem mem_paramNames {namer : NetNamer} {net : String} :
    net ∈ namer.paramNames ↔ ∃ pad, (pad, net) ∈ namer.assigned := by
  rw [paramNames, List.mem_mergeSort, List.mem_eraseDups, List.mem_map]
  constructor
  · rintro ⟨⟨pad, _⟩, entered, rfl⟩
    exact ⟨pad, entered⟩
  · rintro ⟨pad, entered⟩
    exact ⟨_, entered, rfl⟩

theorem mem_of_lookup {entries : List (String × String)} {pad net : String}
    (found : entries.lookup pad = some net) : (pad, net) ∈ entries := by
  obtain ⟨before, after, split, -⟩ := List.lookup_eq_some_iff.mp found
  rw [split]
  exact List.mem_append_right before List.mem_cons_self

theorem netOf_mem_paramNames {namer : NetNamer} {pad : String}
    (assigned : (namer.assigned.lookup pad).isSome = true) :
    namer.netOf pad ∈ namer.paramNames := by
  obtain ⟨net, found⟩ := Option.isSome_iff_exists.mp assigned
  rw [netOf, found, Option.getD_some]
  exact mem_paramNames.mpr ⟨pad, mem_of_lookup found⟩

section Free

theorem length_lt_suffixed (name : String) (k : Nat) :
    name.length < (suffixed name (k + 1)).length := by
  have point : "_".length = 1 := rfl
  simp only [suffixed, String.length_append, point]
  omega

theorem suffixed_inj {name : String} {j k : Nat} (same : suffixed name j = suffixed name k) :
    j = k := by
  cases j with
  | zero =>
    cases k with
    | zero => rfl
    | succ k =>
      have longer := length_lt_suffixed name k
      rw [← same] at longer
      exact absurd longer (Nat.lt_irrefl _)
  | succ j =>
    cases k with
    | zero =>
      have longer := length_lt_suffixed name j
      rw [same] at longer
      exact absurd longer (Nat.lt_irrefl _)
    | succ k =>
      have ends : (j + 1).repr = (k + 1).repr := (String.append_right_inj (name ++ "_")).mp same
      rw [Nat.repr_eq_ofList_toDigits, Nat.repr_eq_ofList_toDigits, String.ofList_inj] at ends
      have read := congrArg (Nat.ofDigitChars 10 · 0) ends
      simpa only [Nat.ofDigitChars_ten_toDigits, Nat.add_right_cancel_iff] using read

/-- One more name than there are taken ones, all of them different: one is free. -/
theorem exists_free (taken : List String) (name : String) :
    ∃ k ∈ List.range (taken.length + 1), suffixed name k ∉ taken := by
  by_contra none
  push Not at none
  have apart : ((List.range (taken.length + 1)).map (suffixed name)).Nodup :=
    List.Nodup.map (fun _ _ same => suffixed_inj same) List.nodup_range
  have inside : (List.range (taken.length + 1)).map (suffixed name) ⊆ taken := by
    intro candidate member
    obtain ⟨k, below, rfl⟩ := List.mem_map.mp member
    exact none k below
  have counted := (List.subperm_of_subset apart inside).length_le
  rw [List.length_map, List.length_range] at counted
  omega

/-- The search ends at the first name of the sequence that is not taken. -/
theorem firstFree_spec (taken : List String) (name : String) :
    ∃ k ≤ taken.length, firstFree taken name = suffixed name k ∧ suffixed name k ∉ taken ∧
      ∀ j < k, suffixed name j ∈ taken := by
  obtain ⟨free, below, isFree⟩ := exists_free taken name
  have found : ((List.range (taken.length + 1)).find? fun k =>
      !taken.contains (suffixed name k)).isSome = true := by
    rw [List.find?_isSome]
    exact ⟨free, below, by simpa using isFree⟩
  obtain ⟨k, first⟩ := Option.isSome_iff_exists.mp found
  obtain ⟨fits, inRange, before⟩ := List.find?_range_eq_some.mp first
  refine ⟨k, Nat.lt_succ_iff.mp (List.mem_range.mp inRange), ?_, by simpa using fits, ?_⟩
  · rw [firstFree, first, Option.getD_some]
  · intro j earlier
    simpa using before j earlier

end Free

section Runs

variable {namer : NetNamer} {config : Config}

/-- The names that calls for these pads give, one after the other. -/
def answers (namer : NetNamer) : List String → List String
  | [] => []
  | pad :: rest => (namer.name pad).1 :: answers (namer.name pad).2 rest

/-- A name for a pad that has none yet: the target of its override, or else one in use nowhere. -/
def Fits (namer : NetNamer) (pad net : String) : Prop :=
  namer.config.netNameOverrides.lookup pad = some net ∨
    namer.config.netNameOverrides.lookup pad = none ∧ net ∉ namer.takenNames

/-- A call enters a pad that is new, and changes nothing for another. -/
theorem name_cases (namer : NetNamer) (pad : String) :
    (∃ net, namer.assigned.lookup pad = some net ∧
      namer.name pad = ((namer.config.netNameOverrides.lookup pad).getD net, namer)) ∨
    (namer.assigned.lookup pad = none ∧
      ∃ net, namer.Fits pad net ∧ namer.name pad = (net, namer.assign pad net)) := by
  unfold name
  split
  · rename_i target overridden new
    exact .inr ⟨new, target, .inl overridden, rfl⟩
  · rename_i target net overridden known
    exact .inl ⟨net, known, by rw [overridden, Option.getD_some]⟩
  · rename_i net plain known
    exact .inl ⟨net, known, by rw [plain, Option.getD_none]⟩
  · rename_i plain new
    obtain ⟨k, -, found, free, -⟩ := firstFree_spec namer.takenNames (candidate namer.config pad)
    exact .inr ⟨new, _, .inr ⟨plain, found ▸ free⟩, rfl⟩

@[simp]
theorem config_name (namer : NetNamer) (pad : String) :
    (namer.name pad).2.config = namer.config := by
  rcases name_cases namer pad with ⟨net, -, call⟩ | ⟨-, net, -, call⟩ <;> rw [call]
  rfl

@[simp]
theorem config_nameAll (namer : NetNamer) (pads : List String) :
    (namer.nameAll pads).config = namer.config := by
  induction pads generalizing namer with
  | nil => rfl
  | cons pad rest ih => exact (ih (namer.name pad).2).trans (config_name namer pad)

/-- What calls keep: overrides are followed, no other name is a target, and a name is shared only by
pads that are overridden to it. -/
structure Sound (namer : NetNamer) : Prop where
  followed : ∀ pad net target, (pad, net) ∈ namer.assigned →
    namer.config.netNameOverrides.lookup pad = some target → net = target
  reserved : ∀ pad net, (pad, net) ∈ namer.assigned →
    namer.config.netNameOverrides.lookup pad = none →
      net ∉ namer.config.netNameOverrides.map Prod.snd
  shared : ∀ first second net, (first, net) ∈ namer.assigned → (second, net) ∈ namer.assigned →
    first ≠ second → namer.config.netNameOverrides.lookup first = some net ∧
      namer.config.netNameOverrides.lookup second = some net

theorem sound_start (config : Config) : Sound ⟨config, []⟩ :=
  ⟨fun _ _ _ entered => (nomatch entered), fun _ _ entered => (nomatch entered),
    fun _ _ _ entered => (nomatch entered)⟩

/-- A name that fits a new pad is shared with an entered one only where both are overridden. -/
theorem Sound.fits_shared (sound : Sound namer) {pad other net : String}
    (fits : namer.Fits pad net) (entered : (other, net) ∈ namer.assigned) :
    namer.config.netNameOverrides.lookup pad = some net ∧
      namer.config.netNameOverrides.lookup other = some net := by
  rcases fits with overridden | ⟨-, free⟩
  · refine ⟨overridden, ?_⟩
    cases target : namer.config.netNameOverrides.lookup other with
    | some net' => rw [sound.followed other net net' entered target]
    | none =>
      have isTarget : net ∈ namer.config.netNameOverrides.map Prod.snd :=
        List.mem_map.mpr ⟨_, mem_of_lookup overridden, rfl⟩
      exact absurd isTarget (sound.reserved other net entered target)
  · exact absurd (List.mem_append_right _ (List.mem_map.mpr ⟨_, entered, rfl⟩)) free

theorem Sound.assign (sound : Sound namer) {pad net : String} (fits : namer.Fits pad net) :
    Sound (namer.assign pad net) := by
  have entered {other name : String} (member : (other, name) ∈ (namer.assign pad net).assigned) :
      (other, name) ∈ namer.assigned ∨ other = pad ∧ name = net := by
    simpa [NetNamer.assign] using member
  refine ⟨fun other name target member overridden => ?_, fun other name member plain => ?_,
    fun first second name one two apart => ?_⟩
  · rcases entered member with old | ⟨rfl, rfl⟩
    · exact sound.followed other name target old overridden
    · rcases fits with follows | ⟨plain, -⟩
      · exact Option.some.inj (follows.symm.trans overridden)
      · rw [show (namer.assign other name).config = namer.config from rfl, plain] at overridden
        cases overridden
  · rcases entered member with old | ⟨rfl, rfl⟩
    · exact sound.reserved other name old plain
    · rcases fits with follows | ⟨-, free⟩
      · rw [show (namer.assign other name).config = namer.config from rfl, follows] at plain
        cases plain
      · exact fun isTarget => free (List.mem_append_left _ isTarget)
  · rcases entered one with old | ⟨rfl, rfl⟩
    · rcases entered two with old' | ⟨rfl, rfl⟩
      · exact sound.shared first second name old old' apart
      · exact (sound.fits_shared fits old).symm
    · rcases entered two with old' | ⟨rfl, -⟩
      · exact sound.fits_shared fits old'
      · exact absurd rfl apart

theorem Sound.name (sound : Sound namer) (pad : String) : Sound (namer.name pad).2 := by
  rcases name_cases namer pad with ⟨net, -, call⟩ | ⟨-, net, fits, call⟩
  · rwa [call]
  · rw [call]
    exact sound.assign fits

theorem Sound.nameAll (sound : Sound namer) (pads : List String) : Sound (namer.nameAll pads) := by
  induction pads generalizing namer with
  | nil => exact sound
  | cons pad rest ih => exact ih (sound.name pad)

theorem Sound.answer (sound : Sound namer) (pad : String) :
    (namer.name pad).2.assigned.lookup pad = some (namer.name pad).1 := by
  rcases name_cases namer pad with ⟨net, known, call⟩ | ⟨new, net, -, call⟩
  · rw [call, known]
    cases target : namer.config.netNameOverrides.lookup pad with
    | none => rfl
    | some name =>
      rw [sound.followed pad net name (mem_of_lookup known) target, Option.getD_some]
  · rw [call, NetNamer.assign, List.lookup_append, new]
    simp


theorem isSome_lookup_iff (namer : NetNamer) (pad : String) :
    (namer.assigned.lookup pad).isSome = true ↔ pad ∈ namer.assigned.map Prod.fst := by
  rw [List.lookup_isSome_iff, List.mem_map]
  exact exists_congr fun entry => and_congr_right fun _ => beq_iff_eq.trans eq_comm

theorem fst_name (namer : NetNamer) (pad : String) :
    (namer.name pad).2.assigned.map Prod.fst =
      if pad ∈ namer.assigned.map Prod.fst then namer.assigned.map Prod.fst
      else namer.assigned.map Prod.fst ++ [pad] := by
  have known := isSome_lookup_iff namer pad
  rcases name_cases namer pad with ⟨net, found, call⟩ | ⟨new, net, -, call⟩
  · rw [found] at known
    rw [call, if_pos (known.mp rfl)]
  · rw [new] at known
    rw [call, if_neg fun member => (nomatch known.mpr member)]
    simp [NetNamer.assign]

theorem nameAll_append (namer : NetNamer) (asked more : List String) :
    namer.nameAll (asked ++ more) = (namer.nameAll asked).nameAll more :=
  List.foldl_append

theorem nameAll_singleton (namer : NetNamer) (pad : String) :
    namer.nameAll [pad] = (namer.name pad).2 := rfl

theorem answers_append (namer : NetNamer) (asked more : List String) :
    namer.answers (asked ++ more) = namer.answers asked ++ (namer.nameAll asked).answers more := by
  induction asked generalizing namer with
  | nil => rfl
  | cons pad rest ih => exact congrArg ((namer.name pad).1 :: ·) (ih (namer.name pad).2)

theorem eraseDups_concat (asked : List String) (pad : String) :
    (asked ++ [pad]).eraseDups =
      if pad ∈ asked then asked.eraseDups else asked.eraseDups ++ [pad] := by
  rw [List.eraseDups_append]
  split <;> rename_i known <;> simp [List.removeAll, List.eraseDups_cons, known]

theorem nodup_eraseDups (pads : List String) : pads.eraseDups.Nodup := by
  induction pads using List.reverseRecOn with
  | nil => exact List.nodup_nil
  | append_singleton asked pad ih =>
    rw [eraseDups_concat]
    split
    · exact ih
    · rename_i new
      refine List.Nodup.append ih (List.nodup_singleton pad) ?_
      simpa using new

theorem fst_nameAll (config : Config) (pads : List String) :
    (nameAll ⟨config, []⟩ pads).assigned.map Prod.fst = pads.eraseDups := by
  induction pads using List.reverseRecOn with
  | nil => rfl
  | append_singleton asked pad ih =>
    rw [nameAll_append, nameAll_singleton, eraseDups_concat, fst_name, ih]
    simp only [List.mem_eraseDups]

theorem map_lookup {entries : List (String × String)} (once : (entries.map Prod.fst).Nodup) :
    (entries.map Prod.fst).map (fun pad => (pad, (entries.lookup pad).getD "")) = entries := by
  induction entries with
  | nil => rfl
  | cons entry rest ih =>
    obtain ⟨pad, net⟩ := entry
    obtain ⟨new, once⟩ := List.nodup_cons.mp once
    simp only [List.map_cons, List.lookup_cons_self, Option.getD_some, List.cons.injEq, true_and]
    refine Eq.trans (List.map_congr_left fun other member => ?_) (ih once)
    have apart : (other == pad) = false := by
      refine beq_false_of_ne ?_
      rintro rfl
      exact new member
    rw [List.lookup_cons, apart]

theorem netOf_stays {namer later : NetNamer} (stays : namer.assigned <+: later.assigned)
    {pad : String} (known : pad ∈ namer.assigned.map Prod.fst) :
    later.netOf pad = namer.netOf pad := by
  obtain ⟨net, found⟩ := Option.isSome_iff_exists.mp ((isSome_lookup_iff namer pad).mpr known)
  rw [netOf, netOf, found, stays.lookup_eq_some found]

theorem answers_eq (config : Config) (pads : List String) :
    answers ⟨config, []⟩ pads = pads.map (nameAll ⟨config, []⟩ pads).netOf := by
  induction pads using List.reverseRecOn with
  | nil => rfl
  | append_singleton asked pad ih =>
    have sound := (sound_start config).nameAll asked
    have stays := assigned_prefix_name (nameAll ⟨config, []⟩ asked) pad
    rw [answers_append, nameAll_append, nameAll_singleton, ih, List.map_append]
    refine congrArg₂ (· ++ ·) (List.map_congr_left fun other member => ?_) ?_
    · refine (netOf_stays stays ?_).symm
      rw [fst_nameAll]
      exact List.mem_eraseDups.mpr member
    · rw [answers, answers, List.map_singleton, netOf, sound.answer pad, Option.getD_some]

theorem increasing_of_sorted {names : List String} (sorted : names.Pairwise (· ≤ ·))
    (once : names.Nodup) : names.Pairwise (· < ·) := by
  refine (sorted.and once).imp fun {name other} => ?_
  rintro ⟨before, apart⟩
  exact String.not_le.mp fun after => apart (String.le_antisymm before after)

theorem paramNames_increasing (namer : NetNamer) : namer.paramNames.Pairwise (· < ·) := by
  have sorted : namer.paramNames.Pairwise fun net other => decide (net ≤ other) = true :=
    List.pairwise_mergeSort
      (fun _ _ _ one two => by simpa using String.le_trans (by simpa using one) (by simpa using two))
      (fun net other => by simpa using String.le_total net other) _
  have once : namer.paramNames.Nodup :=
    (List.mergeSort_perm _ _).nodup_iff.mpr (nodup_eraseDups _)
  exact increasing_of_sorted (sorted.imp of_decide_eq_true) once

theorem assigned_eq {config : Config} (asked : List String) {later : NetNamer}
    (stays : (nameAll ⟨config, []⟩ asked).assigned <+: later.assigned) :
    (nameAll ⟨config, []⟩ asked).assigned =
      asked.eraseDups.map fun pad => (pad, later.netOf pad) := by
  have pads := fst_nameAll config asked
  have once : ((nameAll ⟨config, []⟩ asked).assigned.map Prod.fst).Nodup :=
    pads ▸ nodup_eraseDups asked
  rw [← pads]
  refine (map_lookup once).symm.trans (List.map_congr_left fun pad member => ?_)
  rw [netOf_stays stays member, netOf]

/-- A run of calls gives each pad one name. Pads share a name only where both are overridden to it.
After any number of calls, the namer holds the pads asked for so far in the order of first asking,
with the names that they keep to the end, and declares these names in increasing order. -/
theorem run_names (config : Config) (pads : List String) :
    let last := nameAll ⟨config, []⟩ pads
    answers ⟨config, []⟩ pads = pads.map last.netOf ∧
      (∀ first ∈ pads, ∀ second ∈ pads, first ≠ second → last.netOf first = last.netOf second →
        config.netNameOverrides.lookup first = some (last.netOf first) ∧
          config.netNameOverrides.lookup second = some (last.netOf first)) ∧
      ∀ asked, asked <+: pads →
        let namer := nameAll ⟨config, []⟩ asked
        namer.assigned = asked.eraseDups.map (fun pad => (pad, last.netOf pad)) ∧
          namer.assigned <+: last.assigned ∧
          namer.paramNames.Pairwise (· < ·) ∧
          ∀ net, net ∈ namer.paramNames ↔ ∃ pad ∈ asked, last.netOf pad = net := by
  intro last
  have sound : Sound last := (sound_start config).nameAll pads
  have entered {pad : String} (asked : pad ∈ pads) : (pad, last.netOf pad) ∈ last.assigned := by
    obtain ⟨net, found⟩ := Option.isSome_iff_exists.mp (isSome_lookup_nameAll asked)
    rw [netOf, found, Option.getD_some]
    exact mem_of_lookup found
  refine ⟨answers_eq config pads, ?_, ?_⟩
  · intro first one second two apart same
    have shared := sound.shared first second _ (entered one) (same ▸ entered two) apart
    rwa [config_nameAll] at shared
  · rintro asked ⟨more, rfl⟩ namer
    have stays : namer.assigned <+: last.assigned := by
      rw [show last = namer.nameAll more from nameAll_append _ asked more]
      exact assigned_prefix_nameAll namer more
    have listed : namer.assigned = asked.eraseDups.map fun pad => (pad, last.netOf pad) :=
      assigned_eq asked stays
    refine ⟨listed, stays, paramNames_increasing namer, fun net => ?_⟩
    rw [mem_paramNames, listed]
    simp

def groundConfig : Config where
  netNameOverrides := [("1", "GND"), ("3", "GND")]

/-- Two pads overridden to one net, a pad with the name of that net, and a pad asked for twice. -/
def groundPads : List String :=
  ["1", "GND", "2", "3", "1"]

theorem netOf_groundPads :
    groundPads.map (nameAll ⟨groundConfig, []⟩ groundPads).netOf =
      ["GND", "GND_1", "P2", "GND", "GND"] := by decide

theorem run_names_groundPads :
    "1" ∈ groundPads ∧ "3" ∈ groundPads ∧ "1" ≠ "3" ∧ ["1", "GND", "2"] <+: groundPads ∧
      answers ⟨groundConfig, []⟩ groundPads = ["GND", "GND_1", "P2", "GND", "GND"] ∧
      groundConfig.netNameOverrides.lookup "1" = some "GND" ∧
      groundConfig.netNameOverrides.lookup "3" = some "GND" ∧
      (nameAll ⟨groundConfig, []⟩ ["1", "GND", "2"]).assigned =
        [("1", "GND"), ("GND", "GND_1"), ("2", "P2")] ∧
      ∀ net, net ∈ (nameAll ⟨groundConfig, []⟩ ["1", "GND", "2"]).paramNames ↔
        net = "GND" ∨ net = "GND_1" ∨ net = "P2" := by
  have early : ["1", "GND", "2"] <+: groundPads := ⟨["3", "1"], rfl⟩
  have nets := netOf_groundPads
  simp only [groundPads, List.map_cons, List.map_nil, List.cons.injEq] at nets
  obtain ⟨first, second, third, fourth, -⟩ := nets
  obtain ⟨given, shared, after⟩ := run_names groundConfig groundPads
  have targets := shared "1" (by decide) "3" (by decide) (by decide) (first.trans fourth.symm)
  obtain ⟨listed, -, -, declared⟩ := after ["1", "GND", "2"] early
  refine ⟨by decide, by decide, by decide, early, given.trans netOf_groundPads,
    targets.1.trans (congrArg some first), targets.2.trans (congrArg some first), ?_, fun net => ?_⟩
  · rw [listed, show ["1", "GND", "2"].eraseDups = ["1", "GND", "2"] from rfl]
    simp only [groundPads, List.map_cons, List.map_nil, first, second, third]
  · rw [declared net]
    simp only [groundPads, List.mem_cons, List.not_mem_nil, or_false, exists_eq_or_imp,
      exists_eq_left, first, second, third, eq_comm (b := net)]

end Runs

end FootprintTemplate.NetNamer
