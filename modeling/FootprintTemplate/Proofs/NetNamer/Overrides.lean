import FootprintTemplate.CommandLine.Run
import FootprintTemplate.Proofs.NetNamer

/-! Overrides as a finite map. Names, parameters and modules depend on what is found for each pad, not
on the order in which the overrides stand. -/
namespace FootprintTemplate

section Map

/-- Each pad stands once. -/
def Overrides.Once (overrides : Overrides) : Prop :=
  (overrides.map Prod.fst).Nodup

theorem Overrides.mem_insert {overrides : Overrides} {pad net other : String}
    (member : other ∈ (overrides.insert pad net).map Prod.fst) :
    other = pad ∨ other ∈ overrides.map Prod.fst := by
  fun_induction Overrides.insert pad net overrides with
  | case1 => exact .inl (List.mem_singleton.mp member)
  | case2 key old rest same =>
    rcases List.mem_cons.mp member with rfl | member
    · exact .inl rfl
    · exact .inr (List.mem_cons_of_mem _ member)
  | case3 key old rest same ih =>
    rcases List.mem_cons.mp member with rfl | member
    · exact .inr List.mem_cons_self
    · exact (ih member).imp_right (List.mem_cons_of_mem _)

theorem Overrides.Once.insert {overrides : Overrides} (once : overrides.Once) (pad net : String) :
    (overrides.insert pad net).Once := by
  fun_induction Overrides.insert pad net overrides with
  | case1 => exact List.nodup_singleton pad
  | case2 key old rest same =>
    cases beq_iff_eq.mp same
    exact once
  | case3 key old rest same ih =>
    obtain ⟨new, more⟩ := List.nodup_cons.mp once
    refine List.nodup_cons.mpr ⟨fun member => ?_, ih more⟩
    rcases Overrides.mem_insert member with rfl | member
    · exact same (beq_self_eq_true _)
    · exact new member

/-- The overrides once more pairs are given, one after the other. -/
def Overrides.update (overrides : Overrides) (pairs : List (String × String)) : Overrides :=
  pairs.foldl (fun overrides pair => overrides.insert pair.1 pair.2) overrides

theorem Overrides.Once.update {overrides : Overrides} (once : overrides.Once)
    (pairs : List (String × String)) : (overrides.update pairs).Once := by
  induction pairs generalizing overrides with
  | nil => exact once
  | cons pair rest ih => exact ih (once.insert pair.1 pair.2)

theorem Overrides.once_nil : Overrides.Once [] :=
  List.nodup_nil

theorem Overrides.once_ofPairs (pairs : List (String × String)) : (Overrides.ofPairs pairs).Once :=
  Overrides.once_nil.update pairs

/-- The pairs that name one pad. -/
def pairsOf (pad : String) (pairs : List (String × String)) : List (String × String) :=
  pairs.filter (·.1 == pad)

/-- The last pair of a pad decides, and without one what was there before. -/
theorem Overrides.lookup_update (overrides : Overrides) (pairs : List (String × String))
    (pad : String) :
    (overrides.update pairs).lookup pad =
      ((pairsOf pad pairs).getLast?.map Prod.snd).or (overrides.lookup pad) := by
  induction pairs using List.reverseRecOn with
  | nil => rfl
  | append_singleton before pair ih =>
    obtain ⟨own, net⟩ := pair
    have last : overrides.update (before ++ [(own, net)]) =
        (overrides.update before).insert own net := by
      simp [Overrides.update]
    rw [last, Overrides.lookup_insert, ih]
    by_cases same : pad = own
    · subst same
      simp [pairsOf]
    · simp [pairsOf, Ne.symm same, same]

/-- Lists of pairs in which each pad is given the same nets in the same order. -/
def SamePairs (pairs others : List (String × String)) : Prop :=
  ∀ pad, pairsOf pad others = pairsOf pad pairs

theorem samePairs_swap {pair other : String × String} (apart : pair.1 ≠ other.1) :
    SamePairs [pair, other] [other, pair] := by
  intro pad
  by_cases own : pair.1 = pad
  · subst own
    simp [pairsOf, Ne.symm apart]
  · simp [pairsOf, List.filter_cons, own]

theorem SamePairs.append {pairs others : List (String × String)} (same : SamePairs pairs others)
    (more : List (String × String)) : SamePairs (pairs ++ more) (others ++ more) := by
  intro pad
  have own := same pad
  rw [pairsOf, pairsOf] at own
  rw [pairsOf, pairsOf, List.filter_append, List.filter_append, own]

theorem Overrides.lookup_congr {overrides more : Overrides} {pairs others : List (String × String)}
    (same : ∀ pad, more.lookup pad = overrides.lookup pad) (pairwise : SamePairs pairs others)
    (pad : String) : (more.update others).lookup pad = (overrides.update pairs).lookup pad := by
  rw [Overrides.lookup_update, Overrides.lookup_update, pairwise, same]

theorem Overrides.Once.mem_iff {overrides : Overrides} (once : overrides.Once) {pad net : String} :
    (pad, net) ∈ overrides ↔ overrides.lookup pad = some net := by
  refine ⟨fun member => ?_, NetNamer.mem_of_lookup⟩
  induction overrides with
  | nil => cases member
  | cons entry rest ih =>
    obtain ⟨own, old⟩ := entry
    obtain ⟨new, more⟩ := List.nodup_cons.mp once
    rcases List.mem_cons.mp member with same | later
    · cases same
      exact List.lookup_cons_self
    · have apart : (pad == own) = false := by
        refine beq_false_of_ne ?_
        rintro rfl
        exact new (List.mem_map.mpr ⟨_, later, rfl⟩)
      rw [List.lookup_cons, apart]
      exact ih more later

/-- What is the same map holds the same pairs. -/
theorem Overrides.Once.perm {overrides others : Overrides} (once : overrides.Once)
    (onceToo : others.Once) (same : ∀ pad, others.lookup pad = overrides.lookup pad) :
    overrides.Perm others := by
  refine (List.perm_ext_iff_of_nodup once.of_map onceToo.of_map).mpr fun pair => ?_
  rw [once.mem_iff, onceToo.mem_iff, same]

end Map

section Names

/-- Settings that differ at most in the order of the overrides. -/
structure Config.Alike (config other : Config) : Prop where
  padPrefix : other.padPrefix = config.padPrefix
  prefixNumberPadsOnly : other.prefixNumberPadsOnly = config.prefixNumberPadsOnly
  designator : other.designator = config.designator
  overrides : ∀ pad, other.netNameOverrides.lookup pad = config.netNameOverrides.lookup pad
  once : config.netNameOverrides.Once
  onceToo : other.netNameOverrides.Once

theorem NetNamer.firstFree_perm {taken others : List String} (perm : taken.Perm others)
    (name : String) : firstFree others name = firstFree taken name := by
  have same (net : String) : others.contains net = taken.contains net := by
    rw [Bool.eq_iff_iff, List.contains_iff_mem, List.contains_iff_mem, perm.mem_iff]
  simp only [firstFree, perm.length_eq, same]

variable {config other : Config} (alike : config.Alike other)
include alike

theorem Config.Alike.candidate (pad : String) :
    NetNamer.candidate other pad = NetNamer.candidate config pad := by
  rw [NetNamer.candidate, NetNamer.candidate, alike.padPrefix, alike.prefixNumberPadsOnly]

/-- A namer with the other settings gives a pad the same name, and remembers the same. -/
theorem Config.Alike.name {namer : NetNamer} (own : namer.config = config) (pad : String) :
    NetNamer.name { namer with config := other } pad =
      ((namer.name pad).1, { (namer.name pad).2 with config := other }) := by
  have perm := alike.once.perm alike.onceToo alike.overrides
  have taken : (NetNamer.takenNames namer).Perm
      (NetNamer.takenNames { namer with config := other }) := by
    rw [NetNamer.takenNames, own]
    exact (perm.map Prod.snd).append_right _
  unfold NetNamer.name
  simp only [alike.overrides, own]
  cases config.netNameOverrides.lookup pad <;> cases namer.assigned.lookup pad
  case none.none =>
    simp only [NetNamer.assign, NetNamer.firstFree_perm taken, alike.candidate]
  all_goals rfl

theorem Config.Alike.nameAll {namer : NetNamer} (own : namer.config = config)
    (pads : List String) :
    NetNamer.nameAll { namer with config := other } pads =
      { namer.nameAll pads with config := other } := by
  induction pads generalizing namer with
  | nil => rfl
  | cons pad rest ih =>
    show NetNamer.nameAll (NetNamer.name { namer with config := other } pad).2 rest = _
    rw [alike.name own]
    exact ih ((namer.config_name pad).trans own)

/-- Overrides count only as a finite map: a conversion has the same module and the same net map. -/
theorem Config.Alike.convert (footprint : Sexpr.Node) :
    FootprintTemplate.convert other footprint =
      (FootprintTemplate.convert config footprint).map fun conversion =>
        { conversion with namer := { conversion.namer with config := other } } := by
  unfold FootprintTemplate.convert
  split
  · dsimp only
    cases (draftBody footprint).outcome with
    | error error => rfl
    | ok parts =>
      have named := alike.nameAll (show (NetNamer.mk config []).config = config from rfl)
        (draftBody footprint).pads
      dsimp only at named ⊢
      rw [named, alike.designator]
      rfl
  · rfl

theorem Config.Alike.listPads (pads : List String) :
    CommandLine.listPads other pads = CommandLine.listPads config pads := by
  have listed (namer : NetNamer) (own : namer.config = config) :
      CommandLine.listPads.go { namer with config := other } pads =
        CommandLine.listPads.go namer pads := by
    induction pads generalizing namer with
    | nil => rfl
    | cons pad rest ih =>
      rw [CommandLine.listPads.go, CommandLine.listPads.go, alike.name own]
      exact congrArg _ (ih _ ((namer.config_name pad).trans own))
  exact listed ⟨config, []⟩ rfl

end Names

end FootprintTemplate
