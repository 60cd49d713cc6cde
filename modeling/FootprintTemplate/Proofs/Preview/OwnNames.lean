import FootprintTemplate.Proofs.Nets
import FootprintTemplate.Proofs.Preview.Rendered

/-! Names that a module uses besides its nets: two parameters, and members of a placement. The namer
does not know of them. A net gets one of these names exactly from a pad that would have it as its
candidate, and then stands in the place of what the module reads under the name. -/
namespace FootprintTemplate

open Sexpr (Node)

/-- The keys of the parameters, in the order in which the module declares them. -/
def Module.paramKeys (m : Module) : List String :=
  "designator" :: "side" :: m.nets

namespace NetNamer

variable {config : Config} {namer : NetNamer} {pads : List String} {pad net : String}

/-- One call enters the target of an override, or a candidate with some ending. -/
theorem entry_name {last : String} (entered : (pad, net) ∈ (namer.name last).2.assigned) :
    (pad, net) ∈ namer.assigned ∨ pad = last ∧
      (namer.config.netNameOverrides.lookup pad = some net ∨
        namer.config.netNameOverrides.lookup pad = none ∧
          ∃ k, net = suffixed (candidate namer.config pad) k) := by
  have later {name : String} (new : (pad, net) ∈ (namer.assign last name).assigned) :
      (pad, net) ∈ namer.assigned ∨ pad = last ∧ net = name := by
    simpa [assign] using new
  unfold name at entered
  split at entered
  · rename_i target overridden new
    rcases later entered with old | ⟨rfl, rfl⟩
    · exact .inl old
    · exact .inr ⟨rfl, .inl overridden⟩
  · exact .inl entered
  · exact .inl entered
  · rename_i plain new
    rcases later entered with old | ⟨rfl, rfl⟩
    · exact .inl old
    · obtain ⟨k, -, found, -⟩ := firstFree_spec namer.takenNames (candidate namer.config pad)
      exact .inr ⟨rfl, .inr ⟨plain, k, found⟩⟩

theorem entry_nameAll (entered : (pad, net) ∈ (nameAll ⟨config, []⟩ pads).assigned) :
    pad ∈ pads ∧ (config.netNameOverrides.lookup pad = some net ∨
      config.netNameOverrides.lookup pad = none ∧
        ∃ k, net = suffixed (candidate config pad) k) := by
  induction pads using List.reverseRecOn with
  | nil => cases entered
  | append_singleton asked last ih =>
    rw [nameAll_append, nameAll_singleton] at entered
    rcases entry_name entered with old | ⟨rfl, new⟩
    · exact (ih old).imp_left (List.mem_append_left [last])
    · rw [config_nameAll] at new
      exact ⟨by simp, new⟩

theorem takenNames_subset_name (pad : String) :
    namer.takenNames ⊆ (namer.name pad).2.takenNames := by
  intro taken member
  rw [takenNames, config_name]
  rcases List.mem_append.mp member with target | old
  · exact List.mem_append_left _ target
  · exact List.mem_append_right _ (List.map_subset _ (assigned_prefix_name namer pad).subset old)

/-- The candidate of a new pad is taken by the pad itself, if nothing stood in its way. -/
theorem candidate_mem_name (plain : namer.config.netNameOverrides.lookup pad = none)
    (new : namer.assigned.lookup pad = none) :
    candidate namer.config pad ∈ (namer.name pad).2.takenNames := by
  obtain ⟨k, -, found, -, before⟩ := firstFree_spec namer.takenNames (candidate namer.config pad)
  cases k with
  | zero =>
    have named : (namer.name pad).2 = namer.assign pad (candidate namer.config pad) := by
      rw [name, plain, new]
      exact congrArg (namer.assign pad) found
    rw [named, takenNames, assign]
    simp
  | succ k => exact takenNames_subset_name pad (before 0 k.succ_pos)

theorem candidate_mem_nameAll (asked : pad ∈ pads)
    (plain : config.netNameOverrides.lookup pad = none) :
    candidate config pad ∈ (nameAll ⟨config, []⟩ pads).takenNames := by
  induction pads using List.reverseRecOn with
  | nil => cases asked
  | append_singleton before last ih =>
    rw [nameAll_append, nameAll_singleton]
    by_cases known : pad ∈ before
    · exact takenNames_subset_name last (ih known)
    · obtain rfl : pad = last := by simpa [known] using asked
      have new : (nameAll ⟨config, []⟩ before).assigned.lookup pad = none := by
        rw [← Option.not_isSome_iff_eq_none, isSome_lookup_iff, fst_nameAll]
        simpa using known
      have taken := candidate_mem_name (by rwa [config_nameAll]) new
      rwa [config_nameAll] at taken

/-- Endings of names are digits. -/
theorem getLast?_suffixed (name : String) (k : Nat) :
    ∃ c, (suffixed name (k + 1)).toList.getLast? = some c ∧ c.isDigit = true := by
  have digits : (suffixed name (k + 1)).toList =
      (name ++ "_").toList ++ Nat.toDigits 10 (k + 1) := by
    rw [← Nat.toList_repr, ← String.toList_append]
    rfl
  have last := List.getLast?_eq_some_getLast (Nat.toDigits_ne_nil (n := k + 1) (b := 10))
  refine ⟨_, by rw [digits, List.getLast?_append, last, Option.some_or], ?_⟩
  exact Nat.isDigit_of_mem_toDigits (by decide) (by decide) (List.getLast_mem _)

/-- A name that ends in no digit, and is no target, is given to the pads that ask for it alone. -/
theorem mem_names_iff (ends : ∀ c, net.toList.getLast? = some c → c.isDigit = false)
    (apart : net ∉ config.netNameOverrides.map Prod.snd) :
    net ∈ (nameAll ⟨config, []⟩ pads).assigned.map Prod.snd ↔
      ∃ pad ∈ pads, config.netNameOverrides.lookup pad = none ∧ candidate config pad = net := by
  constructor
  · intro named
    obtain ⟨⟨pad, _⟩, entered, rfl⟩ := List.mem_map.mp named
    obtain ⟨asked, overridden | ⟨plain, k, same⟩⟩ := entry_nameAll entered
    · exact absurd (List.mem_map.mpr ⟨_, mem_of_lookup overridden, rfl⟩) apart
    · refine ⟨pad, asked, plain, ?_⟩
      cases k with
      | zero => exact same.symm
      | succ k =>
        obtain ⟨c, last, digit⟩ := getLast?_suffixed (candidate config pad) k
        rw [← same] at last
        rw [ends c last] at digit
        cases digit
  · rintro ⟨pad, asked, plain, rfl⟩
    rcases List.mem_append.mp (candidate_mem_nameAll asked plain) with target | named
    · rw [config_nameAll] at target
      exact absurd target apart
    · exact named

end NetNamer

namespace Preview

/-- Names that a module reads, or declares, for other things than nets. -/
def ownNames : List String :=
  "designator" :: reservedNames

variable {config : Config} {footprint : Node} {conversion : Conversion} {loaded : Loaded}
  {params : List (String × Param)}

/-- The parameter of a name has this text as its default. -/
def HasDefault (params : List (String × Param)) (name text : String) : Prop :=
  ∀ param, (name, param) ∈ params ↔ param = ⟨.string, false, some text⟩

theorem nodup_paramKeys (m : Module) (increasing : m.nets.Pairwise (· < ·)) :
    m.paramKeys.Nodup ↔ "designator" ∉ m.nets ∧ "side" ∉ m.nets := by
  simp [Module.paramKeys, increasing.nodup]

theorem hasDefault_iff {m : Module} {defaults : List (String × String)}
    (mem : ∀ name param, (name, param) ∈ params ↔
      ∃ value, (name, value) ∈ declaredParams m defaults ∧ Param.read value = .ok param)
    {name text : String}
    (own : (name, text) ∈ [("designator", m.designator), ("side", m.side.letter)]) :
    HasDefault params name text ↔ name ∉ m.nets := by
  have other : name ≠ prototypeName := by
    rintro rfl
    simp [prototypeName] at own
  have only {text' : String}
      (same : (name, text') ∈ [("designator", m.designator), ("side", m.side.letter)]) :
      text' = text := by
    simp only [List.mem_cons, Prod.mk.injEq, List.not_mem_nil, or_false] at own same
    rcases own with ⟨rfl, rfl⟩ | ⟨rfl, rfl⟩ <;> simpa using same
  constructor
  · intro has net
    obtain ⟨param, inside, isNet⟩ := (areParams_of_members mem).1.declared name net other
    rw [(has param).mp inside] at isNet
    cases isNet
  · intro free param
    rw [mem]
    constructor
    · rintro ⟨value, declared, read⟩
      rcases declared_cases declared with ⟨-, text', same, rfl⟩ | ⟨net, -, -⟩
      · cases only same
        cases read
        rfl
      · exact absurd net free
    · rintro rfl
      refine ⟨.text text, List.mem_append_left _ (List.mem_filter.mpr ⟨?_, by simp [free]⟩), rfl⟩
      simp only [List.mem_cons, Prod.mk.injEq, List.not_mem_nil, or_false] at own ⊢
      rcases own with ⟨rfl, rfl⟩ | ⟨rfl, rfl⟩ <;> simp

theorem lookup_netTexts_eq_none {m : Module} (params : AreParams m loaded.params) {name : String}
    (other : name ≠ "side") (apart : name ≠ prototypeName) (placement : Placement) :
    (netTexts loaded placement).lookup name = none ↔ name ∉ m.nets := by
  rw [lookup_netTexts, Option.map_eq_none_iff, ← Option.not_isSome_iff_eq_none,
    isSome_lookup_boardNets]
  refine not_congr ⟨?_, fun net => ⟨other, params.declared name net apart⟩⟩
  rintro ⟨-, param, inside, isNet⟩
  exact params.onlyNets name param inside isNet

/-- The side is the one member of a placement that no net replaces. -/
theorem memberText_side (placement : Placement) :
    memberText placement (netTexts loaded placement) "side" = placement.side.toList := by
  have none : (netTexts loaded placement).lookup "side" = none := by
    rw [lookup_netTexts, Option.map_eq_none_iff, ← Option.not_isSome_iff_eq_none,
      isSome_lookup_boardNets]
    exact fun found => found.1 rfl
  rw [memberText, none]
  rfl

theorem rotation_filling (placement : Placement) (flip : Bool) :
    (filling loaded placement flip).rotation = .inl placement.r ↔
      (netTexts loaded placement).lookup "r" = none := by
  unfold filling
  dsimp only
  cases (netTexts loaded placement).lookup "r" <;> simp

theorem net_ne_place (net place : List Char) : "(net ".toList ++ net ≠ "(at ".toList ++ place := by
  have opensNet : "(net ".toList = ['(', 'n', 'e', 't', ' '] := rfl
  have opensPlace : "(at ".toList = ['(', 'a', 't', ' '] := rfl
  rw [opensNet, opensPlace]
  simp

/-- A net at the place of the footprint is written as a net. -/
theorem placeLine_eq (placement : Placement) :
    placeLine loaded placement = atChars placement ↔
      (netTexts loaded placement).lookup "at" = none := by
  rw [placeLine]
  cases found : (netTexts loaded placement).lookup "at" with
  | none => simp
  | some text =>
    rw [lookup_netTexts] at found
    obtain ⟨net, -, rfl⟩ := Option.map_eq_some_iff.mp found
    simp only [Option.getD_some, reduceCtorEq, iff_false]
    exact net_ne_place _ _

/-- Where overrides keep off the module's own names, such a name becomes a net exactly through a pad
that asks for it. Then, and only then, two parameters have one key, a parameter loses its default,
or the place and the rotation of the footprint are read from a net. -/
theorem convert_ownNames (converted : convert config footprint = .ok conversion)
    (apart : ∀ name ∈ ownNames, name ∉ config.netNameOverrides.map Prod.snd) :
    (∀ name ∈ ownNames, name ∈ conversion.netMap.map Prod.snd ↔
      ∃ pad ∈ connectedPads footprint, config.netNameOverrides.lookup pad = none ∧
        NetNamer.candidate config pad = name) ∧
    (∀ name, name ∈ conversion.written.nets ↔ name ∈ conversion.netMap.map Prod.snd) ∧
    (conversion.written.paramKeys.Nodup ↔
      "designator" ∉ conversion.written.nets ∧ "side" ∉ conversion.written.nets) ∧
    (conversion.written.isEnclosed = true → conversion.written.isScript = true → ∀ defaults,
      ∃ loaded, load conversion defaults = .ok loaded ∧
        (HasDefault loaded.params "designator" config.designator ↔
          "designator" ∉ conversion.written.nets) ∧
        (HasDefault loaded.params "side" (sideOf footprint).letter ↔
          "side" ∉ conversion.written.nets) ∧
        ∀ placement flip,
          memberText placement (netTexts loaded placement) "side" = placement.side.toList ∧
          ((filling loaded placement flip).rotation = .inl placement.r ↔
            "r" ∉ conversion.written.nets) ∧
          (placeLine loaded placement = atChars placement ↔ "at" ∉ conversion.written.nets)) := by
  obtain ⟨-, layer, sections, ok, rfl⟩ := convert_eq_ok.mp converted
  obtain ⟨asked, -⟩ := (gathers_asks footprint.kind).draftBody ok
  have nets (name : String) : name ∈ (namerOf config footprint).paramNames ↔
      name ∈ (namerOf config footprint).assigned.map Prod.snd := by
    rw [NetNamer.mem_paramNames, List.mem_map]
    exact ⟨fun ⟨pad, entered⟩ => ⟨_, entered, rfl⟩, by rintro ⟨_, entered, rfl⟩; exact ⟨_, entered⟩⟩
  refine ⟨fun name own => ?_, nets, nodup_paramKeys _ ?_, ?_⟩
  · have ends : ∀ name ∈ ownNames, ∀ c, name.toList.getLast? = some c → c.isDigit = false := by
      have computed : ∀ name ∈ ownNames, name.toList.getLast?.all (!·.isDigit) := by decide
      simpa [Option.all_eq_true] using computed
    rw [connectedPads, ← asked]
    exact NetNamer.mem_names_iff (ends name own) (apart name own)
  · exact NetNamer.paramNames_increasing _
  · intro enclosed script defaults
    obtain ⟨params, loads, mem⟩ := load_members enclosed script defaults
    have areParams := (areParams_of_members mem).1
    refine ⟨_, loads, hasDefault_iff mem (by simp), hasDefault_iff mem (by simp), ?_⟩
    intro placement flip
    rw [rotation_filling, placeLine_eq]
    exact ⟨memberText_side placement,
      lookup_netTexts_eq_none areParams (by decide) (by decide) placement,
      lookup_netTexts_eq_none areParams (by decide) (by decide) placement⟩

theorem convert_ownNames_tab :
    convert {} tabFootprint = .ok tabConversion ∧
      (∀ name ∈ ownNames, name ∉ tabConversion.netMap.map Prod.snd) ∧
      tabConversion.written.paramKeys.Nodup ∧
      ∃ loaded, load tabConversion [] = .ok loaded ∧ HasDefault loaded.params "designator" "XX" ∧
        HasDefault loaded.params "side" "F" ∧ ∀ placement flip,
          (filling loaded placement flip).rotation = .inl placement.r ∧
            placeLine loaded placement = atChars placement := by
  obtain ⟨footprint, read, converted⟩ := convertText_eq_ok.mp convert_tab
  cases Except.ok.inj (parse_tab.symm.trans read)
  obtain ⟨-, nets, keys, loads⟩ := convert_ownNames converted (by decide)
  have free : ∀ name ∈ ownNames, name ∉ tabConversion.written.nets := by decide
  obtain ⟨loaded, ok, designator, side, placed⟩ := loads rfl rfl []
  refine ⟨converted, fun name own => (nets name).not.mp (free name own),
    keys.mpr ⟨free _ (by decide), free _ (by decide)⟩, loaded, ok,
    designator.mpr (free _ (by decide)), side.mpr (free _ (by decide)), fun placement flip => ?_⟩
  obtain ⟨-, rotation, place⟩ := placed placement flip
  exact ⟨rotation.mpr (free _ (by decide)), place.mpr (free _ (by decide))⟩

def padFootprint (name : String) : Node :=
  ⟨"footprint", [.atom "a", .node "pad" [.atom name]]⟩

def padConversion (name : String) : Conversion :=
  plainConversion "XX" [name] ⟨"footprint", [.atom "a"]⟩ none
    [⟨"Pads", [⟨false, [.punct "(pad \"", .source name, .punct "\"", .punct " ", .net name,
      .punct ")"]⟩]⟩]

theorem convert_padSide :
    convertText {} "(footprint a (pad side))" = .ok (padConversion "side") := by
  have read : Sexpr.parse "(footprint a (pad side))" = .ok (padFootprint "side") :=
    Sexpr.parse_eq_ok.mpr ⟨by decide, by decide, by decide, by decide⟩
  have nets : (namerOf {} (padFootprint "side")).paramNames = ["side"] :=
    List.mergeSort_singleton ..
  exact convertText_eq_ok.mpr ⟨_, read,
    convert_eq_ok.mpr ⟨.inl rfl, none, _, rfl, by rw [nets]; rfl⟩⟩

theorem convert_padR : convertText {} "(footprint a (pad r))" = .ok (padConversion "r") := by
  have read : Sexpr.parse "(footprint a (pad r))" = .ok (padFootprint "r") :=
    Sexpr.parse_eq_ok.mpr ⟨by decide, by decide, by decide, by decide⟩
  have nets : (namerOf {} (padFootprint "r")).paramNames = ["r"] := List.mergeSort_singleton ..
  exact convertText_eq_ok.mpr ⟨_, read,
    convert_eq_ok.mpr ⟨.inl rfl, none, _, rfl, by rw [nets]; rfl⟩⟩

/-- A pad named like the side declares that parameter twice, the second time as a net. One named
like the rotation has the footprint turned by a net. -/
theorem convert_clashes_ownPads :
    (∃ conversion, convertText {} "(footprint a (pad side))" = .ok conversion ∧
      "side" ∈ conversion.netMap.map Prod.snd ∧ ¬conversion.written.paramKeys.Nodup ∧
      ∃ loaded, load conversion [] = .ok loaded ∧ ¬HasDefault loaded.params "side" "F") ∧
    ∃ conversion, convertText {} "(footprint a (pad r))" = .ok conversion ∧
      "r" ∈ conversion.netMap.map Prod.snd ∧
      ∃ loaded, load conversion [] = .ok loaded ∧
        ∀ placement flip, (filling loaded placement flip).rotation ≠ .inl placement.r := by
  constructor
  · have enclosed : (padConversion "side").written.isEnclosed = true := rfl
    obtain ⟨params, loads, mem⟩ := load_members enclosed rfl []
    refine ⟨_, convert_padSide, by decide, by decide, _, loads, fun has => ?_⟩
    exact (hasDefault_iff mem (by decide)).mp has (by decide)
  · have enclosed : (padConversion "r").written.isEnclosed = true := rfl
    obtain ⟨params, loads, areParams⟩ := load_eq_ok enclosed rfl []
    refine ⟨_, convert_padR, by decide, _, loads, fun placement flip kept => ?_⟩
    have apart := rotation_filling placement flip |>.mp kept
    rw [lookup_netTexts_eq_none areParams (by decide) (by decide)] at apart
    exact apart (by decide)

end Preview

end FootprintTemplate
