import FootprintTemplate.Preview.Render

/-! Parameters of modules. A module that needs no script always loads, and its net parameters are
the nets it declares. -/
namespace FootprintTemplate.Preview

theorem mapM_eq_ok {α β ε : Type} (read : α → Except ε β) {members : List α}
    (reads : ∀ member ∈ members, ∃ value, read member = .ok value) :
    ∃ values, members.mapM read = .ok values ∧
      ∀ value, value ∈ values ↔ ∃ member ∈ members, read member = .ok value := by
  induction members with
  | nil => exact ⟨[], rfl, by simp⟩
  | cons member rest ih =>
    obtain ⟨⟨first, readFirst⟩, readRest⟩ := List.forall_mem_cons.mp reads
    obtain ⟨others, readOthers, inOthers⟩ := ih readRest
    refine ⟨first :: others, ?_, fun value => ?_⟩
    · rw [List.mapM_cons, readFirst, readOthers]
      rfl
    · simp only [List.mem_cons, inOthers, exists_eq_or_imp, readFirst, Except.ok.injEq]
      rw [eq_comm]

theorem map_of_mapM_eq_ok {α β γ ε : Type} {read : α → Except ε β} {source : α → γ}
    {result : β → γ} (keeps : ∀ member value, read member = .ok value → result value = source member)
    {members : List α} {values : List β} (reads : members.mapM read = .ok values) :
    values.map result = members.map source := by
  induction members generalizing values with
  | nil =>
    cases reads
    rfl
  | cons member rest ih =>
    rw [List.mapM_cons] at reads
    cases own : read member with
    | error =>
      rw [own] at reads
      cases reads
    | ok value =>
      cases others : rest.mapM read with
      | error =>
        rw [own, others] at reads
        cases reads
      | ok more =>
        rw [own, others] at reads
        cases reads
        rw [List.map_cons, List.map_cons, keeps member value own, ih others]

section Params

/-- Parameters that a module can have: its nets and texts of other names. -/
structure AreParams (m : Module) (params : List (String × Param)) : Prop where
  declared : ∀ net ∈ m.nets, net ≠ prototypeName →
    ∃ param, (net, param) ∈ params ∧ param.kind = .net
  onlyNets : ∀ net param, (net, param) ∈ params → param.kind = .net → net ∈ m.nets

theorem read_netDeclaration (default : Option String) :
    Param.read (netDeclaration default) = .ok ⟨.net, default.isNone, default⟩ := by
  cases default <;> rfl

theorem readMember_eq_ok {name : String} {value : Value} {param : Param} :
    readMember (name, value) = .ok (name, param) ↔ Param.read value = .ok param := by
  unfold readMember
  cases Param.read value <;> simp

/-- A declared parameter is a net of the module, or the text of another parameter. -/
theorem declared_cases {m : Module} {defaults : List (String × String)} {name : String}
    {value : Value} (declared : (name, value) ∈ declaredParams m defaults) :
    (name ∉ m.nets.filter (· != prototypeName) ∧ ∃ text,
      (name, text) ∈ [("designator", m.designator), ("side", m.side.letter)] ∧
        value = .text text) ∨
    (name ∈ m.nets ∧ name ≠ prototypeName ∧ value = netDeclaration (defaults.lookup name)) := by
  rcases List.mem_append.mp declared with own | net
  · obtain ⟨own, apart⟩ := List.mem_filter.mp own
    refine .inl ⟨by simpa [Decidable.imp_iff_not_or] using apart, ?_⟩
    rcases List.mem_cons.mp own with same | other
    · cases same
      exact ⟨_, List.mem_cons_self, rfl⟩
    · cases List.mem_singleton.mp other
      exact ⟨_, List.mem_cons_of_mem _ List.mem_cons_self, rfl⟩
  · obtain ⟨_, inside, same⟩ := List.mem_map.mp net
    cases same
    obtain ⟨inside, other⟩ := List.mem_filter.mp inside
    exact .inr ⟨inside, by simpa using other, rfl⟩

theorem readParams_members (m : Module) (defaults : List (String × String)) :
    ∃ params, readParams (.record (declaredParams m defaults)) = .ok params ∧
      ∀ name param, (name, param) ∈ params ↔
        ∃ value, (name, value) ∈ declaredParams m defaults ∧ Param.read value = .ok param := by
  have reads : ∀ member ∈ byName (declaredParams m defaults), ∃ read,
      readMember member = .ok read := by
    rintro ⟨name, value⟩ inside
    rcases declared_cases (List.mem_mergeSort.mp inside) with ⟨-, text, -, rfl⟩ | ⟨-, -, rfl⟩
    · exact ⟨(name, _), readMember_eq_ok.mpr rfl⟩
    · exact ⟨(name, _), readMember_eq_ok.mpr (read_netDeclaration _)⟩
  obtain ⟨params, ok, mem⟩ := mapM_eq_ok readMember reads
  refine ⟨params, ok, fun name param => (mem _).trans ⟨?_, ?_⟩⟩
  · rintro ⟨⟨own, value⟩, inside, read⟩
    obtain ⟨param', read'⟩ : ∃ param', Param.read value = .ok param' := by
      cases h : Param.read value with
      | error => simp [readMember, h] at read
      | ok param' => exact ⟨param', rfl⟩
    cases (readMember_eq_ok.mpr read').symm.trans read
    exact ⟨value, List.mem_mergeSort.mp inside, read'⟩
  · rintro ⟨value, inside, read⟩
    exact ⟨(name, value), List.mem_mergeSort.mpr inside, readMember_eq_ok.mpr read⟩

theorem areParams_of_members {m : Module} {defaults : List (String × String)}
    {params : List (String × Param)} (mem : ∀ name param, (name, param) ∈ params ↔
      ∃ value, (name, value) ∈ declaredParams m defaults ∧ Param.read value = .ok param) :
    AreParams m params ∧ ∀ net param, (net, param) ∈ params → param.kind = .net →
      param.default = defaults.lookup net := by
  have nets : ∀ net param, (net, param) ∈ params → param.kind = .net →
      net ∈ m.nets ∧ param.default = defaults.lookup net := by
    intro net param inside isNet
    obtain ⟨value, declared, read⟩ := (mem net param).mp inside
    rcases declared_cases declared with ⟨-, text, -, rfl⟩ | ⟨member, -, rfl⟩
    · cases read
      cases isNet
    · cases (read_netDeclaration _).symm.trans read
      exact ⟨member, rfl⟩
  refine ⟨⟨fun net declared other => ?_, fun net param inside isNet =>
    (nets net param inside isNet).1⟩, fun net param inside isNet => (nets net param inside isNet).2⟩
  refine ⟨_, (mem net _).mpr ⟨_, List.mem_append_right _ (List.mem_map.mpr ⟨net, ?_, rfl⟩),
    read_netDeclaration _⟩, rfl⟩
  exact List.mem_filter.mpr ⟨declared, by simpa using other⟩

theorem readParams_declaredParams (m : Module) (defaults : List (String × String)) :
    ∃ params, readParams (.record (declaredParams m defaults)) = .ok params ∧
      AreParams m params ∧ ∀ net param, (net, param) ∈ params → param.kind = .net →
        param.default = defaults.lookup net := by
  obtain ⟨params, ok, mem⟩ := readParams_members m defaults
  exact ⟨params, ok, areParams_of_members mem⟩

/-- The parameters that a module is loaded with are those that it declares. -/
theorem areParams_of_readParams {m : Module} {params : List (String × Param)}
    {defaults : List (String × String)}
    (reads : readParams (.record (declaredParams m defaults)) = .ok params) :
    AreParams m params ∧ ∀ net param, (net, param) ∈ params → param.kind = .net →
      param.default = defaults.lookup net := by
  obtain ⟨_, again, areParams, default⟩ := readParams_declaredParams m defaults
  cases Except.ok.inj (reads.symm.trans again)
  exact ⟨areParams, default⟩

theorem map_fst_boardNets (nets : List (String × String)) (board : List String)
    (params : List (String × Param)) :
    (boardNets nets board params).map Prod.fst =
      (params.filter fun (name, param) => !(name == "side" || param.kind != .net)).map
        Prod.fst := by
  induction params generalizing board with
  | nil => rfl
  | cons entry rest ih =>
    obtain ⟨name, param⟩ := entry
    rw [boardNets]
    split
    · rename_i skipped
      simp only [ih, List.filter_cons, skipped, Bool.not_true, Bool.false_eq_true, if_false]
    · rename_i taken
      simp only [List.map_cons, ih, List.filter_cons, taken, Bool.not_false, if_true]

theorem isSome_lookup_boardNets {nets : List (String × String)} {board : List String}
    {params : List (String × Param)} {name : String} :
    ((boardNets nets board params).lookup name).isSome = true ↔
      name ≠ "side" ∧ ∃ param, (name, param) ∈ params ∧ param.kind = .net := by
  have key : ((boardNets nets board params).lookup name).isSome = true ↔
      name ∈ (boardNets nets board params).map Prod.fst := by
    rw [List.lookup_isSome_iff, List.mem_map]
    exact exists_congr fun entry => and_congr_right fun _ => beq_iff_eq.trans eq_comm
  rw [key, map_fst_boardNets, List.mem_map]
  constructor
  · rintro ⟨⟨_, param⟩, inside, rfl⟩
    obtain ⟨member, shown⟩ := List.mem_filter.mp inside
    simp only [Bool.not_eq_true', Bool.or_eq_false_iff, beq_eq_false_iff_ne, bne_eq_false_iff_eq]
      at shown
    exact ⟨shown.1, param, member, shown.2⟩
  · rintro ⟨other, param, member, isNet⟩
    exact ⟨(name, param), List.mem_filter.mpr ⟨member, by simp [other, isNet]⟩, rfl⟩

theorem name_of_mem_boardNets {board : List String} {params : List (String × Param)}
    (bare : ∀ name param, (name, param) ∈ params → param.kind = .net → param.default = none)
    {name : String} {net : BoardNet} (member : (name, net) ∈ boardNets [] board params) :
    net.name = name ∧ ∃ param, (name, param) ∈ params ∧ param.kind = .net := by
  induction params generalizing board with
  | nil => cases member
  | cons entry rest ih =>
    obtain ⟨own, param⟩ := entry
    have later {board : List String} (inside : (name, net) ∈ boardNets [] board rest) :
        net.name = name ∧ ∃ other, (name, other) ∈ (own, param) :: rest ∧ other.kind = .net := by
      obtain ⟨same, other, declared, isNet⟩ :=
        ih (fun name param inside => bare name param (List.mem_cons_of_mem _ inside)) inside
      exact ⟨same, other, List.mem_cons_of_mem _ declared, isNet⟩
    rw [boardNets] at member
    split at member
    · exact later member
    · rename_i taken
      simp only [Bool.or_eq_true, bne_iff_ne, not_or, Decidable.not_not] at taken
      have isNet : param.kind = .net := taken.2
      rcases List.mem_cons.mp member with first | inside
      · cases first
        refine ⟨?_, param, List.mem_cons_self, isNet⟩
        rw [resolve, bare _ param List.mem_cons_self isNet]
        rfl
      · exact later inside

end Params

end FootprintTemplate.Preview
