import FootprintTemplate.CommandLine.Run
import FootprintTemplate.Proofs.Failure
import FootprintTemplate.Proofs.Nets

/-! The listing of pads. It names the pads among the children of a footprint in a run of its own; a
conversion also names the pads that it writes inside other nodes. -/
namespace FootprintTemplate

open CommandLine (listPads)
open Preview (writtenChildren mem_of_mem_writtenChildren)
open Sexpr (Item Node unquote)
open Writer (Draft Rule Visit ownPad? padsOf padsOfAll visits)

namespace NetNamer

theorem name_known {namer : NetNamer} {pad : String} (known : pad ∈ namer.assigned.map Prod.fst) :
    (namer.name pad).2 = namer := by
  obtain ⟨net, found⟩ := Option.isSome_iff_exists.mp ((isSome_lookup_iff namer pad).mpr known)
  unfold name
  rw [found]
  cases namer.config.netNameOverrides.lookup pad <;> rfl

theorem nameAll_eraseDups (config : Config) (pads : List String) :
    nameAll ⟨config, []⟩ pads.eraseDups = nameAll ⟨config, []⟩ pads := by
  induction pads using List.reverseRecOn with
  | nil => rfl
  | append_singleton asked pad ih =>
    rw [eraseDups_concat, nameAll_append, nameAll_singleton, ← ih]
    split
    · rename_i known
      have known : pad ∈ (nameAll ⟨config, []⟩ asked.eraseDups).assigned.map Prod.fst := by
        rw [fst_nameAll]
        simpa using known
      exact (name_known known).symm
    · rw [nameAll_append, nameAll_singleton]

theorem go_eq_zip (namer : NetNamer) (pads : List String) :
    listPads.go namer pads = pads.zip (answers namer pads) := by
  induction pads generalizing namer with
  | nil => rfl
  | cons pad rest ih => rw [listPads.go, ih, answers, List.zip_cons_cons]

theorem listPads_eraseDups (config : Config) (pads : List String) :
    listPads config pads.eraseDups = (nameAll ⟨config, []⟩ pads).assigned := by
  rw [listPads, go_eq_zip, answers_eq, nameAll_eraseDups, ← List.map_prod_left_eq_zip,
    assigned_eq pads (List.prefix_refl _)]

theorem fst_listPads (config : Config) (pads : List String) :
    (listPads config pads).map Prod.fst = pads := by
  rw [listPads, go_eq_zip, answers_eq, ← List.map_prod_left_eq_zip, List.map_map]
  exact List.map_id pads

end NetNamer

section Scan

/-- The connected pads among the children of a footprint, in source order. -/
def rootPads (footprint : Node) : List String :=
  footprint.nodes.flatMap fun child => (ownPad? child.kind child.items).toList

theorem ownPads_filter (children : List Node) :
    (children.filter (·.kind == "pad")).flatMap (fun child => (ownPad? child.kind child.items).toList) =
      children.flatMap fun child => (ownPad? child.kind child.items).toList := by
  refine flatMap_filter (fun _ _ _ => rfl) fun child _ other => ?_
  rw [Writer.ownPad?_eq_none (by simpa using other)]
  rfl

theorem scanPads_eq_ok {footprint : Node}
    (identified : ∀ child ∈ footprint.nodes, child.kind = "pad" →
      ∃ text rest, child.items = .atom text :: rest) :
    scanPads footprint = .ok (rootPads footprint).eraseDups := by
  have names : ∀ pads : List Node, (∀ pad ∈ pads, pad.kind = "pad" ∧
      ∃ text rest, pad.items = .atom text :: rest) →
      ∃ texts, pads.mapM Node.firstAtom? = some texts ∧
        (texts.map unquote).filter (· != "") =
          pads.flatMap fun pad => (ownPad? pad.kind pad.items).toList := by
    intro pads arePads
    induction pads with
    | nil => exact ⟨[], rfl, rfl⟩
    | cons pad rest ih =>
      obtain ⟨⟨isPad, text, others, items⟩, arePads⟩ := List.forall_mem_cons.mp arePads
      obtain ⟨texts, read, same⟩ := ih arePads
      refine ⟨text :: texts, ?_, ?_⟩
      · simp [Node.firstAtom?, items, Item.atom?, read]
      · rw [List.flatMap_cons, ← same, isPad, items, List.map_cons, List.filter_cons]
        by_cases empty : unquote text = "" <;> simp [ownPad?, empty]
  obtain ⟨texts, read, same⟩ := names (footprint.nodes.filter (·.kind == "pad")) fun pad member => by
    obtain ⟨inside, isPad⟩ := List.mem_filter.mp member
    have isPad := beq_iff_eq.mp isPad
    exact ⟨isPad, identified pad inside isPad⟩
  rw [ownPads_filter] at same
  simp only [scanPads, read, same, rootPads]

theorem GroupKind.of?_eq_pads {kind : String} : GroupKind.of? kind = some .pads ↔ kind = "pad" := by
  refine ⟨fun own => (kind_of_of? own).2.1 rfl, ?_⟩
  rintro rfl
  rfl

theorem filter_pad_groupOf (kind : GroupKind) (footprint : Node) :
    (((groupOf kind (footprint.nodes.filter (GroupKind.of? ·.kind == some kind))).flatMap
        Group.nodes).filter (·.kind == "pad")) =
      if kind = .pads then footprint.nodes.filter (·.kind == "pad") else [] := by
  split
  · rename_i pads
    subst pads
    have nodes (children : List Node) : (groupOf .pads children).flatMap Group.nodes = children := by
      cases children <;> simp [groupOf]
    rw [nodes, List.filter_filter]
    refine List.filter_congr fun child _ => ?_
    by_cases isPad : child.kind = "pad" <;> simp [isPad, GroupKind.of?_eq_pads]
  · rename_i other
    rw [List.filter_eq_nil_iff]
    intro child member isPad
    obtain ⟨-, own⟩ := List.mem_filter.mp (mem_groupOf.mp member)
    have isPads : GroupKind.of? child.kind = some .pads :=
      GroupKind.of?_eq_pads.mpr (beq_iff_eq.mp isPad)
    rw [isPads, beq_iff_eq, Option.some.injEq] at own
    exact other own.symm

theorem filter_pad_writtenChildren (footprint : Node) :
    (writtenChildren footprint).filter (·.kind == "pad") =
      footprint.nodes.filter (·.kind == "pad") := by
  have layer : (footprint.child? "layer").toList.filter (·.kind == "pad") = [] := by
    rw [List.filter_eq_nil_iff]
    intro child member
    have isLayer := List.find?_some (Option.mem_toList.mp member)
    rw [beq_iff_eq] at isLayer
    simp [isLayer]
  rw [writtenChildren, List.filter_append, layer, List.nil_append, classify, List.flatMap_assoc,
    List.filter_flatMap]
  simp only [filter_pad_groupOf]
  simp [GroupKind.all]

theorem connectedPads_eq_rootPads {footprint : Node}
    (flat : ∀ child ∈ footprint.nodes, padsOfAll child.kind child.items = []) :
    connectedPads footprint = rootPads footprint := by
  have own : ∀ child ∈ writtenChildren footprint, padsOf (some footprint.kind) child.item =
      (ownPad? child.kind child.items).toList := by
    intro child member
    rw [Node.item, padsOf, flat child (mem_of_mem_writtenChildren member), List.append_nil]
    split
    · rename_i skip
      have other : child.kind ≠ "pad" := by
        intro isPad
        rw [isPad] at skip
        cases skip
      rw [Writer.ownPad?_eq_none other]
      rfl
    · rfl
  rw [connectedPads, List.flatMap_congr own, ← ownPads_filter, filter_pad_writtenChildren,
    ownPads_filter, rootPads]

end Scan

section Listing

variable {config : Config} {footprint : Node} {conversion : Conversion}

theorem identified_of_convert (converted : convert config footprint = .ok conversion) :
    ∀ child ∈ footprint.nodes, child.kind = "pad" →
      ∃ text rest, child.items = .atom text :: rest := by
  intro child member isPad
  obtain ⟨-, layer, sections, ok, -⟩ := convert_eq_ok.mp converted
  have none : (visited footprint).findSome? Visit.misshapen? = none := by
    rw [← failure?_draftBody, Draft.failure?, ok]
  have written : child ∈ writtenChildren footprint := by
    have pads := filter_pad_writtenChildren footprint
    have inside : child ∈ footprint.nodes.filter (·.kind == "pad") := by simp [member, isPad]
    rw [← pads] at inside
    exact (List.mem_filter.mp inside).1
  obtain ⟨kind, items⟩ := child
  subst isPad
  have entered : Writer.isWithheld (some footprint.kind) "pad" = false := rfl
  have seen : (⟨some footprint.kind, ⟨"pad", items⟩⟩ : Visit) ∈ visited footprint := by
    refine List.mem_flatMap.mpr ⟨_, written, ?_⟩
    rw [Node.item, visits, entered]
    exact List.mem_cons_self
  exact Writer.Visit.misshapen?_eq_none.mp (List.findSome?_eq_none_iff.mp none _ seen) _ rfl

theorem netMap_of_convert (converted : convert config footprint = .ok conversion) :
    conversion.netMap = listPads config (connectedPads footprint).eraseDups := by
  obtain ⟨-, layer, sections, ok, rfl⟩ := convert_eq_ok.mp converted
  obtain ⟨asked, -⟩ := (gathers_asks footprint.kind).draftBody ok
  rw [NetNamer.listPads_eraseDups, Conversion.netMap, namerOf, asked]
  rfl

/-- A footprint that can be converted has its pads listed, and the listing is the conversion's own
where it has all the pads that the conversion names, in their order. It has where no connected pad is
written inside a child. -/
theorem convert_listedPads (converted : convert config footprint = .ok conversion) :
    scanPads footprint = .ok (rootPads footprint).eraseDups ∧
      (listPads config (rootPads footprint).eraseDups = conversion.netMap ↔
        (rootPads footprint).eraseDups = (connectedPads footprint).eraseDups) ∧
      ((∀ child ∈ footprint.nodes, padsOfAll child.kind child.items = []) →
        listPads config (rootPads footprint).eraseDups = conversion.netMap) := by
  have nets := netMap_of_convert converted
  refine ⟨scanPads_eq_ok (identified_of_convert converted), ?_, ?_⟩
  · rw [nets]
    constructor
    · intro same
      have pads := congrArg (List.map Prod.fst) same
      rwa [NetNamer.fst_listPads, NetNamer.fst_listPads] at pads
    · exact congrArg (listPads config)
  · intro flat
    rw [nets, connectedPads_eq_rootPads flat]

/-- Two pads of one name, one without a name, and one in a place that is not written. -/
def plainPads : Node :=
  ⟨"footprint", [.atom "a", .node "pad" [.atom "2", .node "layers" [.atom "F.Cu"]],
    .node "at" [.node "pad" []], .node "pad" [.atom "\"\""], .node "pad" [.atom "\"VCC\""],
    .node "pad" [.atom "2"]]⟩

theorem convert_listedPads_plainPads :
    ∃ conversion, convert {} plainPads = .ok conversion ∧
      scanPads plainPads = .ok ["2", "VCC"] ∧
      listPads {} ["2", "VCC"] = conversion.netMap ∧
      conversion.netMap = [("2", "P2"), ("VCC", "VCC")] := by
  obtain ⟨conversion, converted⟩ : ∃ conversion, convert {} plainPads = .ok conversion :=
    ⟨_, convert_eq_ok.mpr ⟨.inl rfl, _, _, rfl, rfl⟩⟩
  obtain ⟨scanned, -, flat⟩ := convert_listedPads converted
  have pads : (rootPads plainPads).eraseDups = ["2", "VCC"] := rfl
  have named : listPads {} ["2", "VCC"] = [("2", "P2"), ("VCC", "VCC")] := by decide
  rw [pads] at scanned flat
  have empty : plainPads.nodes.all (fun child => (padsOfAll child.kind child.items).isEmpty) = true :=
    rfl
  have same := flat fun child member => List.isEmpty_iff.mp (List.all_eq_true.mp empty child member)
  exact ⟨conversion, converted, scanned, same, same ▸ named⟩

/-- A pad inside a node of no known kind takes the name that a pad beside it would have had. -/
def shadowedPad : Node :=
  ⟨"footprint", [.atom "a", .node "foo" [.node "pad" [.atom "1"]], .node "pad" [.atom "P1"]]⟩

theorem convert_misnamed_shadowedPad :
    ∃ conversion, convert {} shadowedPad = .ok conversion ∧
      conversion.netMap = [("1", "P1"), ("P1", "P1_1")] ∧
      scanPads shadowedPad = .ok ["P1"] ∧ listPads {} ["P1"] = [("P1", "P1")] := by
  obtain ⟨conversion, converted⟩ : ∃ conversion, convert {} shadowedPad = .ok conversion :=
    ⟨_, convert_eq_ok.mpr ⟨.inl rfl, _, _, rfl, rfl⟩⟩
  have pads : (connectedPads shadowedPad).eraseDups = ["1", "P1"] := rfl
  have nets := netMap_of_convert converted
  rw [pads] at nets
  have named : listPads {} ["1", "P1"] = [("1", "P1"), ("P1", "P1_1")] := by decide
  exact ⟨conversion, converted, nets.trans named, rfl, by decide⟩

end Listing

end FootprintTemplate
