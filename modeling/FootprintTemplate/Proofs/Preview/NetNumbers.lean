import FootprintTemplate.Proofs.Preview.Simulated

/-! The nets of a rendered footprint on the board, and what its pads print of them. -/
namespace FootprintTemplate.Preview

open Sexpr (Node)

variable {config : Config} {footprint : Node} {conversion : Conversion}
  {defaults : List (String × String)} {loaded : Loaded}

/-- The numbers of nets in a module that is loaded. They are numbered along the net parameters, which
stand in the order of their names: each parameter stands for a name on the board, the empty name has
number zero, and the others count from one on as they first appear. Each connected pad that is shown
prints the name that its parameter stands for with its number, whatever was rendered before. -/
structure NumbersNets (footprint : Node) (conversion : Conversion) (defaults : List (String × String))
    (loaded : Loaded) : Prop where
  netParams_eq : netParams loaded.params = conversion.written.nets
  renders : ∀ placement : Placement, placement.side = "F" ∨ placement.side = "B" →
    let name := boardName defaults placement.nets
    ∃ index out printed, IsNumbering (conversion.written.nets.map name) index ∧
      (∀ before, renderAll loaded (before ++ [placement]) =
        renderAll loaded before ++ [.ok out]) ∧
      out.toList = placedChars (stanceOf loaded placement) placement footprint ∧
      printed.Perm (shownPads footprint.kind (writtenChildren footprint)) ∧
      (∀ pad ∈ printed, conversion.namer.netOf pad ∈ conversion.written.nets ∧
        padNet loaded placement pad = ⟨index (name (conversion.namer.netOf pad)),
          name (conversion.namer.netOf pad)⟩) ∧
      Prints (fun pad => netText (index (name (conversion.namer.netOf pad)))
        (name (conversion.namer.netOf pad))) printed out.toList

theorem Loaded.Fills.numbersNets (fills : loaded.Fills conversion defaults)
    (converted : convert config footprint = .ok conversion)
    (apart : ∀ net ∈ conversion.written.nets, net ∉ reservedNames) :
    NumbersNets footprint conversion defaults loaded := by
  have increasing := increasing_nets converted
  obtain ⟨rfl, reads, gives⟩ := fills
  refine ⟨netParams_eq increasing apart reads, ?_⟩
  intro placement known name
  have areParams := (areParams_of_readParams reads).1
  have renders := fillIn_eq converted areParams apart known
  obtain ⟨printed, inOrder, prints⟩ := prints_module converted (placeLine loaded placement)
    (filling loaded placement (placement.side != loaded.conversion.written.side.letter))
  have filled := Except.ok.inj (renders.symm.trans (fillIn_known known))
  have asked : ∀ pad ∈ printed, pad ∈ (draftBody footprint).pads :=
    fun pad member => shownPads_subset converted (inOrder.mem_iff.mp member)
  have nets : ∀ pad ∈ printed, padNet loaded placement pad =
      ⟨indexOn (boardOrder (loaded.conversion.written.nets.map name))
        (name (loaded.conversion.namer.netOf pad)), name (loaded.conversion.namer.netOf pad)⟩ :=
    fun pad member => padNet_eq converted apart reads (asked pad member)
  refine ⟨indexOn (boardOrder (loaded.conversion.written.nets.map name)), _, printed,
    isNumbering_indexOn _, fun before => gives before placement _ renders, String.toList_ofList, inOrder,
    fun pad member => ⟨netOf_mem_nets converted (asked pad member), nets pad member⟩, ?_⟩
  rw [filled, String.toList_ofList]
  refine prints.congr fun pad member => ?_
  have own : memberText placement (netTexts loaded placement) (loaded.conversion.namer.netOf pad) = _ :=
    memberText_pad converted areParams apart (asked pad member)
  rw [nets pad member] at own
  exact own

/-- The nets of a rendered footprint. The parameters stand in the order of their names, and the nets are
numbered alike by the module that is filled in directly and by its script. -/
theorem render_numbered (converted : convert config footprint = .ok conversion)
    (enclosed : conversion.written.isEnclosed = true)
    (script : conversion.written.isScript = true)
    (apart : ∀ net ∈ conversion.written.nets, net ∉ reservedNames)
    (defaults : List (String × String)) :
    conversion.written.nets.Pairwise (· < ·) ∧
      (∃ loaded, load conversion defaults = .ok loaded) ∧
      (IsShort conversion defaults → ∃ loaded, loadScript conversion defaults = .ok loaded) ∧
      ∀ loaded, IsLoaded conversion defaults loaded →
        NumbersNets footprint conversion defaults loaded := by
  obtain ⟨direct, runs⟩ := exists_loaded converted enclosed script defaults
  exact ⟨increasing_nets converted, direct, runs, fun loaded isLoaded =>
    (isLoaded.fills converted enclosed script).numbersNets converted apart⟩

/-- Three pads. The outer two come to share a net on the board, the one between them has none. -/
def sharedFootprint : Node :=
  ⟨"footprint", [.atom "R", .node "pad" [.atom "a"], .node "pad" [.atom "b"],
    .node "pad" [.atom "c"]]⟩

def sharedConversion : Conversion where
  written := (plainConversion "XX" ["a", "b", "c"] sharedFootprint none [⟨"Pads",
    ["a", "b", "c"].map fun pad => ⟨false, [.punct "(pad \"", .source pad, .punct "\"", .punct " ",
      .net pad, .punct ")"]⟩⟩]).written
  namer := ⟨{}, [("a", "a"), ("b", "b"), ("c", "c")]⟩

def sharedPlacement : Placement where
  nets := [("a", "GND"), ("b", ""), ("c", "GND")]

theorem convert_shared : convert {} sharedFootprint = .ok sharedConversion := by
  have nets : (namerOf {} sharedFootprint).paramNames = ["a", "b", "c"] :=
    List.mergeSort_of_pairwise (by decide)
  exact convert_eq_ok.mpr ⟨.inl rfl, none, _, rfl, by rw [nets]; rfl⟩

theorem isShort_shared : IsShort sharedConversion [] := by
  refine Nat.lt_of_le_of_lt (Nat.le_of_eq (congrArg List.length String.toList_ofList)) ?_
  decide +kernel

theorem render_numbered_shared :
    convert {} sharedFootprint = .ok sharedConversion ∧
      sharedConversion.written.isEnclosed = true ∧ sharedConversion.written.isScript = true ∧
      (∀ net ∈ sharedConversion.written.nets, net ∉ reservedNames) ∧ IsShort sharedConversion [] ∧
      ∃ loaded out, loadScript sharedConversion [] = .ok loaded ∧
        (∀ before, renderAll loaded (before ++ [sharedPlacement]) =
          renderAll loaded before ++ [.ok out]) ∧
        padNet loaded sharedPlacement "a" = ⟨1, "GND"⟩ ∧
        padNet loaded sharedPlacement "b" = ⟨0, ""⟩ ∧
        padNet loaded sharedPlacement "c" = ⟨1, "GND"⟩ := by
  have apart : ∀ net ∈ sharedConversion.written.nets, net ∉ reservedNames := by decide
  obtain ⟨-, -, runs, numbers⟩ := render_numbered convert_shared rfl (by decide) apart []
  obtain ⟨loaded, loads⟩ := runs isShort_shared
  obtain ⟨index, out, printed, numbering, rendered, -, inOrder, nets, -⟩ :=
    (numbers loaded (.running isShort_shared loads)).renders sharedPlacement (.inl rfl)
  have ground : index "GND" = 1 := by
    have counts := numbering.counts
    rw [← length_boardOrder, show boardOrder _ = ["GND"] from rfl] at counts
    exact (List.cons.inj counts).1
  have net (pad : String) (shown : pad ∈ ["a", "b", "c"]) :=
    (nets pad (inOrder.mem_iff.mpr shown)).2
  refine ⟨convert_shared, rfl, by decide, apart, isShort_shared, loaded, out, loads, rendered, ?_, ?_, ?_⟩
  · rw [net "a" (by decide), ← ground]
    rfl
  · rw [net "b" (by decide), ← numbering.empty]
    rfl
  · rw [net "c" (by decide), ← ground]
    rfl

end FootprintTemplate.Preview
