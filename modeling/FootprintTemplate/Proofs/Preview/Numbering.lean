import FootprintTemplate.Proofs.Nets
import FootprintTemplate.Proofs.Preview.Rendered
import Mathlib.Data.Finset.Card
import Mathlib.Data.List.Sort

/-! Numbers of nets. The net parameters of a module are resolved in their order, and a name of the
board gets its number where it first appears among them. Pads that share a name share its number. -/
namespace FootprintTemplate.Preview

open Sexpr (Node)
open Template (Filling Fragment fill)
open Writer (Draft padsOf)

section Board

/-- The names but for the empty one, each once and where it first appears. -/
def boardOrder (names : List String) : List String :=
  (names.filter (· != "")).eraseDups

def indexOn (board : List String) (net : String) : Nat :=
  if net == "" then 0 else board.idxOf net + 1

theorem mem_boardOrder {names : List String} {net : String} :
    net ∈ boardOrder names ↔ net ∈ names ∧ net ≠ "" := by
  rw [boardOrder, List.mem_eraseDups, List.mem_filter, bne_iff_ne]

theorem boardOrder_append (names more : List String) :
    boardOrder names <+: boardOrder (names ++ more) := by
  rw [boardOrder, boardOrder, List.filter_append, List.eraseDups_append]
  exact List.prefix_append _ _

theorem boardOrder_concat (names : List String) (net : String) :
    boardOrder (names ++ [net]) =
      if net = "" ∨ net ∈ names then boardOrder names else boardOrder names ++ [net] := by
  unfold boardOrder
  rw [List.filter_append]
  by_cases empty : net = ""
  · simp [empty]
  · have own : [net].filter (· != "") = [net] := by simp [empty]
    rw [own, NetNamer.eraseDups_concat]
    simp [empty]

theorem indexOn_append {names : List String} {net : String} (known : net ∈ names)
    (more : List String) :
    indexOn (boardOrder (names ++ more)) net = indexOn (boardOrder names) net := by
  unfold indexOn
  split
  · rfl
  · rename_i named
    obtain ⟨added, board⟩ := boardOrder_append names more
    have member : net ∈ boardOrder names := mem_boardOrder.mpr ⟨known, by simpa using named⟩
    rw [← board, List.idxOf_append_of_mem member]

/-- A net is numbered on the board that has it, whether it is new or not. -/
theorem number_eq (names : List String) (net : String) :
    number (boardOrder names) net =
      (indexOn (boardOrder (names ++ [net])) net, boardOrder (names ++ [net])) := by
  rw [boardOrder_concat]
  unfold number indexOn
  by_cases empty : net = ""
  · simp [empty]
  · have named : (net == "") = false := beq_false_of_ne empty
    simp only [named, Bool.false_eq_true, if_false, empty, false_or]
    by_cases known : net ∈ names
    · have member : net ∈ boardOrder names := mem_boardOrder.mpr ⟨known, empty⟩
      obtain ⟨i, found⟩ := Option.isSome_iff_exists.mp (List.isSome_idxOf?.mpr member)
      rw [if_pos known, found, List.idxOf_eq_getD_idxOf?, found]
      rfl
    · have new : net ∉ boardOrder names := fun member => known (mem_boardOrder.mp member).1
      rw [if_neg known, List.idxOf?_eq_none_iff.mpr new, List.idxOf_append_of_notMem new]
      simp

/-- Parameters that get a number. -/
def isNumbered (entry : String × Param) : Bool :=
  !(entry.1 == "side" || entry.2.kind != .net)

/-- The names on the board that the parameters stand for. -/
def numberedNames (nets : List (String × String)) (params : List (String × Param)) : List String :=
  (params.filter isNumbered).map fun entry => resolve nets entry.1 entry.2

/-- A parameter on the board with these names. -/
def onBoard (nets : List (String × String)) (names : List String) (entry : String × Param) :
    String × BoardNet :=
  (entry.1, ⟨indexOn (boardOrder names) (resolve nets entry.1 entry.2),
    resolve nets entry.1 entry.2⟩)

/-- The board on which all parameters are resolved has the number of each of them. -/
theorem boardNets_eq (nets : List (String × String)) (before : List String)
    (params : List (String × Param)) :
    boardNets nets (boardOrder before) params =
      (params.filter isNumbered).map (onBoard nets (before ++ numberedNames nets params)) := by
  -- The names before are those of the parameters that have their numbers already.
  induction params generalizing before with
  | nil => rfl
  | cons entry rest ih =>
    obtain ⟨name, param⟩ := entry
    rw [boardNets]
    split
    · rename_i skipped
      have same : ((name, param) :: rest).filter isNumbered = rest.filter isNumbered :=
        List.filter_cons_of_neg (by simp [isNumbered, skipped])
      rw [numberedNames, same]
      exact ih before
    · rename_i taken
      have more : ((name, param) :: rest).filter isNumbered =
          (name, param) :: rest.filter isNumbered :=
        List.filter_cons_of_pos (by simpa [isNumbered] using taken)
      have names : before ++ numberedNames nets ((name, param) :: rest) =
          (before ++ [resolve nets name param]) ++ numberedNames nets rest := by
        rw [numberedNames, more, List.map_cons, List.append_assoc]
        rfl
      have known : resolve nets name param ∈ before ++ [resolve nets name param] :=
        List.mem_append_right _ List.mem_cons_self
      dsimp only
      rw [number_eq, more, names, List.map_cons, ih, onBoard, indexOn_append known]

/-- Numbers for the names of nets. The empty name has number zero; the others have the numbers from
one on, in the order in which they first appear. -/
structure IsNumbering (names : List String) (index : String → Nat) : Prop where
  empty : index "" = 0
  eq_iff : ∀ net ∈ names, ∀ other ∈ names, index net = index other ↔ net = other
  counts : (boardOrder names).map index = List.range' 1 (names.toFinset.erase "").card

theorem length_boardOrder (names : List String) :
    (boardOrder names).length = (names.toFinset.erase "").card := by
  have once : (boardOrder names).Nodup := NetNamer.nodup_eraseDups _
  have same : (boardOrder names).toFinset = names.toFinset.erase "" := by
    ext net
    rw [List.mem_toFinset, mem_boardOrder, Finset.mem_erase, List.mem_toFinset, and_comm]
  rw [← same, List.toFinset_card_of_nodup once]

theorem isNumbering_indexOn (names : List String) :
    IsNumbering names (indexOn (boardOrder names)) where
  empty := rfl
  eq_iff net known other _ := by
    unfold indexOn
    by_cases first : net = "" <;> by_cases second : other = ""
    · simp [first, second]
    · simp [first, second, Ne.symm second]
    · simp [first, second]
    · have member : net ∈ boardOrder names := mem_boardOrder.mpr ⟨known, first⟩
      simpa [first, second] using List.idxOf_inj member
  counts := by
    have once : (boardOrder names).Nodup := NetNamer.nodup_eraseDups _
    refine List.ext_getElem (by simp [length_boardOrder]) fun i inside _ => ?_
    rw [List.length_map] at inside
    have named : (boardOrder names)[i] ≠ "" :=
      (mem_boardOrder.mp (List.getElem_mem inside)).2
    simp [indexOn, named, once.idxOf_getElem i inside, Nat.add_comm]

end Board

section Params

variable {m : Module} {defaults : List (String × String)} {params : List (String × Param)}

theorem map_fst_readParams {members : List (String × Value)}
    (reads : readParams (.record members) = .ok params) :
    params.map Prod.fst = (byName members).map Prod.fst := by
  refine map_of_mapM_eq_ok (fun member entry read => ?_) reads
  unfold readMember at read
  split at read
  · cases read
  · cases read
    rfl

theorem nodup_declaredParams (once : m.nets.Nodup) :
    ((declaredParams m defaults).map Prod.fst).Nodup := by
  have nets : (m.nets.filter (· != prototypeName)).Nodup := once.filter _
  rw [declaredParams, List.map_append, List.map_map]
  refine List.Nodup.append ?_ (by simpa [Function.comp_def] using nets) ?_
  · exact ((List.filter_sublist).map Prod.fst).nodup (by simp)
  · rintro name own net
    obtain ⟨⟨_, _⟩, member, rfl⟩ := List.mem_map.mp own
    have apart := (List.mem_filter.mp member).2
    simp [Function.comp_def] at net
    simp [net] at apart

theorem increasing_params (once : m.nets.Nodup)
    (reads : readParams (.record (declaredParams m defaults)) = .ok params) :
    (params.map Prod.fst).Pairwise (· < ·) := by
  have keys := map_fst_readParams reads
  have sorted : ((byName (declaredParams m defaults)).map Prod.fst).Pairwise (· ≤ ·) := by
    rw [List.pairwise_map]
    refine (List.pairwise_mergeSort ?_ ?_ _).imp fun before => by simpa using before
    · intro one two three first second
      simpa using String.le_trans (by simpa using first) (by simpa using second)
    · intro one two
      simpa using String.le_total one.1 two.1
  have distinct : ((byName (declaredParams m defaults)).map Prod.fst).Nodup :=
    ((List.mergeSort_perm _ _).map Prod.fst).nodup_iff.mpr (nodup_declaredParams once)
  rw [keys]
  exact NetNamer.increasing_of_sorted sorted distinct

theorem AreParams.filter_isNumbered (areParams : AreParams m params) (apart : "side" ∉ m.nets) :
    params.filter isNumbered = params.filter (·.2.kind == .net) := by
  refine List.filter_congr ?_
  rintro ⟨name, param⟩ inside
  by_cases isNet : param.kind = .net
  · have other : name ≠ "side" := by
      rintro rfl
      exact apart (areParams.onlyNets _ param inside isNet)
    simp [isNumbered, isNet, other]
  · have other : (param.kind == .net) = false := beq_false_of_ne isNet
    simp [isNumbered, other, bne]

section Increasing

variable (increasing : m.nets.Pairwise (· < ·))
  (reads : readParams (.record (declaredParams m defaults)) = .ok params)

include increasing reads

theorem netParams_of_ordinary (ordinary : prototypeName ∉ m.nets) : netParams params = m.nets := by
  have areParams := (areParams_of_readParams reads).1
  have sorted : (netParams params).Pairwise (· < ·) :=
    (increasing_params increasing.nodup reads).sublist ((List.filter_sublist).map Prod.fst)
  refine sorted.eq_of_mem_iff increasing fun net => ?_
  have member : net ∈ netParams params ↔ ∃ param, (net, param) ∈ params ∧ param.kind = .net := by
    simp [netParams]
  rw [member]
  constructor
  · rintro ⟨param, inside, isNet⟩
    exact areParams.onlyNets net param inside isNet
  · intro declared
    refine areParams.declared net declared ?_
    rintro rfl
    exact ordinary declared

end Increasing

variable (increasing : m.nets.Pairwise (· < ·)) (apart : ∀ net ∈ m.nets, net ∉ reservedNames)
  (reads : readParams (.record (declaredParams m defaults)) = .ok params)

include increasing apart reads

theorem netParams_eq : netParams params = m.nets :=
  netParams_of_ordinary increasing reads fun declared => apart _ declared (by decide)

/-- The net of the board that a net parameter stands for: the one it is mapped to, else its default,
else its own name. -/
def boardName (defaults nets : List (String × String)) (net : String) : String :=
  (nets.lookup net).getD ((defaults.lookup net).getD net)

theorem boardNets_params (nets : List (String × String)) :
    boardNets nets [] params = m.nets.map fun net => (net,
      ⟨indexOn (boardOrder (m.nets.map (boardName defaults nets))) (boardName defaults nets net),
        boardName defaults nets net⟩) := by
  obtain ⟨areParams, default⟩ := areParams_of_readParams reads
  have numbered := areParams.filter_isNumbered fun side => apart _ side (by decide)
  have resolved : ∀ entry ∈ params.filter isNumbered,
      resolve nets entry.1 entry.2 = boardName defaults nets entry.1 := by
    rintro ⟨name, param⟩ member
    rw [numbered] at member
    obtain ⟨inside, isNet⟩ := List.mem_filter.mp member
    rw [resolve, default name param inside (by simpa using isNet), boardName]
  have names : (params.filter isNumbered).map Prod.fst = m.nets := by
    rw [numbered]
    exact netParams_eq increasing apart reads
  have onNames : numberedNames nets params = m.nets.map (boardName defaults nets) := by
    rw [numberedNames, List.map_congr_left resolved, ← names, List.map_map]
    rfl
  have closed := boardNets_eq nets [] params
  rw [onNames, List.nil_append] at closed
  rw [show ([] : List String) = boardOrder [] from rfl, closed]
  generalize m.nets.map (boardName defaults nets) = whole
  rw [← names, List.map_map]
  refine List.map_congr_left fun entry member => ?_
  rw [onBoard, resolved entry member]
  rfl

end Params

section Printing

/-- The nets of these pads stand in the text in this order. -/
inductive Prints (net : String → List Char) : List String → List Char → Prop
  | done (chars : List Char) : Prints net [] chars
  | pad (front : List Char) (pad : String) {pads : List String} {rest : List Char}
      (more : Prints net pads rest) : Prints net (pad :: pads) (front ++ (net pad ++ rest))

variable {net shown : String → List Char} {pads asked : List String} {chars rest : List Char}

theorem Prints.after (front : List Char) (prints : Prints net pads rest) :
    Prints net pads (front ++ rest) := by
  cases prints with
  | done => exact .done _
  | pad between pad more =>
    rw [← List.append_assoc]
    exact .pad (front ++ between) pad more

theorem Prints.append (start : Prints net pads chars) (more : Prints net asked rest) :
    Prints net (pads ++ asked) (chars ++ rest) := by
  induction start with
  | done chars => exact more.after chars
  | pad front pad _ ih =>
    rw [List.append_assoc, List.append_assoc, List.cons_append]
    exact .pad front pad ih

theorem Prints.congr (same : ∀ pad ∈ pads, net pad = shown pad) (prints : Prints net pads chars) :
    Prints shown pads chars := by
  induction prints with
  | done chars => exact .done chars
  | pad front pad _ ih =>
    obtain ⟨own, others⟩ := List.forall_mem_cons.mp same
    rw [own]
    exact .pad front pad (ih others)

theorem prints_fill (filling : Filling) (fragments : List Fragment) :
    Prints filling.net (Writer.netPads fragments) (fill filling fragments) := by
  induction fragments with
  | nil => exact .done []
  | cons fragment rest ih =>
    cases fragment with
    | net pad => exact .pad [] pad ih
    | _ => exact ih.after _

/-- The connected pads of the children that are shown. -/
def shownPads (root : String) (children : List Node) : List String :=
  (children.filter (isShown root)).flatMap fun child => padsOf (some root) child.item

theorem shownPads_append (root : String) (before after : List Node) :
    shownPads root (before ++ after) = shownPads root before ++ shownPads root after := by
  rw [shownPads, List.filter_append, List.flatMap_append]
  rfl

/-- The lines of these statements, each on its own line, print the nets of the pads. -/
def PrintsPads (root : String) (statements : List Statement) (children : List Node) : Prop :=
  ∀ filling : Filling, ∃ printed, printed.Perm (shownPads root children) ∧
    Prints filling.net printed ((statements.flatMap (Statement.lines filling)).flatMap ('\n' :: ·))

theorem printsPads_draftStatement {root : String} {child : Node} {statement : Option Statement}
    (ok : (draftStatement root child).outcome = .ok statement) :
    PrintsPads root statement.toList [child] := by
  intro filling
  by_cases shown : isShown root child = true
  · have emits : (Writer.Rule.select (some root) child.kind).disposition = .emit := by
      simpa [isShown] using shown
    rw [draftStatement_write (by simp [emits]), emits] at ok
    obtain ⟨fragments, okFragments, rfl⟩ := Draft.bind_pure_eq_ok.mp ok
    obtain ⟨-, places⟩ := Writer.asks_item (some root) child.item fragments okFragments
    refine ⟨Writer.netPads fragments, ?_, ?_⟩
    · simpa [shownPads, shown] using places
    · have line : ((some (Statement.mk false fragments)).toList.flatMap
          (Statement.lines filling)).flatMap ('\n' :: ·) = ['\n'] ++ fill filling fragments := by
        simp [Statement.lines]
      exact line ▸ (prints_fill filling fragments).after ['\n']
  · have none : shownPads root [child] = [] := by simp [shownPads, shown]
    rw [none]
    exact ⟨[], .nil, .done _⟩

theorem gathers_prints (root : String) :
    Gathers root fun _ statements children => PrintsPads root statements children where
  nil := fun _ => ⟨[], .nil, .done []⟩
  append start rest := by
    intro filling
    obtain ⟨pads, inOrder, first⟩ := start filling
    obtain ⟨more, moreInOrder, second⟩ := rest filling
    rw [List.flatMap_append, List.flatMap_append, shownPads_append]
    exact ⟨pads ++ more, inOrder.append moreInOrder, first.append second⟩
  child := printsPads_draftStatement

variable {config : Config} {footprint : Node} {conversion : Conversion}

theorem prints_module (converted : convert config footprint = .ok conversion) (place : List Char)
    (filling : Filling) : ∃ printed,
      printed.Perm (shownPads footprint.kind (writtenChildren footprint)) ∧
        Prints filling.net printed (conversion.written.fill place filling) := by
  obtain ⟨-, layer, sections, ok, rfl⟩ := convert_eq_ok.mp converted
  obtain ⟨printed, inOrder, prints⟩ := (gathers_prints footprint.kind).draftBody ok filling
  refine ⟨printed, inOrder, ?_⟩
  have whole := (prints.after ('\n' :: place)).append (.done ['\n', ')'])
  rw [Module.fill, join_eq, List.flatMap_cons, List.flatMap_append]
  rw [List.append_nil] at whole
  exact Prints.after _ (by simpa [Module.statements] using whole)

end Printing

section Rendering

variable {config : Config} {footprint : Node} {conversion : Conversion} {loaded : Loaded}
  {defaults : List (String × String)} {placement : Placement}

/-- A module that needs no script renders each placement as if it were the first. -/
theorem renderAll_append (noSession : loaded.session = none) (before : List Placement)
    (placement : Placement) :
    renderAll loaded (before ++ [placement]) =
      renderAll loaded before ++ [render loaded placement] := by
  induction before with
  | nil => rfl
  | cons first rest ih =>
    have stays : (place loaded first).2 = loaded := by rw [place, noSession]
    simp only [List.cons_append, renderAll, stays, ih]

section Loaded

variable (converted : convert config footprint = .ok conversion)

include converted

theorem increasing_nets : conversion.written.nets.Pairwise (· < ·) := by
  obtain ⟨-, layer, sections, -, shape⟩ := convert_eq_ok.mp converted
  rw [shape]
  exact NetNamer.paramNames_increasing _

theorem shownPads_subset : shownPads footprint.kind (writtenChildren footprint) ⊆
    (draftBody footprint).pads := by
  obtain ⟨-, layer, sections, ok, -⟩ := convert_eq_ok.mp converted
  obtain ⟨asked, -⟩ := (gathers_asks footprint.kind).draftBody ok
  rw [asked]
  intro pad member
  obtain ⟨child, shown, own⟩ := List.mem_flatMap.mp member
  exact List.mem_flatMap.mpr ⟨child, (List.mem_filter.mp shown).1, own⟩

end Loaded

theorem padNet_eq (converted : convert config footprint = .ok loaded.conversion)
    (apart : ∀ net ∈ loaded.conversion.written.nets, net ∉ reservedNames)
    (reads : readParams (.record (declaredParams loaded.conversion.written defaults)) =
      .ok loaded.params) {pad : String} (asked : pad ∈ (draftBody footprint).pads) :
    let name := boardName defaults placement.nets
    padNet loaded placement pad =
      ⟨indexOn (boardOrder (loaded.conversion.written.nets.map name))
        (name (loaded.conversion.namer.netOf pad)), name (loaded.conversion.namer.netOf pad)⟩ := by
  intro name
  have declared := netOf_mem_nets converted asked
  rw [padNet, boardNets_params (increasing_nets converted) apart reads,
    List.lookup_graph _ declared]
  rfl

end Rendering

end FootprintTemplate.Preview
