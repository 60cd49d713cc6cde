import FootprintTemplate.Proofs.Writer.Layout

/-! Pads that are asked for. Writing a tree asks for its connected pads from the root on, and writes
a place for the net of each. -/
namespace FootprintTemplate.Writer

open Sexpr (Item unquote)
open Template (Fragment)

section Tree

/-- The identifier of a node that is a connected pad. -/
def ownPad? (kind : String) : List Item → Option String
  | .atom text :: _ => if kind == "pad" && unquote text != "" then some (unquote text) else none
  | _ => none

mutual
/-- The connected pads of an item in a parent of the given kind, each before those inside it. Nodes
that are left out are not entered. -/
def padsOf (parent : Option String) : Item → List String
  | .atom _ => []
  | .node kind items =>
    if (Rule.select parent kind).disposition == .skip then []
    else (ownPad? kind items).toList ++ padsOfAll kind items

def padsOfAll (kind : String) : List Item → List String
  | [] => []
  | item :: rest => padsOf (some kind) item ++ padsOfAll kind rest
end

end Tree

section Nets

def netPad? : Fragment → Option String
  | .net pad => some pad
  | _ => none

/-- The pads whose nets have places in the text. -/
def netPads (fragments : List Fragment) : List String :=
  fragments.filterMap netPad?

theorem netPads_append (first second : List Fragment) :
    netPads (first ++ second) = netPads first ++ netPads second :=
  List.filterMap_append

theorem netPads_cons_punct (text : String) (rest : List Fragment) :
    netPads (.punct text :: rest) = netPads rest := rfl

theorem mem_netPads {fragments : List Fragment} {pad : String} :
    pad ∈ netPads fragments ↔ .net pad ∈ fragments := by
  rw [netPads, List.mem_filterMap]
  constructor
  · rintro ⟨fragment, member, own⟩
    cases fragment <;> cases own
    exact member
  · exact fun member => ⟨_, member, rfl⟩

end Nets

section Layouts

variable {kind : String} {items : List Item} {rule : Rule} {layout : Layout}

theorem padsOfAll_atoms (kind : String) (texts : List String) :
    padsOfAll kind (texts.map .atom) = [] := by
  induction texts with
  | nil => rfl
  | cons text rest ih => exact ih

theorem padsOfAll_filter (kind : String) (items : List Item) :
    padsOfAll kind (items.filter (!isMirrorWord ·)) = padsOfAll kind items := by
  induction items with
  | nil => rfl
  | cons item rest ih =>
    rw [List.filter_cons, padsOfAll, ← ih]
    split
    · rfl
    · rename_i word
      cases item with
      | atom => rfl
      | node => exact absurd rfl word

theorem select_eq_pad {parent : Option String} : Rule.select parent kind = .pad ↔ kind = "pad" := by
  refine ⟨fun selected => Decidable.byContradiction fun other => ?_, fun pad => by rw [pad]; rfl⟩
  have apart : Rule.select parent kind ≠ .pad := by
    unfold Rule.select
    rw [if_neg (by simpa using other)]
    repeat' refine iteInduction (motive := (· ≠ Rule.pad)) (fun _ => ?_) (fun _ => ?_)
    all_goals exact nofun
  exact apart selected

theorem ownPad?_eq_none (other : kind ≠ "pad") (items : List Item) : ownPad? kind items = none := by
  cases items with
  | nil => rfl
  | cons item rest => cases item <;> simp [ownPad?, other]

theorem Lays.ask_eq (lays : Lays kind rule items layout) (own : rule = .pad ↔ kind = "pad") :
    layout.ask = ownPad? kind items := by
  have other (apart : rule ≠ .pad) : ownPad? kind items = none :=
    ownPad?_eq_none (fun pad => apart (own.mpr pad)) items
  cases lays with
  | generic plain => exact (other (by rintro rfl; revert plain; decide)).symm
  | unconnected empty => simp [ownPad?, empty]
  | pad connected => simp [ownPad?, own.mp rfl, connected]
  | dropped skip => exact (other (by rintro rfl; cases skip)).symm
  | _ => exact (other (by decide)).symm

theorem Lays.padsOfAll_kids (lays : Lays kind rule items layout)
    (written : rule.disposition ≠ .skip) :
    padsOfAll kind layout.kids = padsOfAll kind items := by
  cases lays with
  | generic | unconnected | pad | xy | layer | effects => rfl
  | layers => exact (padsOfAll_atoms kind _).symm
  | @«at» x y delta flags =>
    have items : padsOfAll kind (placementItems x y delta flags) = [] :=
      padsOfAll_atoms kind (x :: y :: (delta.toList ++ flags))
    rw [padsOfAll_atoms, items]
  | justify => exact padsOfAll_filter kind items
  | dropped skip => exact absurd skip written

theorem netPads_layerParts (name : String) : netPads (layerParts name) = [] := by
  unfold layerParts
  split <;> rfl

theorem netPads_layerEntries (names : List String) :
    netPads (names.flatMap fun text => layerEntry (unquote text)) = [] := by
  induction names with
  | nil => rfl
  | cons name rest ih =>
    have entry : netPads (layerEntry (unquote name)) = [] := by
      rw [layerEntry, netPads_cons_punct, netPads_append, netPads_layerParts]
      rfl
    rw [List.flatMap_cons, netPads_append, entry, ih]
    rfl

theorem netPads_head (lays : Lays kind rule items layout) : netPads layout.head = [] := by
  cases lays with
  | generic | unconnected | pad | xy | effects | justify | dropped => rfl
  | layer =>
    unfold layerName
    split <;> rfl
  | layers => exact netPads_layerEntries _
  | «at» =>
    unfold atCoordinate
    split <;> rfl

theorem netPads_tail (lays : Lays kind rule items layout) :
    netPads layout.tail = layout.ask.toList := by
  cases lays with
  | effects => split <;> rfl
  | _ => rfl

end Layouts

section Drafts

/-- Where the draft succeeds, it asks for these pads and has a place for the net of each. -/
def Asks (draft : Text) (pads : List String) : Prop :=
  ∀ fragments, draft.outcome = .ok fragments →
    draft.pads = pads ∧ (netPads fragments).Perm pads

variable {kind : String} {items : List Item}

theorem padsOf_dropped {item : Item} (dropped : (partOf kind item).isDropped kind = true) :
    padsOf (some kind) item = [] := by
  cases item with
  | atom => cases dropped
  | node => exact if_pos dropped

theorem asks_placedAll
    (all : ∀ item ∈ items, Asks (writeItem (some kind) item) (padsOf (some kind) item)) :
    Asks (placedAll kind (items.map (partOf kind))) (padsOfAll kind items) := by
  induction items with
  | nil =>
    intro fragments ok
    cases Except.ok.inj ok
    exact ⟨rfl, .nil⟩
  | cons item rest ih =>
    obtain ⟨first, others⟩ := List.forall_mem_cons.mp all
    intro fragments ok
    cases dropped : (partOf kind item).isDropped kind with
    | true =>
      rw [placedAll_dropped dropped] at ok ⊢
      rw [padsOfAll, padsOf_dropped dropped, List.nil_append]
      exact ih others fragments ok
    | false =>
      obtain ⟨own, inner, okOwn, okRest, rfl⟩ := (placedAll_kept_eq_ok dropped).mp ok
      obtain ⟨pads, nets⟩ := first own okOwn
      obtain ⟨padsRest, netsRest⟩ := ih others inner okRest
      refine ⟨by rw [pads_placedAll_kept dropped okOwn, pads, padsRest, padsOfAll], ?_⟩
      rw [List.cons_append, netPads_cons_punct, netPads_append, padsOfAll]
      exact nets.append netsRest

theorem asks_node {parent : Option String}
    (all : ∀ item ∈ items, Asks (writeItem (some kind) item) (padsOf (some kind) item)) :
    Asks (writeItem parent (.node kind items)) (padsOf parent (.node kind items)) := by
  intro fragments ok
  rw [writeItem_node] at ok ⊢
  by_cases skip : (Rule.select parent kind).disposition = .skip
  · rw [padsOf, if_pos (beq_iff_eq.mpr skip)]
    generalize Rule.select parent kind = rule at skip ok
    cases rule <;> cases skip
    all_goals
      cases Except.ok.inj ok
      exact ⟨rfl, .nil⟩
  · obtain ⟨layout, inner, lays, okInner, rfl⟩ := exists_layout ok
    rw [padsOf, if_neg (by simpa using skip), ← lays.ask_eq select_eq_pad,
      ← lays.padsOfAll_kids skip, lays.compose_eq]
    have kids := lays.kids_subset
    obtain ⟨pads, nets⟩ :=
      asks_placedAll (fun item member => all item (kids member)) inner okInner
    refine ⟨by rw [Layout.pads_draft okInner, pads], ?_⟩
    -- The net of a pad stands after its items, though it is asked for before them.
    rw [netPads_append, netPads_append, netPads_head lays, netPads_tail lays, List.nil_append]
    exact List.perm_append_comm.trans (nets.append_left _)

end Drafts

mutual
theorem asks_item (parent : Option String) (item : Item) :
    Asks (writeItem parent item) (padsOf parent item) := by
  cases item with
  | atom text =>
    intro fragments ok
    cases Except.ok.inj ok
    exact ⟨rfl, .nil⟩
  | node kind items => exact asks_node (asks_items kind items)

theorem asks_items (kind : String) (items : List Item) :
    ∀ item ∈ items, Asks (writeItem (some kind) item) (padsOf (some kind) item) := by
  cases items with
  | nil => exact fun _ member => nomatch member
  | cons item rest =>
    exact List.forall_mem_cons.mpr ⟨asks_item (some kind) item, asks_items kind rest⟩
end

end FootprintTemplate.Writer
