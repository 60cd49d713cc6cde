import FootprintTemplate.Proofs.Script.Template
import FootprintTemplate.Proofs.Writer.Layout
import FootprintTemplate.Proofs.Writer.Placed

/-! Written text inside a template literal. A script reads the text of the source as itself, and each
substitution as the place that the writer put there. -/
namespace FootprintTemplate.Writer

open Script (Contents IsLiteral IsPassed ReadsTemplate Separates isPlain)
open Sexpr (Item Node unquote)
open Template (Filling Fragment fill)
open Text (Units units unitsOfChars)

section Contents

/-- The text that a piece stands for itself. -/
def literal? : Fragment → Option Units
  | .punct text => some (units text)
  | .source text => some (unitsOfChars (Script.lineFeeds text.toList))
  | _ => none

/-- The expression of a place, between the marks of its substitution. -/
def expression (netOf : String → String) (fragment : Fragment) : List Char :=
  ((fragment.chars netOf).drop 2).dropLast

/-- What a template literal of these pieces is to hold: their texts, and their places in order. -/
def contents (netOf : String → String) : List Fragment → Contents
  | [] => {}
  | fragment :: rest =>
    match literal? fragment with
    | some text => (contents netOf rest).prepend text
    | none => (contents netOf rest).substitute (expression netOf fragment)

def places (fragments : List Fragment) : List Fragment :=
  fragments.filter fun fragment => (literal? fragment).isNone

/-- With the values of its places, a template literal stands for the text that is filled in. -/
theorem filled_contents (netOf : String → String) (filling : Filling) (fragments : List Fragment) :
    (contents netOf fragments).filled
        ((places fragments).map fun place => unitsOfChars (place.fill filling)) =
      unitsOfChars (fill filling fragments) := by
  induction fragments with
  | nil => rfl
  | cons fragment rest ih =>
    have split : fill filling (fragment :: rest) =
        fragment.fill filling ++ fill filling rest := rfl
    rw [split, Text.unitsOfChars_append, ← ih, contents]
    cases place : literal? fragment with
    | none =>
      have own : places (fragment :: rest) = fragment :: places rest := by simp [places, place]
      rw [own]
      simp [Contents.filled, Contents.substitute]
    | some text =>
      have own : places (fragment :: rest) = places rest := by simp [places, place]
      have same : unitsOfChars (fragment.fill filling) = text := by
        cases fragment <;> cases place <;> rfl
      rw [own, same]
      simp [Contents.filled, Contents.prepend]

theorem expressions_contents (netOf : String → String) (fragments : List Fragment) :
    (contents netOf fragments).more.map Prod.fst =
      (places fragments).map (expression netOf) := by
  induction fragments with
  | nil => rfl
  | cons fragment rest ih =>
    rw [contents]
    cases place : literal? fragment with
    | none =>
      have own : places (fragment :: rest) = fragment :: places rest := by simp [places, place]
      rw [own, List.map_cons, ← ih]
      rfl
    | some text =>
      have own : places (fragment :: rest) = places rest := by simp [places, place]
      rw [own, ← ih]
      rfl

end Contents

section Firm

/-- Neither text of the source nor text that could change the meaning of what stands next to it. -/
def isFirm : Fragment → Bool
  | .punct text => text != "" && text.toList.all isPlain
  | .source _ => false
  | .coordinate x => Number.isNumber x
  | .rotation (some delta) => Number.isNumber delta
  | _ => true

/-- Text of the source stands only after other pieces, never next to more of it. -/
inductive Guarded : List Fragment → Prop where
  | nil : Guarded []
  | firm {fragment : Fragment} {rest : List Fragment} (isFirm : isFirm fragment = true)
      (more : Guarded rest) : Guarded (fragment :: rest)
  | source {fragment : Fragment} {text : String} {rest : List Fragment}
      (isFirm : isFirm fragment = true) (more : Guarded rest) :
      Guarded (fragment :: .source text :: rest)

theorem Guarded.append {first second : List Fragment} (one : Guarded first)
    (other : Guarded second) : Guarded (first ++ second) := by
  induction one with
  | nil => exact other
  | firm isFirm _ ih => exact .firm isFirm ih
  | source isFirm _ ih => exact .source isFirm ih

theorem Guarded.front {first second : List Fragment} (guarded : Guarded (first ++ second)) :
    Guarded first := by
  generalize whole : first ++ second = fragments at guarded
  induction guarded generalizing first with
  | nil => cases (List.append_eq_nil_iff.mp whole).1; exact .nil
  | firm isFirm _ ih =>
    cases first with
    | nil => exact .nil
    | cons =>
      cases whole
      exact .firm isFirm (ih rfl)
  | source isFirm _ ih =>
    match first with
    | [] => exact .nil
    | [_] =>
      cases whole
      exact .firm isFirm .nil
    | _ :: _ :: _ =>
      cases whole
      exact .source isFirm (ih rfl)

theorem Guarded.isFirm {fragments : List Fragment} (guarded : Guarded fragments)
    {fragment : Fragment} (member : fragment ∈ fragments) (place : literal? fragment = none) :
    isFirm fragment = true := by
  induction guarded with
  | nil => cases member
  | firm isFirm _ ih =>
    rcases List.mem_cons.mp member with rfl | member
    · exact isFirm
    · exact ih member
  | source isFirm _ ih =>
    rcases List.mem_cons.mp member with rfl | member
    · exact isFirm
    · rcases List.mem_cons.mp member with rfl | member
      · cases place
      · exact ih member

end Firm

section Passed

theorem isNeutral_of_isLiteralChar {c : Char} (digit : Number.isLiteralChar c = true) :
    Script.isNeutral c = true := by
  cases neutral : Script.isNeutral c with
  | true => rfl
  | false =>
    simp only [Script.isNeutral, Bool.not_eq_false', List.contains_iff_mem, List.mem_cons,
      List.not_mem_nil, or_false] at neutral
    obtain rfl | rfl | rfl | rfl | rfl | rfl := neutral <;> exact absurd digit (by decide)

theorem all_isNeutral {text : String} (number : Number.isNumber text = true) :
    text.toList.all Script.isNeutral = true :=
  List.all_eq_true.mpr fun c member =>
    isNeutral_of_isLiteralChar (Number.isLiteralChar_of_isNumber number c member)

theorem isPassed_number {text : String} (number : Number.isNumber text = true) :
    IsPassed text.toList :=
  Script.isPassed_of_isNeutral (all_isNeutral number)

theorem isPassed_mirrored {text : String} (number : Number.isNumber text = true) :
    IsPassed (Number.mirrorChars text.toList) := by
  have neutral := all_isNeutral number
  refine Script.isPassed_of_isNeutral ?_
  unfold Number.mirrorChars
  split
  · rename_i rest shape
    rw [shape] at neutral
    exact neutral
  · exact neutral

theorem isPassed_angle {delta : Option String}
    (number : ∀ text ∈ delta, Number.isNumber text = true) :
    IsPassed (Template.Fragment.angle delta).chars := by
  cases delta with
  | none => exact Script.isPassed_of_isNeutral rfl
  | some text =>
    have shape : (Template.Fragment.angle (some text)).chars =
        "(((p.r + ".toList ++ text.toList ++ ") % 360) + 360) % 360".toList := by
      simp [Fragment.angle, Template.Angle.turned, Template.Angle.chars, Template.Angle.enclosed,
        Template.Angle.isCompound, Template.Angle.fullTurn]
    rw [shape]
    exact ((Script.isPassed_of_isNeutral rfl).append (isPassed_number (number text rfl))).append
      (Script.isPassed_of_isNeutral rfl)

theorem isPassed_choice {flipped plain : List Char} (one : IsPassed flipped)
    (other : IsPassed plain) :
    IsPassed ("(flip ? ".toList ++ flipped ++ " : ".toList ++ plain ++ [')']) :=
  ((((Script.isPassed_of_isNeutral rfl).append one).append
    (Script.isPassed_of_isNeutral rfl)).append other).append (Script.isPassed_of_isNeutral rfl)

variable (netOf : String → String)

/-- A place is a substitution that is passed up to its own brace. -/
theorem isPassed_expression {fragment : Fragment} (firm : isFirm fragment = true)
    (place : literal? fragment = none) :
    IsPassed (expression netOf fragment) ∧
      fragment.chars netOf = Fragment.substitution (expression netOf fragment) := by
  have inside {text : List Char} (passed : IsPassed text)
      (same : fragment.chars netOf = Fragment.substitution text) :
      IsPassed (expression netOf fragment) ∧
        fragment.chars netOf = Fragment.substitution (expression netOf fragment) := by
    have own : expression netOf fragment = text := by
      rw [expression, same, Fragment.substitution]
      exact List.dropLast_concat
    rw [own]
    exact ⟨passed, same⟩
  cases fragment with
  | punct | source => cases place
  | coordinate x =>
    exact inside (isPassed_choice (isPassed_mirrored firm) (isPassed_number firm)) rfl
  | faced flipped plain =>
    exact inside (isPassed_choice (Script.isPassed_stringLiteral _)
      (Script.isPassed_stringLiteral _)) rfl
  | rotation delta =>
    refine inside (isPassed_angle fun text given => ?_) rfl
    cases given
    exact firm
  | mirrorFlag mirrored =>
    exact inside ((((Script.isPassed_of_isNeutral rfl).append
      (Script.isPassed_stringLiteral _)).append (Script.isPassed_of_isNeutral rfl)).append
        (Script.isPassed_stringLiteral _)) rfl
  | net pad =>
    exact inside (Script.isPassed_propertyAccess (Script.isPassed_of_isNeutral rfl) _) rfl

end Passed

section Reading

variable (netOf : String → String)

theorem chars_cons (fragment : Fragment) (rest : List Fragment) :
    Template.chars netOf (fragment :: rest) =
      fragment.chars netOf ++ Template.chars netOf rest := rfl

theorem separates_firm {fragment : Fragment} (firm : isFirm fragment = true) (rest : List Char) :
    Separates (fragment.chars netOf ++ rest) := by
  cases place : literal? fragment with
  | none =>
    rw [(isPassed_expression netOf firm place).2]
    exact ⟨by simp [Fragment.substitution], by simp [Fragment.substitution]⟩
  | some =>
    cases fragment with
    | source => cases firm
    | coordinate | faced | rotation | mirrorFlag | net => cases place
    | punct text =>
      simp only [isFirm, Bool.and_eq_true, bne_iff_ne] at firm
      obtain ⟨filled, plain⟩ := firm
      cases shape : text.toList with
      | nil => exact absurd (String.toList_eq_nil_iff.mp shape) filled
      | cons c more =>
        rw [shape, List.all_cons, Bool.and_eq_true] at plain
        simp only [isPlain, Bool.and_eq_true, bne_iff_ne] at plain
        rw [Fragment.chars, shape]
        exact ⟨by simp [plain], by simp [plain]⟩

theorem Guarded.separates {fragments : List Fragment} (guarded : Guarded fragments)
    (rest : List Char) : Separates (Template.chars netOf fragments ++ '\x60' :: rest) := by
  cases guarded with
  | nil => exact ⟨by simp [Template.chars], by simp [Template.chars]⟩
  | firm firm =>
    rw [chars_cons, List.append_assoc]
    exact separates_firm netOf firm _
  | source firm =>
    rw [chars_cons, List.append_assoc]
    exact separates_firm netOf firm _

theorem reads_firm {fragment : Fragment} {rest : List Fragment} {text after : List Char}
    (firm : isFirm fragment = true)
    (more : ReadsTemplate text (contents netOf rest) after) :
    ReadsTemplate (fragment.chars netOf ++ text) (contents netOf (fragment :: rest)) after := by
  cases place : literal? fragment with
  | none =>
    obtain ⟨passed, shape⟩ := isPassed_expression netOf firm place
    rw [contents, place, shape, Fragment.substitution, List.cons_append, List.cons_append,
      List.append_assoc]
    exact more.substitute passed
  | some own =>
    rw [contents, place]
    cases fragment with
    | source => cases firm
    | coordinate | faced | rotation | mirrorFlag | net => cases place
    | punct text =>
      cases place
      simp only [isFirm, Bool.and_eq_true] at firm
      exact more.prepend (Script.isLiteral_of_isPlain firm.2 _)

/-- A template literal of these pieces holds what it is to hold. -/
theorem Guarded.reads {fragments : List Fragment} (guarded : Guarded fragments)
    (rest : List Char) :
    ReadsTemplate (Template.chars netOf fragments ++ '\x60' :: rest) (contents netOf fragments)
      rest := by
  induction guarded with
  | nil => exact .close rest
  | firm firm _ ih =>
    rw [chars_cons, List.append_assoc]
    exact reads_firm netOf firm ih
  | @source fragment text others firm more ih =>
    obtain ⟨written, literal⟩ := Script.isLiteral_escapeTemplate text.toList
    have inner : ReadsTemplate _ (contents netOf (.source text :: others)) rest :=
      ih.prepend (literal _ (more.separates netOf rest))
    rw [chars_cons, chars_cons, List.append_assoc, List.append_assoc]
    exact reads_firm netOf firm inner

end Reading

section Rules

variable {kind : String} {items : List Item} {rule : Rule} {layout : Layout}

theorem guarded_layerName (name : String) {rest : List Fragment} (more : Guarded rest) :
    Guarded (.punct "\"" :: layerName name :: rest) := by
  unfold layerName
  split
  · exact .firm rfl (.firm rfl more)
  · exact .source rfl more

theorem guarded_layerEntry (name : String) : Guarded (layerEntry name) := by
  unfold layerEntry layerParts
  split
  · exact .firm rfl (.source rfl (.firm rfl .nil))
  · exact .firm rfl (.source rfl (.firm rfl .nil))
  · exact .source rfl (.firm rfl .nil)

theorem guarded_layerEntries (names : List String) :
    Guarded (names.flatMap fun text => layerEntry (unquote text)) := by
  induction names with
  | nil => exact .nil
  | cons name rest ih => exact (guarded_layerEntry _).append ih

theorem guarded_atCoordinate {x : String} (number : Number.isNumber x = true)
    {rest : List Fragment} (more : Guarded rest) :
    Guarded (.punct "(at " :: atCoordinate x :: rest) := by
  unfold atCoordinate
  split
  · exact .source rfl more
  · exact .firm rfl (.firm number more)

theorem Lays.guarded_head (lays : Lays kind rule items layout) : Guarded layout.head := by
  cases lays with
  | generic => exact .source rfl .nil
  | unconnected | pad => exact .source rfl (.firm rfl .nil)
  | xy numberX => exact .source rfl (.firm rfl (.firm numberX (.source rfl .nil)))
  | layer => exact .firm rfl (guarded_layerName _ (.firm rfl .nil))
  | layers => exact .firm rfl (guarded_layerEntries _)
  | @«at» _ _ delta _ placement =>
    refine guarded_atCoordinate placement.x (.source rfl (.firm rfl (.firm ?_ .nil)))
    cases delta with
    | none => rfl
    | some text => exact placement.delta text rfl
  | effects | justify => exact .firm rfl .nil
  | dropped => exact .nil

theorem Lays.guarded_tail (lays : Lays kind rule items layout) : Guarded layout.tail := by
  cases lays with
  | pad => exact .firm rfl (.firm rfl (.firm rfl .nil))
  | effects =>
    refine Guarded.append ?_ (.firm rfl .nil)
    split
    · exact .nil
    · exact .firm rfl (.firm rfl (.firm rfl (.firm rfl .nil)))
  | justify => exact .firm rfl (.firm rfl .nil)
  | dropped => exact .nil
  | generic | unconnected | xy | layer | layers | «at» => exact .firm rfl .nil

end Rules

section Drafts

variable {kind : String} {items : List Item}

/-- Where the draft succeeds, its text is guarded by the space before it. -/
def Spaced (draft : Text) : Prop :=
  ∀ fragments, draft.outcome = .ok fragments → Guarded (.punct " " :: fragments)

theorem guarded_placedAll (all : ∀ item ∈ items, Spaced (writeItem (some kind) item))
    {fragments : List Fragment}
    (ok : (placedAll kind (items.map (partOf kind))).outcome = .ok fragments) :
    Guarded fragments := by
  induction items generalizing fragments with
  | nil =>
    cases Except.ok.inj ok
    exact .nil
  | cons item rest ih =>
    obtain ⟨first, others⟩ := List.forall_mem_cons.mp all
    cases dropped : (partOf kind item).isDropped kind with
    | true =>
      rw [placedAll_dropped dropped] at ok
      exact ih others ok
    | false =>
      obtain ⟨own, inner, okOwn, okRest, rfl⟩ := (placedAll_kept_eq_ok dropped).mp ok
      exact (first own okOwn).append (ih others okRest)

theorem guarded_node {parent : Option String}
    (all : ∀ item ∈ items, Spaced (writeItem (some kind) item)) {fragments : List Fragment}
    (ok : (writeItem parent (.node kind items)).outcome = .ok fragments) : Guarded fragments := by
  rw [writeItem_node] at ok
  obtain ⟨layout, inner, lays, okInner, rfl⟩ := exists_layout ok
  have kids := lays.kids_subset
  exact (lays.guarded_head.append
    (guarded_placedAll (fun item member => all item (kids member)) okInner)).append
      lays.guarded_tail

mutual
theorem spaced_item (parent : Option String) (item : Item) : Spaced (writeItem parent item) := by
  intro fragments ok
  cases item with
  | atom text =>
    cases Except.ok.inj ok
    exact .source rfl .nil
  | node kind items => exact .firm rfl (guarded_node (spaced_items kind items) ok)

theorem spaced_items (kind : String) (items : List Item) :
    ∀ item ∈ items, Spaced (writeItem (some kind) item) := by
  cases items with
  | nil => exact fun _ member => nomatch member
  | cons item rest =>
    exact List.forall_mem_cons.mpr ⟨spaced_item (some kind) item, spaced_items kind rest⟩
end

end Drafts

section Written

/-- The text written for a node stays literal. Cut off after any piece and closed by a back quote, it
is read in just one way: as the texts and places of the pieces before the cut, with nothing left of
them. With the values of the places, these texts are the text of the placed tree. -/
theorem write_literal (parent : Option String) (node : Node) {fragments : List Fragment}
    (written : (write parent node).outcome = .ok fragments) (netOf : String → String) :
    (∀ front back, fragments = front ++ back → ∀ rest held other,
      ReadsTemplate (Template.chars netOf front ++ '\x60' :: rest) held other ↔
        held = contents netOf front ∧ other = rest) ∧
    (contents netOf fragments).more.map Prod.fst = (places fragments).map (expression netOf) ∧
    (∀ place ∈ places fragments,
      place.chars netOf = Fragment.substitution (expression netOf place)) ∧
    (isLeftOut parent node.item = false →
      ∀ stance filling, Stance.Fits stance (write parent node).pads filling →
        (contents netOf fragments).filled
            ((places fragments).map fun place => unitsOfChars (place.fill filling)) =
          unitsOfChars ((placed stance).item parent node.item).chars) := by
  have guarded : Guarded fragments := guarded_node (spaced_items node.kind node.items) written
  refine ⟨?_, expressions_contents netOf fragments, ?_, ?_⟩
  · rintro front back rfl rest held other
    have reads := guarded.front.reads netOf rest
    constructor
    · exact fun another => another.unique reads
    · rintro ⟨rfl, rfl⟩
      exact reads
  · intro place member
    obtain ⟨own, isPlace⟩ := List.mem_filter.mp member
    have noText : literal? place = none := by simpa using isPlace
    exact (isPassed_expression netOf (guarded.isFirm own noText) noText).2
  · intro stays stance filling fits
    rw [filled_contents, fills_item stance parent node.item stays fragments written filling fits]

/-- Quotes, backslashes, dollar signs and line ends where a template could take them for its own. -/
def dollarText : Node :=
  ⟨"fp_$", [.atom "\x7b\x60", .atom "\"\r\n\\\"", .node "layer" [.atom "\"F.$\x7b\\\""]]⟩

theorem write_literal_dollarText :
    isLeftOut none dollarText.item = false ∧
      ∃ fragments, (write none dollarText).outcome = .ok fragments ∧
        (∀ rest held other,
          ReadsTemplate (Template.chars id fragments ++ '\x60' :: rest) held other ↔
            held = ⟨units "(fp_$ \x7b\x60 \"\n\\\" (layer \"",
              [("(flip ? \"B.$\x7b\\\\\" : \"F.$\x7b\\\\\")".toList, units "\"))")]⟩ ∧
            other = rest) ∧
        (contents id fragments).filled [units "F.$\x7b\\"] =
          units "(fp_$ \x7b\x60 \"\n\\\" (layer \"F.$\x7b\\\"))" := by
  obtain ⟨reads, -, -, texts⟩ := write_literal none dollarText rfl id
  refine ⟨rfl, _, rfl, fun rest => reads _ [] (List.append_nil _).symm rest, ?_⟩
  exact texts rfl ⟨false, .nan, fun _ => ⟨0, ""⟩⟩ ⟨false, .inl .nan, fun _ => []⟩ ⟨rfl, rfl, nofun⟩

end Written

end FootprintTemplate.Writer
