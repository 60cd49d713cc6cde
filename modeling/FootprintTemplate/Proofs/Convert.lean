import FootprintTemplate.Convert
import FootprintTemplate.Proofs.Writer.Draft

/-! What a conversion that succeeds consists of. -/
namespace FootprintTemplate

open Sexpr (Node)
open Writer (Draft)

namespace Writer.Draft

variable {α β : Type}

theorem bind_pure_eq_ok {draft : Draft α} {f : α → β} {result : β} :
    (draft.bind fun value => pure (f value)).outcome = .ok result ↔
      ∃ value, draft.outcome = .ok value ∧ f value = result := by
  simp only [bind_eq_ok, pure, Except.ok.injEq]

theorem pads_bind_pure (draft : Draft α) (f : α → β) :
    (draft.bind fun value => pure (f value)).pads = draft.pads := by
  obtain ⟨pads, outcome⟩ := draft
  cases outcome <;> simp [bind, pure]

theorem all_cons_eq_ok {draft : Draft α} {rest : List (Draft α)} {values : List α} :
    (all (draft :: rest)).outcome = .ok values ↔
      ∃ value others, draft.outcome = .ok value ∧ (all rest).outcome = .ok others ∧
        values = value :: others := by
  simp only [all, bind_eq_ok, pure, Except.ok.injEq]
  constructor
  · rintro ⟨value, ok, others, okRest, rfl⟩
    exact ⟨value, others, ok, okRest, rfl⟩
  · rintro ⟨value, others, ok, okRest, rfl⟩
    exact ⟨value, ok, others, okRest, rfl⟩

theorem pads_all_cons {draft : Draft α} {rest : List (Draft α)} {value : α}
    (ok : draft.outcome = .ok value) :
    (all (draft :: rest)).pads = draft.pads ++ (all rest).pads := by
  rw [all, pads_bind ok, pads_bind_pure]

theorem all_append (first second : List (Draft α)) :
    all (first ++ second) = (all first).bind fun values =>
      (all second).bind fun more => pure (values ++ more) := by
  induction first with
  | nil => simp [all]
  | cons draft rest ih => simp [all, ih, bind_assoc]

end Writer.Draft

section Statements

open Writer (Rule)

variable {root : String} {child : Node}

theorem draftStatement_skip (skip : (Rule.select (some root) child.kind).disposition = .skip) :
    draftStatement root child = .pure none := by
  simp [draftStatement, skip]

theorem draftStatement_write (written : (Rule.select (some root) child.kind).disposition ≠ .skip) :
    draftStatement root child = (Writer.write (some root) child).bind fun fragments =>
      .pure (some ⟨(Rule.select (some root) child.kind).disposition == .disabled, fragments⟩) := by
  simp [draftStatement, written]

theorem draftBody_eq_ok {footprint : Node} {layer : Option Statement} {sections : List Section} :
    (draftBody footprint).outcome = .ok (layer, sections) ↔
      (draftLayer footprint).outcome = .ok layer ∧
        (draftSections footprint).outcome = .ok sections := by
  rw [draftBody, Draft.bind_eq_ok]
  constructor
  · rintro ⟨own, okLayer, okRest⟩
    obtain ⟨parts, okSections, same⟩ := Draft.bind_pure_eq_ok.mp okRest
    cases same
    exact ⟨okLayer, okSections⟩
  · rintro ⟨okLayer, okSections⟩
    exact ⟨layer, okLayer, Draft.bind_pure_eq_ok.mpr ⟨sections, okSections, rfl⟩⟩

end Statements

/-- The namer once all pads of a footprint have been asked for. -/
def namerOf (config : Config) (footprint : Node) : NetNamer :=
  NetNamer.nameAll ⟨config, []⟩ (draftBody footprint).pads

theorem convert_eq_ok {config : Config} {footprint : Node} {conversion : Conversion} :
    convert config footprint = .ok conversion ↔
      (footprint.kind = "footprint" ∨ footprint.kind = "module") ∧
        ∃ layer sections, (draftBody footprint).outcome = .ok (layer, sections) ∧
          conversion = ⟨⟨config.designator, sideOf footprint,
            (namerOf config footprint).paramNames, header footprint, layer, sections⟩,
            namerOf config footprint⟩ := by
  unfold convert
  split
  · rename_i root
    simp only [Bool.or_eq_true, beq_iff_eq] at root
    simp only [root, true_and]
    split
    · rename_i failed
      simp [failed]
    · rename_i layer sections ok
      simp only [ok, Except.ok.injEq, Prod.mk.injEq]
      constructor
      · rintro rfl
        exact ⟨layer, sections, ⟨rfl, rfl⟩, rfl⟩
      · rintro ⟨_, _, ⟨rfl, rfl⟩, rfl⟩
        rfl
  · rename_i root
    simp only [Bool.or_eq_true, beq_iff_eq] at root
    simp [root]

theorem convertText_eq_ok {config : Config} {text : String} {conversion : Conversion} :
    convertText config text = .ok conversion ↔
      ∃ footprint, Sexpr.parse text = .ok footprint ∧
        convert config footprint = .ok conversion := by
  unfold convertText
  cases Sexpr.parse text <;> simp

end FootprintTemplate
