import FootprintTemplate.Writer.Write

/-! Drafts of template text put together. A draft that succeeds is made of drafts that succeed. -/
namespace FootprintTemplate.Writer

open Sexpr (Item)
open Template (Filling Fragment fill)

theorem fill_append (filling : Filling) (first second : List Fragment) :
    fill filling (first ++ second) = fill filling first ++ fill filling second :=
  List.flatMap_append

namespace Draft

theorem bind_eq_ok {α β : Type} {draft : Draft α} {next : α → Draft β} {result : β} :
    (draft.bind next).outcome = .ok result ↔
      ∃ value, draft.outcome = .ok value ∧ (next value).outcome = .ok result := by
  obtain ⟨pads, outcome⟩ := draft
  cases outcome <;> simp [bind]

theorem pads_bind {α β : Type} {draft : Draft α} {next : α → Draft β} {value : α}
    (ok : draft.outcome = .ok value) :
    (draft.bind next).pads = draft.pads ++ (next value).pads := by
  simp [bind, ok]

theorem append_eq_ok {first second : Text} {fragments : List Fragment} :
    (first ++ second).outcome = .ok fragments ↔
      ∃ before after, first.outcome = .ok before ∧ second.outcome = .ok after ∧
        fragments = before ++ after := by
  change (first.append second).outcome = .ok fragments ↔ _
  simp only [append, bind_eq_ok, pure, Except.ok.injEq]
  constructor
  · rintro ⟨before, ok, after, ok', same⟩
    exact ⟨before, after, ok, ok', same.symm⟩
  · rintro ⟨before, after, ok, ok', same⟩
    exact ⟨before, ok, after, ok', same.symm⟩

theorem pads_append {first second : Text} {before : List Fragment}
    (ok : first.outcome = .ok before) : (first ++ second).pads = first.pads ++ second.pads := by
  change (first.append second).pads = _
  rw [append, pads_bind ok]
  cases h : second.outcome <;> simp [bind, h, pure]

theorem append_assoc (first second third : Text) :
    first ++ second ++ third = first ++ (second ++ third) := by
  change (first.append second).append third = first.append (second.append third)
  simp only [append, bind_assoc, pure_bind, List.append_assoc]

theorem fragments_append (first second : List Fragment) :
    fragments first ++ fragments second = fragments (first ++ second) := rfl

theorem append_fragments_nil (draft : Text) : draft ++ fragments [] = draft := by
  obtain ⟨pads, outcome⟩ := draft
  change Draft.append _ _ = _
  cases outcome <;> simp [append, bind, fragments, pure]

theorem fragments_nil_append (draft : Text) : fragments [] ++ draft = draft := by
  obtain ⟨pads, outcome⟩ := draft
  change Draft.append _ _ = _
  cases outcome <;> simp [append, bind, fragments, pure]

theorem concat_append (first second : List Text) :
    concat (first ++ second) = concat first ++ concat second := by
  induction first with
  | nil => exact (fragments_nil_append _).symm
  | cons draft rest ih => rw [List.cons_append, concat, ih, concat, append_assoc]

end Draft

theorem placedAll_append (parent : String) (first second : List Part) :
    placedAll parent (first ++ second) = placedAll parent first ++ placedAll parent second := by
  rw [placedAll, List.map_append, Draft.concat_append]
  rfl

end FootprintTemplate.Writer
