import FootprintTemplate.Proofs.Group
import FootprintTemplate.Proofs.NetNamer
import Mathlib.Data.List.Sort
import Mathlib.Data.Prod.Lex
import Mathlib.Data.String.Basic

/-! The order of layers. Names read from their last part to their first are still told apart, so no
two layers have the same key, however its case is lowered. -/
namespace FootprintTemplate

open Sexpr (Node)

namespace Text

variable {separator : Char}

theorem pieces_append {piece : List Char} (whole : separator ∉ piece) (rest : List Char) :
    pieces separator (piece ++ separator :: rest) = piece :: pieces separator rest := by
  induction piece with
  | nil => simp [pieces]
  | cons c others ih =>
    obtain ⟨other, whole⟩ := not_or.mp (mt List.mem_cons.mpr whole)
    rw [List.cons_append, pieces, if_neg (Ne.symm other), ih whole]

theorem pieces_of_not_mem {piece : List Char} (whole : separator ∉ piece) :
    pieces separator piece = [piece] := by
  induction piece with
  | nil => rfl
  | cons c others ih =>
    obtain ⟨other, whole⟩ := not_or.mp (mt List.mem_cons.mpr whole)
    rw [pieces, if_neg (Ne.symm other), ih whole]

theorem pieces_join {parts : List (List Char)} (nonempty : parts ≠ [])
    (whole : ∀ part ∈ parts, separator ∉ part) : pieces separator (join separator parts) = parts := by
  induction parts with
  | nil => exact absurd rfl nonempty
  | cons part rest ih =>
    obtain ⟨own, others⟩ := List.forall_mem_cons.mp whole
    cases rest with
    | nil => exact pieces_of_not_mem own
    | cons next more =>
      rw [join_cons _ _ (List.cons_ne_nil _ _), pieces_append own, ih (List.cons_ne_nil _ _) others]

end Text

namespace Layer

theorem sortKey_injective : Function.Injective sortKey := by
  intro first second same
  have parts (layer : String) : Text.pieces '.' (sortKey layer).toList =
      (Text.pieces '.' layer.toList).reverse := by
    rw [sortKey, String.toList_ofList]
    exact Text.pieces_join (by simpa using Text.pieces_ne_nil '.' layer.toList)
      fun part member => Text.not_mem_of_mem_pieces (List.mem_reverse.mp member)
  have reversed := (parts first).symm.trans ((congrArg _ (congrArg _ same)).trans (parts second))
  have chars := congrArg (Text.join '.') (List.reverse_injective reversed)
  rwa [Text.join_pieces, Text.join_pieces, String.toList_inj] at chars

end Layer

section Order

variable {lower : String → String}

/-- What layers are ordered by: the key in lower case, then the key itself. -/
def layerKey (lower : String → String) (layer : String) : String ×ₗ String :=
  toLex (lower (Layer.sortKey layer), Layer.sortKey layer)

theorem layerKey_injective (lower : String → String) : Function.Injective (layerKey lower) :=
  fun _ _ same => Layer.sortKey_injective (congrArg Prod.snd (toLex_inj.mp same))

def layerLeBy (lower : String → String) (first second : String) : Bool :=
  decide (layerKey lower first ≤ layerKey lower second)

theorem layerLe_eq : layerLe = layerLeBy Text.lowercase := by
  funext first second
  simp only [layerLe, layerLeBy, layerKey, Prod.Lex.toLex_le_toLex, Bool.decide_or,
    Bool.decide_and]
  rfl

/-- The layers of these drawings in their order, each once. -/
def drawingLayers (lower : String → String) (drawings : List Node) : List String :=
  (drawings.map drawingLayer).eraseDups.mergeSort (layerLeBy lower)

/-- The order of layers is strict: no two of them tie. -/
theorem drawingLayers_increasing (drawings : List Node) :
    (drawingLayers lower drawings).Pairwise fun first second =>
      layerKey lower first < layerKey lower second := by
  have sorted : (drawingLayers lower drawings).Pairwise fun first second =>
      layerLeBy lower first second = true := by
    refine List.pairwise_mergeSort (fun first second third before after => ?_)
      (fun first second => ?_) _
    · exact decide_eq_true ((of_decide_eq_true before).trans (of_decide_eq_true after))
    · rw [layerLeBy, layerLeBy, ← Bool.decide_or]
      exact decide_eq_true (le_total _ _)
  have once : (drawingLayers lower drawings).Nodup :=
    (List.mergeSort_perm _ _).nodup_iff.mpr (NetNamer.nodup_eraseDups _)
  refine (sorted.and once).imp fun {first second} => ?_
  rintro ⟨before, apart⟩
  exact lt_of_le_of_ne (of_decide_eq_true before) fun same => apart (layerKey_injective lower same)

theorem drawingLayers_congr {first second : List Node}
    (same : ∀ layer, (∃ drawing ∈ first, drawingLayer drawing = layer) ↔
      ∃ drawing ∈ second, drawingLayer drawing = layer) :
    drawingLayers lower first = drawingLayers lower second := by
  have once (drawings : List Node) : (drawingLayers lower drawings).Nodup :=
    (drawingLayers_increasing drawings).imp fun before same => (same ▸ before).false
  refine List.Perm.eq_of_pairwise (fun _ _ _ _ before after => absurd before after.asymm)
    (drawingLayers_increasing first) (drawingLayers_increasing second) ?_
  rw [List.perm_ext_iff_of_nodup (once first) (once second)]
  intro layer
  rw [drawingLayers, drawingLayers, mem_drawingLayers, mem_drawingLayers, same]

end Order

end FootprintTemplate
