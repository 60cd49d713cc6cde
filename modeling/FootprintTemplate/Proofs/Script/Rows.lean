import FootprintTemplate.Proofs.Script.Comments
import Mathlib.Data.List.Induction

/-! Rows of a script, each with code of its own or with comments alone. What stands outside comments
is the code, row by row. -/
namespace FootprintTemplate

open Script (IsCode IsRemark Uncommented)

section Rows

/-- A line of code, or comments and blank lines, without the last line end. -/
structure Row where
  text : List Char
  isCode : Bool

namespace Row

def code (text : List Char) : Row :=
  ⟨text, true⟩

def comment (text : List Char) : Row :=
  ⟨text, false⟩

/-- The row is what it is said to be. Only rows without code are blank. -/
structure Sound (row : Row) : Prop where
  code : row.isCode = true → IsCode row.text ∧ row.text ≠ []
  comment : row.isCode = false → IsRemark false row.text
  ends : row.text.getLast? ≠ some '\n'

theorem sound_code {text : List Char} {c : Char} (isCode : IsCode (text ++ [c]))
    (other : c ≠ '\n') : (Row.code (text ++ [c])).Sound where
  code _ := ⟨isCode, by simp [Row.code]⟩
  comment := nofun
  ends := by simpa [Row.code] using other

theorem sound_comment {text : List Char} (remark : IsRemark false text)
    (ends : text.getLast? ≠ some '\n') : (Row.comment text).Sound where
  code := nofun
  comment _ := remark
  ends := ends

theorem sound_blank : (Row.comment []).Sound :=
  sound_comment .nil (Option.some_ne_none '\n').symm

end Row

def joined (rows : List Row) : List Char :=
  rows.flatMap fun row => row.text ++ ['\n']

def codeOf (rows : List Row) : List (List Char) :=
  (rows.filter Row.isCode).map Row.text

/-- The text is made of these lines, with nothing but line ends between them. -/
inductive MadeOf : List (List Char) → List Char → Prop where
  | nil : MadeOf [] []
  | gap {c : Char} {lines : List (List Char)} {text : List Char}
      (lineEnd : Script.isLineEnd c = true) (more : MadeOf lines text) : MadeOf lines (c :: text)
  | line {own : List Char} {lines : List (List Char)} {text : List Char}
      (more : MadeOf lines text) : MadeOf (own :: lines) (own ++ '\n' :: text)

theorem MadeOf.gaps {ends text : List Char} {lines : List (List Char)}
    (areEnds : ends.all Script.isLineEnd = true) (more : MadeOf lines text) :
    MadeOf lines (ends ++ text) := by
  induction ends with
  | nil => exact more
  | cons c rest ih =>
    rw [List.all_cons, Bool.and_eq_true] at areEnds
    exact .gap areEnds.1 (ih areEnds.2)

theorem MadeOf.printed {lines : List (List Char)} {text : List Char} (made : MadeOf lines text) :
    text.filter (!Script.isLineEnd ·) = lines.flatten.filter (!Script.isLineEnd ·) := by
  induction made with
  | nil => rfl
  | gap lineEnd _ ih => rw [List.filter_cons_of_neg (by simp [lineEnd]), ih]
  | line _ ih =>
    rw [List.filter_append, List.filter_cons_of_neg (by decide), ih, List.flatten_cons,
      List.filter_append]

/-- Outside comments, rows are their lines of code. -/
theorem uncommented_joined {rows : List Row} (sound : ∀ row ∈ rows, row.Sound) :
    ∃ code, Uncommented (joined rows) code ∧ MadeOf (codeOf rows) code := by
  induction rows with
  | nil => exact ⟨[], .nil, .nil⟩
  | cons row rest ih =>
    obtain ⟨own, others⟩ := List.forall_mem_cons.mp sound
    obtain ⟨code, outside, lines⟩ := ih others
    have feed : Uncommented ('\n' :: joined rest) ('\n' :: code) := .plain rfl outside
    have split : joined (row :: rest) = row.text ++ '\n' :: joined rest := by simp [joined]
    rw [split]
    cases isCode : row.isCode with
    | true =>
      refine ⟨row.text ++ '\n' :: code, (own.code isCode).1.uncommented feed, ?_⟩
      have together : MadeOf (row.text :: codeOf rest) _ := .line lines
      simpa [codeOf, isCode] using together
    | false =>
      obtain ⟨ends, areEnds, silent⟩ := (own.comment isCode).uncommented feed
      refine ⟨ends ++ '\n' :: code, silent, .gaps areEnds (.gap rfl ?_)⟩
      simpa [codeOf, isCode] using lines

end Rows

section Trailing

open FootprintTemplate.Module (dropTrailing)

theorem dropTrailing_eq_self {c : Char} {text : List Char} (ends : text.getLast? ≠ some c) :
    dropTrailing c text = text := by
  rw [dropTrailing]
  cases shape : text.reverse with
  | nil => rw [List.reverse_eq_nil_iff.mp shape]; rfl
  | cons d rest =>
    have other : (d == c) = false := by
      rw [← List.head?_reverse, shape] at ends
      simpa using ends
    rw [List.dropWhile_cons, other, if_neg Bool.false_ne_true, ← shape, List.reverse_reverse]

theorem dropTrailing_append {c : Char} {first : List Char} (ends : first.getLast? ≠ some c)
    (second : List Char) : dropTrailing c (first ++ second) = first ++ dropTrailing c second := by
  have whole := dropTrailing_eq_self ends
  rw [dropTrailing, List.reverse_eq_iff] at whole
  rw [dropTrailing, dropTrailing, List.reverse_append, List.dropWhile_append]
  split
  · rename_i empty
    rw [whole, List.reverse_reverse, List.isEmpty_iff.mp empty]
    simp
  · simp

theorem dropTrailing_concat (c : Char) (text : List Char) :
    dropTrailing c (text ++ [c]) = dropTrailing c text := by
  simp [dropTrailing]

theorem dropTrailing_joined {rows : List Row} (sound : ∀ row ∈ rows, row.Sound)
    (filled : codeOf rows ≠ []) :
    ∃ kept, (∀ row ∈ kept, row ∈ rows) ∧ codeOf kept = codeOf rows ∧
      dropTrailing '\n' (joined rows) ++ ['\n'] = joined kept := by
  induction rows using List.reverseRecOn with
  | nil => exact absurd rfl filled
  | append_singleton rows row ih =>
    have own := sound row (List.mem_append_right _ (List.mem_singleton_self row))
    have split : joined (rows ++ [row]) = joined rows ++ row.text ++ ['\n'] := by simp [joined]
    rw [split, dropTrailing_concat]
    by_cases blank : row.text = []
    · have noCode : row.isCode = false := Bool.eq_false_iff.mpr fun code => (own.code code).2 blank
      have same : codeOf (rows ++ [row]) = codeOf rows := by simp [codeOf, noCode]
      rw [same] at filled ⊢
      obtain ⟨kept, within, lines, text⟩ :=
        ih (fun row member => sound row (List.mem_append_left _ member)) filled
      rw [blank, List.append_nil]
      exact ⟨kept, fun row member => List.mem_append_left _ (within row member), lines, text⟩
    · -- A row with text is where the dropping stops.
      refine ⟨rows ++ [row], fun _ member => member, rfl, ?_⟩
      rw [dropTrailing_eq_self, split]
      rw [List.getLast?_append_of_ne_nil _ blank]
      exact own.ends

end Trailing

end FootprintTemplate
