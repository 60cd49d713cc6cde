import FootprintTemplate.Proofs.Script.Rows

/-! Scripts without line comments and without blank lines. Rows of a script that are comments leave
nothing behind. -/
namespace FootprintTemplate.Script

section Pieces

variable {own rest text : List Char}

theorem IsPiece.of_quote {quote : Char} (isQuote : quote ∈ ['"', '\x27']) (piece : IsPiece own rest)
    (shape : own ++ rest = quote :: text) :
    ∃ quoted, readQuoted? quote (text.length + 1) text = some quoted ∧ quoted.rest = rest := by
  cases piece with
  | string _ read closes =>
    obtain ⟨rfl, rfl⟩ := List.cons.inj shape
    exact ⟨_, read, closes⟩
  | template =>
    obtain ⟨rfl, -⟩ := List.cons.inj shape
    exact absurd isQuote (by decide)
  | plain plain =>
    obtain ⟨rfl, -⟩ := List.cons.inj shape
    simp only [List.mem_cons, List.not_mem_nil, or_false] at isQuote
    obtain rfl | rfl := isQuote <;> exact absurd plain (by decide)

theorem IsPiece.of_backQuote (piece : IsPiece own rest) (shape : own ++ rest = '\x60' :: text) :
    ∃ contents, ReadsTemplate text contents rest := by
  cases piece with
  | string isQuote =>
    obtain ⟨rfl, -⟩ := List.cons.inj shape
    exact absurd isQuote (by decide)
  | template read =>
    obtain ⟨-, rfl⟩ := List.cons.inj shape
    exact ⟨_, read⟩
  | plain plain =>
    obtain ⟨rfl, -⟩ := List.cons.inj shape
    exact absurd plain (by decide)

theorem IsPiece.of_plain {c : Char} (plain : isLineCode c = true) (piece : IsPiece own rest)
    (shape : own ++ rest = c :: text) : rest = text := by
  cases piece with
  | string isQuote =>
    obtain ⟨rfl, -⟩ := List.cons.inj shape
    simp only [List.mem_cons, List.not_mem_nil, or_false] at isQuote
    obtain rfl | rfl := isQuote <;> exact absurd plain (by decide)
  | template =>
    obtain ⟨rfl, -⟩ := List.cons.inj shape
    exact absurd plain (by decide)
  | plain => exact (List.cons.inj shape).2

theorem IsPiece.unique {another others : List Char} (one : IsPiece own rest)
    (other : IsPiece another others) (same : another ++ others = own ++ rest) :
    another = own ∧ others = rest := by
  have ends : others = rest := by
    cases one with
    | string isQuote read closes =>
      obtain ⟨quoted, again, rfl⟩ := other.of_quote isQuote same
      rw [← closes, Option.some.inj (read.symm.trans again)]
    | template read =>
      obtain ⟨contents, again⟩ := other.of_backQuote same
      exact (again.unique read).2
    | plain plain => exact other.of_plain plain same
  rw [ends] at same
  exact ⟨List.append_cancel_right same, ends⟩

theorem IsPiece.starts (piece : IsPiece own rest) : ∃ c others, own = c :: others ∧
    isLineEnd c = false := by
  cases piece with
  | string isQuote =>
    simp only [List.mem_cons, List.not_mem_nil, or_false] at isQuote
    obtain rfl | rfl := isQuote <;> exact ⟨_, _, rfl, by decide⟩
  | template => exact ⟨_, _, rfl, by decide⟩
  | plain plain => exact ⟨_, _, rfl, by simpa using (Bool.and_eq_true_iff.mp plain).2⟩

end Pieces

section Lines

/-- A script from the start of a line or from inside it, and what is left of it without its blank
lines. Strings and templates are passed whole. -/
inductive Unblanked : Bool → List Char → List Char → Prop where
  | nil {fresh : Bool} : Unblanked fresh [] []
  | blank {c : Char} {rest code : List Char} (lineEnd : isLineEnd c = true)
      (more : Unblanked true rest code) : Unblanked true (c :: rest) code
  | ends {c : Char} {rest code : List Char} (lineEnd : isLineEnd c = true)
      (more : Unblanked true rest code) : Unblanked false (c :: rest) (c :: code)
  | piece {fresh : Bool} {own rest code : List Char} (piece : IsPiece own rest)
      (more : Unblanked false rest code) : Unblanked fresh (own ++ rest) (own ++ code)

namespace Unblanked

variable {fresh : Bool} {rest code : List Char}

theorem of_lineEnd {c : Char} (lineEnd : isLineEnd c = true)
    (kept : Unblanked fresh (c :: rest) code) :
    ∃ inner, Unblanked true rest inner ∧ code = if fresh then inner else c :: inner := by
  generalize shape : c :: rest = text at kept
  cases kept with
  | nil => cases shape
  | blank _ more =>
    obtain ⟨rfl, rfl⟩ := List.cons.inj shape
    exact ⟨_, more, rfl⟩
  | ends _ more =>
    obtain ⟨rfl, rfl⟩ := List.cons.inj shape
    exact ⟨_, more, rfl⟩
  | piece piece =>
    obtain ⟨d, others, rfl, inside⟩ := piece.starts
    obtain ⟨rfl, -⟩ := List.cons.inj shape
    rw [lineEnd] at inside
    cases inside

theorem of_piece {own : List Char} (piece : IsPiece own rest)
    (kept : Unblanked fresh (own ++ rest) code) :
    ∃ inner, Unblanked false rest inner ∧ code = own ++ inner := by
  obtain ⟨c, others, starts, inside⟩ := piece.starts
  generalize shape : own ++ rest = text at kept
  cases kept with
  | nil =>
    rw [starts] at shape
    cases shape
  | blank lineEnd | ends lineEnd =>
    rw [starts] at shape
    obtain ⟨rfl, -⟩ := List.cons.inj shape
    rw [inside] at lineEnd
    cases lineEnd
  | piece another more =>
    obtain ⟨rfl, rfl⟩ := piece.unique another shape.symm
    exact ⟨_, more, rfl⟩

theorem unique {other : List Char} (one : Unblanked fresh rest code)
    (another : Unblanked fresh rest other) : other = code := by
  induction one generalizing other with
  | nil =>
    generalize shape : [] = text at another
    cases another with
    | nil => rfl
    | blank | ends => cases shape
    | piece piece =>
      obtain ⟨c, others, rfl, -⟩ := piece.starts
      cases shape
  | blank lineEnd _ ih =>
    obtain ⟨inner, more, rfl⟩ := another.of_lineEnd lineEnd
    exact ih more
  | ends lineEnd _ ih =>
    obtain ⟨inner, more, rfl⟩ := another.of_lineEnd lineEnd
    exact congrArg (_ :: ·) (ih more)
  | piece piece _ ih =>
    obtain ⟨inner, more, rfl⟩ := another.of_piece piece
    rw [ih more]

end Unblanked

theorem IsCode.unblanked {fresh : Bool} {text rest code : List Char} (isCode : IsCode text)
    (filled : fresh = true → text ≠ []) (more : Unblanked false rest code) :
    Unblanked fresh (text ++ rest) (text ++ code) := by
  induction isCode generalizing fresh with
  | nil =>
    cases fresh with
    | false => exact more
    | true => exact absurd rfl (filled rfl)
  | piece read _ ih =>
    rw [List.append_assoc, List.append_assoc]
    exact .piece (read _) (ih nofun)

/-- A script, and what is left of it without line comments and without blank lines. -/
def Condensed (text short : List Char) : Prop :=
  ∃ code, Uncommented text code ∧ Unblanked true code short

theorem Condensed.unique {text short other : List Char} (one : Condensed text short)
    (another : Condensed text other) : other = short := by
  obtain ⟨code, outside, kept⟩ := one
  obtain ⟨again, outsideToo, keptToo⟩ := another
  rw [outsideToo.unique outside] at keptToo
  exact kept.unique keptToo

theorem Condensed.only {text short : List Char} (one : Condensed text short) (other : List Char) :
    Condensed text other ↔ other = short :=
  ⟨fun another => one.unique another, fun same => same ▸ one⟩

/-- Scripts of which the same is left without line comments and without blank lines. -/
def SameLines (text other : List Char) : Prop :=
  ∃ short, (∀ result, Condensed text result ↔ result = short) ∧
    ∀ result, Condensed other result ↔ result = short

theorem Condensed.sameLines {text other short : List Char} (one : Condensed text short)
    (another : Condensed other short) : SameLines text other :=
  ⟨short, one.only, another.only⟩

end Lines

end FootprintTemplate.Script

namespace FootprintTemplate

open Script (Condensed Unblanked)

section Rows

/-- Lines with their line feeds. -/
def ended (lines : List (List Char)) : List Char :=
  lines.flatMap (· ++ ['\n'])

theorem MadeOf.unblanked {lines : List (List Char)} {code : List Char} (made : MadeOf lines code)
    (areCode : ∀ line ∈ lines, Script.IsCode line ∧ line ≠ []) : Unblanked true code (ended lines) := by
  induction made with
  | nil => exact .nil
  | gap lineEnd _ ih => exact .blank lineEnd (ih areCode)
  | line _ ih =>
    obtain ⟨⟨isCode, filled⟩, others⟩ := List.forall_mem_cons.mp areCode
    have feed : Unblanked false ('\n' :: _) ('\n' :: _) := .ends rfl (ih others)
    have kept : Unblanked true (_ ++ _) (_ ++ _) := isCode.unblanked (fun _ => filled) feed
    simpa [ended] using kept

theorem condensed_joined {rows : List Row} (sound : ∀ row ∈ rows, row.Sound) :
    Condensed (joined rows) (ended (codeOf rows)) := by
  obtain ⟨code, outside, made⟩ := uncommented_joined sound
  refine ⟨code, outside, made.unblanked fun line member => ?_⟩
  obtain ⟨row, inside, rfl⟩ := List.mem_map.mp member
  obtain ⟨own, isCode⟩ := List.mem_filter.mp inside
  exact (sound row own).code isCode

end Rows

end FootprintTemplate
