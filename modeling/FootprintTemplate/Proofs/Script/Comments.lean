import FootprintTemplate.Module
import FootprintTemplate.Proofs.Script.Template
import Mathlib.Data.List.Basic

/-! Line comments of a script. A text that is commented out leaves nothing but line ends behind. -/
namespace FootprintTemplate.Script

section Code

/-- The text is one line. -/
def isOneLine (text : List Char) : Bool :=
  text.all (!isLineEnd ·)

/-- Neither opens a string or a template nor stands in a comment's opening. -/
def isPlainCode (c : Char) : Bool :=
  !(['"', '\x27', '\x60', '/'].contains c)

/-- A script, and what of it stands outside line comments. Strings and templates are passed whole;
scripts with other comments, patterns or divisions are not read. -/
inductive Uncommented : List Char → List Char → Prop where
  | nil : Uncommented [] []
  | comment {line rest code : List Char} (isLine : isOneLine line = true)
      (ends : ∀ c ∈ rest.head?, isLineEnd c = true) (more : Uncommented rest code) :
      Uncommented ('/' :: '/' :: (line ++ rest)) code
  | string {quote : Char} {text rest code : List Char} {quoted : Quoted}
      (isQuote : quote ∈ ['"', '\x27'])
      (read : readQuoted? quote ((text ++ rest).length + 1) (text ++ rest) = some quoted)
      (closes : quoted.rest = rest) (more : Uncommented rest code) :
      Uncommented (quote :: (text ++ rest)) (quote :: (text ++ code))
  | template {text rest code : List Char} {contents : Contents}
      (read : ReadsTemplate (text ++ rest) contents rest) (more : Uncommented rest code) :
      Uncommented ('\x60' :: (text ++ rest)) ('\x60' :: (text ++ code))
  | plain {c : Char} {rest code : List Char} (plain : isPlainCode c = true)
      (more : Uncommented rest code) : Uncommented (c :: rest) (c :: code)

theorem dropWhile_line {line rest : List Char} (isLine : isOneLine line = true)
    (ends : ∀ c ∈ rest.head?, isLineEnd c = true) :
    (line ++ rest).dropWhile (!isLineEnd ·) = rest := by
  rw [List.dropWhile_append_of_pos (List.all_eq_true.mp isLine)]
  cases rest with
  | nil => rfl
  | cons c more => simp [ends c rfl]

namespace Uncommented

variable {text code : List Char}

theorem of_slash (outside : Uncommented ('/' :: text) code) :
    ∃ line rest, text = '/' :: (line ++ rest) ∧ isOneLine line = true ∧
      (∀ c ∈ rest.head?, isLineEnd c = true) ∧ Uncommented rest code := by
  cases outside with
  | comment isLine ends more => exact ⟨_, _, rfl, isLine, ends, more⟩
  | string isQuote => exact absurd isQuote (by decide)
  | plain plain => exact absurd plain (by decide)

theorem of_quote {quote : Char} (isQuote : quote ∈ ['"', '\x27'])
    (outside : Uncommented (quote :: text) code) :
    ∃ own rest inner quoted, text = own ++ rest ∧ code = quote :: (own ++ inner) ∧
      readQuoted? quote (text.length + 1) text = some quoted ∧ quoted.rest = rest ∧
        Uncommented rest inner := by
  cases outside with
  | comment | template => exact absurd isQuote (by decide)
  | string _ read closes more => exact ⟨_, _, _, _, rfl, rfl, read, closes, more⟩
  | plain plain =>
    simp only [List.mem_cons, List.not_mem_nil, or_false] at isQuote
    obtain rfl | rfl := isQuote <;> exact absurd plain (by decide)

theorem of_backQuote (outside : Uncommented ('\x60' :: text) code) :
    ∃ own rest inner contents, text = own ++ rest ∧ code = '\x60' :: (own ++ inner) ∧
      ReadsTemplate text contents rest ∧ Uncommented rest inner := by
  cases outside with
  | string isQuote => exact absurd isQuote (by decide)
  | template read more => exact ⟨_, _, _, _, rfl, rfl, read, more⟩
  | plain plain => exact absurd plain (by decide)

theorem of_plain {c : Char} (plain : isPlainCode c = true)
    (outside : Uncommented (c :: text) code) :
    ∃ inner, code = c :: inner ∧ Uncommented text inner := by
  cases outside with
  | comment | template => exact absurd plain (by decide)
  | string isQuote =>
    simp only [List.mem_cons, List.not_mem_nil, or_false] at isQuote
    obtain rfl | rfl := isQuote <;> exact absurd plain (by decide)
  | plain _ more => exact ⟨_, rfl, more⟩

theorem unique {other : List Char} (one : Uncommented text code)
    (another : Uncommented text other) : code = other := by
  induction one generalizing other with
  | nil =>
    cases another
    rfl
  | comment isLine ends _ ih =>
    obtain ⟨line, rest, same, isLine', ends', more⟩ := another.of_slash
    have rests := dropWhile_line isLine ends
    rw [(List.cons.inj same).2, dropWhile_line isLine' ends'] at rests
    exact ih (rests ▸ more)
  | string isQuote read closes _ ih =>
    obtain ⟨own, rest, inner, quoted, same, rfl, read', rfl, more⟩ := another.of_quote isQuote
    cases Option.some.inj (read.symm.trans read')
    cases closes
    rw [List.append_cancel_right same, ih more]
  | template read _ ih =>
    obtain ⟨own, rest, inner, contents, same, rfl, read', more⟩ := another.of_backQuote
    obtain ⟨-, rfl⟩ := read.unique read'
    rw [List.append_cancel_right same, ih more]
  | plain plain _ ih =>
    obtain ⟨inner, rfl, more⟩ := another.of_plain plain
    rw [ih more]

theorem only (one : Uncommented text code) (other : List Char) :
    Uncommented text other ↔ other = code :=
  ⟨fun another => another.unique one, fun same => same ▸ one⟩

end Uncommented

end Code

section Passing

/-- Neither a line end nor a character that opens anything. -/
def isLineCode (c : Char) : Bool :=
  isPlainCode c && !isLineEnd c

/-- The script starts with this string, template or character, and goes on with the rest. -/
inductive IsPiece : List Char → List Char → Prop where
  | string {quote : Char} {text rest : List Char} {quoted : Quoted}
      (isQuote : quote ∈ ['"', '\x27'])
      (read : readQuoted? quote ((text ++ rest).length + 1) (text ++ rest) = some quoted)
      (closes : quoted.rest = rest) : IsPiece (quote :: text) rest
  | template {text rest : List Char} {contents : Contents}
      (read : ReadsTemplate (text ++ rest) contents rest) : IsPiece ('\x60' :: text) rest
  | plain {c : Char} {rest : List Char} (plain : isLineCode c = true) : IsPiece [c] rest

theorem IsPiece.uncommented {own rest code : List Char} (piece : IsPiece own rest)
    (more : Uncommented rest code) : Uncommented (own ++ rest) (own ++ code) := by
  cases piece with
  | string isQuote read closes => exact .string isQuote read closes more
  | template read => exact .template read more
  | plain plain => exact .plain (Bool.and_eq_true_iff.mp plain).1 more

/-- Code on one line, in pieces that are read whatever follows them. -/
inductive IsCode : List Char → Prop where
  | nil : IsCode []
  | piece {own text : List Char} (read : ∀ rest, IsPiece own rest) (more : IsCode text) :
      IsCode (own ++ text)

theorem IsCode.append {first second : List Char} (one : IsCode first) (other : IsCode second) :
    IsCode (first ++ second) := by
  induction one with
  | nil => exact other
  | piece read _ ih =>
    rw [List.append_assoc]
    exact .piece read ih

theorem IsCode.uncommented {text rest code : List Char} (isCode : IsCode text)
    (more : Uncommented rest code) : Uncommented (text ++ rest) (text ++ code) := by
  induction isCode with
  | nil => exact more
  | piece read _ ih =>
    rw [List.append_assoc, List.append_assoc]
    exact (read _).uncommented ih

theorem isCode_piece {own : List Char} (read : ∀ rest, IsPiece own rest) : IsCode own := by
  have single := IsCode.piece read .nil
  rwa [List.append_nil] at single

theorem isCode_plain {text : List Char} (plain : text.all isLineCode = true) : IsCode text := by
  induction text with
  | nil => exact .nil
  | cons c others ih =>
    rw [List.all_cons, Bool.and_eq_true] at plain
    have first (rest : List Char) : IsPiece [c] rest := .plain plain.1
    exact .piece first (ih plain.2)

theorem isCode_string {quote : Char} {text : List Char} (isQuote : quote ∈ ['"', '\x27'])
    (read : ∀ rest, ∃ value exact octal, readQuoted? quote ((text ++ rest).length + 1)
      (text ++ rest) = some ⟨value, exact, octal, rest⟩) : IsCode (quote :: text) := by
  refine isCode_piece fun rest => ?_
  obtain ⟨value, exact, octal, ends⟩ := read rest
  exact .string isQuote ends rfl

theorem isCode_template {text : List Char}
    (read : ∀ rest, ∃ contents, ReadsTemplate (text ++ rest) contents rest) :
    IsCode ('\x60' :: text) := by
  refine isCode_piece fun rest => ?_
  obtain ⟨contents, ends⟩ := read rest
  exact .template ends

/-- Line comments and the line ends between them, from inside a comment or before one. -/
inductive IsRemark : Bool → List Char → Prop where
  | nil {inside : Bool} : IsRemark inside []
  | opens {text : List Char} (more : IsRemark true text) : IsRemark false ('/' :: '/' :: text)
  | goesOn {c : Char} {text : List Char} (inside : isLineEnd c = false)
      (more : IsRemark true text) : IsRemark true (c :: text)
  | ends {c : Char} {text : List Char} (lineEnd : isLineEnd c = true)
      (more : IsRemark false text) : IsRemark true (c :: text)

theorem isRemark_comment {line : List Char} (isLine : isOneLine line = true) :
    IsRemark false ('/' :: '/' :: line) := by
  refine .opens ?_
  induction line with
  | nil => exact .nil
  | cons c others ih =>
    rw [isOneLine, List.all_cons, Bool.and_eq_true, Bool.not_eq_true'] at isLine
    exact .goesOn isLine.1 (ih isLine.2)

theorem isPlainCode_of_isLineEnd {c : Char} (lineEnd : isLineEnd c = true) :
    isPlainCode c = true := by
  simp only [isLineEnd, Bool.or_eq_true, beq_iff_eq] at lineEnd
  obtain ((rfl | rfl) | rfl) | rfl := lineEnd <;> decide

/-- Before a line feed, comments leave nothing but line ends. A comment that is open already may have
anything in front. -/
theorem IsRemark.leaves {inside : Bool} {text rest code : List Char} (remark : IsRemark inside text)
    (more : Uncommented ('\n' :: rest) code) :
    ∃ ends, ends.all isLineEnd = true ∧
      (inside = false → Uncommented (text ++ '\n' :: rest) (ends ++ code)) ∧
      (inside = true → ∀ front, isOneLine front = true →
        Uncommented ('/' :: '/' :: (front ++ (text ++ '\n' :: rest))) (ends ++ code)) := by
  induction remark with
  | nil =>
    refine ⟨[], rfl, fun _ => more, fun _ front isLine => .comment isLine ?_ more⟩
    rintro c ⟨⟩
    rfl
  | opens _ ih =>
    obtain ⟨ends, areEnds, -, silent⟩ := ih
    exact ⟨ends, areEnds, fun _ => silent rfl [] rfl, nofun⟩
  | @goesOn c text inside _ ih =>
    obtain ⟨ends, areEnds, -, silent⟩ := ih
    refine ⟨ends, areEnds, nofun, fun _ front isLine => ?_⟩
    have longer : isOneLine (front ++ [c]) = true := by
      rw [isOneLine, List.all_append, Bool.and_eq_true]
      exact ⟨isLine, by simpa using inside⟩
    simpa using silent rfl (front ++ [c]) longer
  | @ends c text lineEnd _ ih =>
    obtain ⟨ends, areEnds, silent, -⟩ := ih
    refine ⟨c :: ends, by rw [List.all_cons, lineEnd, areEnds]; rfl, nofun, fun _ front isLine => ?_⟩
    refine .comment isLine ?_ (.plain (isPlainCode_of_isLineEnd lineEnd) (silent rfl))
    rintro d ⟨⟩
    exact lineEnd

theorem IsRemark.uncommented {text rest code : List Char} (remark : IsRemark false text)
    (more : Uncommented ('\n' :: rest) code) :
    ∃ ends, ends.all isLineEnd = true ∧ Uncommented (text ++ '\n' :: rest) (ends ++ code) := by
  obtain ⟨ends, areEnds, silent, -⟩ := remark.leaves more
  exact ⟨ends, areEnds, silent rfl⟩

/-- A line as a comment of its own. -/
def commentLine (line : List Char) : List Char :=
  '/' :: '/' :: ' ' :: line

theorem IsRemark.commentLines {lines : List (List Char)}
    (continues : IsRemark true (lines.head?.getD [] ++ lines.tail.flatMap commentLine)) :
    IsRemark false (lines.flatMap commentLine) := by
  cases lines with
  | nil => exact .nil
  | cons line others => exact .opens (.goesOn (by decide) continues)

/-- Inside a comment, the first line goes on with it, and every further one has its own. -/
theorem isRemark_splitLines (text : List Char) :
    IsRemark true ((splitLines text).head?.getD [] ++ (splitLines text).tail.flatMap commentLine) := by
  fun_induction splitLines text with
  | case1 => exact .nil
  | case2 c others lineEnd ih => exact .ends lineEnd ih.commentLines
  | case3 c others inside lines ih | case4 c others inside _ _ lines ih =>
    rw [lines] at ih
    exact .goesOn (by simpa using inside) ih

theorem isRemark_commentLines (text : List Char) :
    IsRemark false ((splitLines text).flatMap commentLine) :=
  (isRemark_splitLines text).commentLines

theorem drop_splitLines {text : List Char} (oneLine : isOneLine text = true) :
    (splitLines text).drop 1 = [] := by
  have lines : (splitLines text).length ≤ 1 := by
    induction text with
    | nil => exact Nat.zero_le _
    | cons c rest ih =>
      rw [isOneLine, List.all_cons, Bool.and_eq_true, Bool.not_eq_true'] at oneLine
      have few := ih oneLine.2
      rw [splitLines, if_neg (by rw [oneLine.1]; decide)]
      split
      · exact Nat.le_refl _
      · rename_i line more shape
        rw [shape] at few
        exact few
  exact List.drop_eq_nil_of_le lines

theorem ne_nil_of_mem_splitLines {text line : List Char} (member : line ∈ splitLines text) :
    line ≠ [] := by
  fun_induction splitLines text with
  | case1 => cases member
  | case2 c others lineEnd ih =>
    rcases List.mem_cons.mp member with rfl | later
    · exact List.cons_ne_nil _ _
    · exact ih later
  | case3 => cases List.mem_singleton.mp member; exact List.cons_ne_nil _ _
  | case4 c others inside first after lines ih =>
    rcases List.mem_cons.mp member with rfl | later
    · exact List.cons_ne_nil _ _
    · exact ih (lines ▸ List.mem_cons_of_mem _ later)

theorem getLast?_commentLines (text : List Char) :
    ((splitLines text).flatMap commentLine).getLast? = text.getLast? := by
  have whole := flatten_splitLines text
  rcases List.eq_nil_or_concat (splitLines text) with none | ⟨front, last, lines⟩
  · rw [none] at whole ⊢
    cases whole
    rfl
  · have filled : last ≠ [] := ne_nil_of_mem_splitLines (by rw [lines]; simp)
    rw [lines] at whole ⊢
    rw [← whole, List.concat_eq_append, List.flatMap_append, List.flatten_append,
      List.flatMap_singleton, List.flatten_singleton, List.getLast?_append_of_ne_nil _ filled]
    have opening : List.flatMap commentLine front ++ commentLine last =
        (List.flatMap commentLine front ++ ['/', '/', ' ']) ++ last := by simp [commentLine]
    rw [opening, List.getLast?_append_of_ne_nil _ filled]

end Passing

end FootprintTemplate.Script
