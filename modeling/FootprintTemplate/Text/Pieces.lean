/-! Texts cut into pieces at a separator, and put together again. -/
namespace FootprintTemplate.Text

/-- The pieces between separators, at least one. -/
def pieces (separator : Char) : List Char → List (List Char)
  | [] => [[]]
  | c :: rest =>
    if c = separator then [] :: pieces separator rest
    else match pieces separator rest with
      | [] => [[c]]
      | first :: others => (c :: first) :: others

/-- The pieces with separators between them. -/
def join (separator : Char) : List (List Char) → List Char
  | [] => []
  | [piece] => piece
  | piece :: rest => piece ++ separator :: join separator rest

theorem join_cons (separator : Char) (piece : List Char) {rest : List (List Char)}
    (h : rest ≠ []) :
    join separator (piece :: rest) = piece ++ separator :: join separator rest := by
  cases rest with
  | nil => exact absurd rfl h
  | cons => rfl

theorem pieces_ne_nil (separator : Char) (text : List Char) : pieces separator text ≠ [] := by
  fun_cases pieces separator text <;> simp

theorem join_pieces (separator : Char) (text : List Char) :
    join separator (pieces separator text) = text := by
  fun_induction pieces separator text with
  | case1 => rfl
  | case2 rest ih => rw [join_cons _ _ (pieces_ne_nil _ _), ih]; rfl
  | case3 c rest hc h => exact absurd h (pieces_ne_nil _ _)
  | case4 c rest hc first others h ih =>
    rw [h] at ih
    cases others with
    | nil => exact congrArg (c :: ·) ih
    | cons => exact congrArg (c :: ·) ih

theorem not_mem_of_mem_pieces {separator : Char} {text piece : List Char}
    (h : piece ∈ pieces separator text) : separator ∉ piece := by
  fun_induction pieces separator text generalizing piece with
  | case1 => simp_all
  | case2 rest ih =>
    rcases List.mem_cons.1 h with rfl | h
    · simp
    · exact ih h
  | case3 c rest hc heq => exact absurd heq (pieces_ne_nil _ _)
  | case4 c rest hc first others heq ih =>
    rcases List.mem_cons.1 h with rfl | h
    · have := ih (heq ▸ List.mem_cons_self)
      simp [Ne.symm hc, this]
    · exact ih (heq ▸ List.mem_cons_of_mem _ h)

end FootprintTemplate.Text
