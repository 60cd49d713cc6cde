import FootprintTemplate.Proofs.Sexpr.Lexeme
import Mathlib.Algebra.GroupWithZero.Nat

/-! How the reader goes over a text. A reading is compared with readings that start anew behind a
token, so that texts can be read piece by piece. -/
namespace FootprintTemplate.Sexpr

/-- The bytes of a text. -/
def width (chars : List Char) : Nat :=
  (chars.map Char.utf8Size).sum

@[simp]
theorem width_nil : width [] = 0 := rfl

@[simp]
theorem width_cons (c : Char) (rest : List Char) : width (c :: rest) = c.utf8Size + width rest := by
  simp [width]

@[simp]
theorem width_append (first second : List Char) :
    width (first ++ second) = width first + width second := by
  simp [width]

namespace Scan

def read (scan : Scan) (chars : List Char) : Scan :=
  chars.foldl push scan

@[simp]
theorem read_nil (scan : Scan) : scan.read [] = scan := rfl

@[simp]
theorem read_cons (scan : Scan) (c : Char) (rest : List Char) :
    scan.read (c :: rest) = (scan.push c).read rest := rfl

theorem read_append (scan : Scan) (first second : List Char) :
    scan.read (first ++ second) = (scan.read first).read second := by
  simp [read, List.foldl_append]

def onto (scan : Scan) (older : List Token) : Scan :=
  { scan with found := scan.found ++ older }

theorem enter_append (found older : List Token) (offset : Nat) (c : Char) :
    enter (found ++ older) offset c =
      ((enter found offset c).1 ++ older, (enter found offset c).2) := by
  unfold enter
  split
  · rfl
  · split
    · rfl
    · split
      · rfl
      · split <;> rfl

theorem push_onto (scan : Scan) (older : List Token) (c : Char) :
    (scan.onto older).push c = (scan.push c).onto older := by
  obtain ⟨found, mode, offset⟩ := scan
  cases mode with
  | gap => simp only [push, advance, onto, enter_append]
  | comment => rfl
  | atom start chars =>
    simp only [push, advance, onto]
    split
    · rw [← List.cons_append, enter_append]
    · rfl
  | quoted start chars =>
    simp only [push, advance, onto]
    split <;> rfl

theorem read_onto (scan : Scan) (older : List Token) (chars : List Char) :
    (scan.onto older).read chars = (scan.read chars).onto older := by
  induction chars generalizing scan with
  | nil => rfl
  | cons c rest ih => rw [read_cons, push_onto, ih, read_cons]

theorem tokens_onto (scan : Scan) (older : List Token) :
    (scan.onto older).tokens = older.reverse ++ scan.tokens := by
  obtain ⟨found, mode, offset⟩ := scan
  cases mode <;> simp [tokens, onto]

end Scan

/-- The tokens of a text that starts at a byte, outside tokens and comments. -/
def tokensFrom (offset : Nat) (chars : List Char) : List Token :=
  (Scan.read ⟨[], .gap, offset⟩ chars).tokens

@[simp]
theorem tokensFrom_nil (offset : Nat) : tokensFrom offset [] = [] := rfl

theorem tokenize_eq_tokensFrom (text : String) : tokenize text = tokensFrom 0 text.toList := rfl

theorem Scan.tokens_read_gap (found : List Token) (offset : Nat) (chars : List Char) :
    (Scan.read ⟨found, .gap, offset⟩ chars).tokens =
      found.reverse ++ tokensFrom offset chars := by
  have anew := Scan.read_onto ⟨[], .gap, offset⟩ found chars
  rw [show (⟨found, .gap, offset⟩ : Scan) = Scan.onto ⟨[], .gap, offset⟩ found from rfl, anew,
    Scan.tokens_onto]
  rfl

/-- A bare atom would end right before this text. -/
def EndsBare (rest : List Char) : Prop :=
  ∀ c ∈ rest.head?, isDelimiter c = true

theorem endsBare_nil : EndsBare [] :=
  fun _ none => nomatch none

namespace Scan

theorem finished_text (start : Nat) (chars : List Char) :
    finished start chars.reverse = ⟨String.ofList chars, start⟩ := by
  simp [finished]

theorem enter_bare (found : List Token) (offset : Nat) {c : Char} (bare : isDelimiter c = false) :
    enter found offset c = (found, .atom offset [c]) := by
  simp only [isDelimiter, Bool.or_eq_false_iff] at bare
  obtain ⟨⟨⟨⟨quote, comment⟩, opening⟩, closing⟩, blank⟩ := bare
  simp [enter, quote, comment, opening, closing, blank]

theorem read_bare (found : List Token) (start offset : Nat) (before chars : List Char)
    (bare : ∀ c ∈ chars, isDelimiter c = false) :
    read ⟨found, .atom start before, offset⟩ chars =
      ⟨found, .atom start (chars.reverse ++ before), offset + width chars⟩ := by
  induction chars generalizing before offset with
  | nil => simp
  | cons c rest ih =>
    have step : push ⟨found, .atom start before, offset⟩ c =
        ⟨found, .atom start (c :: before), offset + c.utf8Size⟩ := by
      simp [push, advance, bare c]
    rw [read_cons, step, ih _ _ fun d hd => bare d (List.mem_cons_of_mem _ hd)]
    simp [Nat.add_assoc]

theorem read_escaped (found : List Token) (start offset : Nat) (last : Char)
    (before body : List Char) (escaped : IsEscaped last body) :
    read ⟨found, .quoted start (last :: before), offset⟩ body =
      ⟨found, .quoted start (body.reverse ++ last :: before), offset + width body⟩ := by
  induction body generalizing last before offset with
  | nil => simp
  | cons c rest ih =>
    have step : push ⟨found, .quoted start (last :: before), offset⟩ c =
        ⟨found, .quoted start (c :: last :: before), offset + c.utf8Size⟩ := by
      have stays : (c == '"' && some last != some '\\') = false := by
        by_cases quote : c = '"'
        · simp [quote, escaped.1 quote]
        · simp [quote]
      simp [push, advance, stays]
    rw [read_cons, step, ih _ _ _ escaped.2]
    simp [Nat.add_assoc]

theorem push_delimiter (found : List Token) (start offset : Nat) (chars : List Char) {c : Char}
    (ends : isDelimiter c = true) :
    push ⟨found, .atom start chars, offset⟩ c =
      push ⟨finished start chars :: found, .gap, offset⟩ c := by
  simp [push, advance, ends]

theorem push_closing (found : List Token) (start offset : Nat) {chars : List Char}
    (head : chars.head? ≠ some '\\') :
    push ⟨found, .quoted start chars, offset⟩ '"' =
      ⟨finished start ('"' :: chars) :: found, .gap, offset + '"'.utf8Size⟩ := by
  have closes : ('"' == '"' && chars.head? != some '\\') = true := by simpa using head
  simp only [push, advance, closes, if_true]

end Scan

theorem tokensFrom_bare (offset : Nat) {chars rest : List Char} (bare : IsBare chars)
    (ends : EndsBare rest) :
    tokensFrom offset (chars ++ rest) =
      ⟨String.ofList chars, offset⟩ :: tokensFrom (offset + width chars) rest := by
  obtain ⟨nonempty, plain⟩ := bare
  cases chars with
  | nil => exact absurd rfl nonempty
  | cons c others =>
    have first : Scan.push ⟨[], .gap, offset⟩ c = ⟨[], .atom offset [c], offset + c.utf8Size⟩ := by
      simp [Scan.push, Scan.advance, Scan.enter_bare _ _ (plain c List.mem_cons_self)]
    have all := Scan.read_bare [] offset (offset + c.utf8Size) [c] others
      fun d hd => plain d (List.mem_cons_of_mem _ hd)
    have shape : others.reverse ++ [c] = (c :: others).reverse := by simp
    rw [tokensFrom, List.cons_append, Scan.read_cons, first, Scan.read_append, all, shape,
      width_cons, ← Nat.add_assoc]
    -- The atom is closed by the end of the text or by the step that reads the next character.
    cases rest with
    | nil => exact congrArg (fun token => [token]) (Scan.finished_text offset (c :: others))
    | cons d rest =>
      rw [Scan.read_cons, Scan.push_delimiter _ _ _ _ (ends d rfl), ← Scan.read_cons,
        Scan.tokens_read_gap, Scan.finished_text]
      rfl

theorem tokensFrom_quoted (offset : Nat) {body : List Char} (closable : IsClosable body)
    (rest : List Char) :
    tokensFrom offset (quotedChars body ++ rest) =
      ⟨String.ofList (quotedChars body), offset⟩ ::
        tokensFrom (offset + width (quotedChars body)) rest := by
  have first : Scan.push ⟨[], .gap, offset⟩ '"' =
      ⟨[], .quoted offset ['"'], offset + '"'.utf8Size⟩ := rfl
  have inside := Scan.read_escaped [] offset (offset + '"'.utf8Size) '"' [] body closable.1
  have head := getLast?_cons_ne (c := '"') (by decide) closable.2
  have text : '"' :: (body.reverse ++ ['"']) = (quotedChars body).reverse := by simp [quotedChars]
  have shape : quotedChars body ++ rest = '"' :: (body ++ '"' :: rest) := by simp [quotedChars]
  rw [tokensFrom, shape, Scan.read_cons, first, Scan.read_append, inside, Scan.read_cons,
    Scan.push_closing _ _ _ head, text, Scan.tokens_read_gap, Scan.finished_text]
  simp [quotedChars, Nat.add_assoc]

theorem tokensFrom_opening (offset : Nat) (rest : List Char) :
    tokensFrom offset ('(' :: rest) = ⟨"(", offset⟩ :: tokensFrom (offset + 1) rest :=
  Scan.tokens_read_gap [⟨"(", offset⟩] (offset + 1) rest

theorem tokensFrom_closing (offset : Nat) (rest : List Char) :
    tokensFrom offset (')' :: rest) = ⟨")", offset⟩ :: tokensFrom (offset + 1) rest :=
  Scan.tokens_read_gap [⟨")", offset⟩] (offset + 1) rest

/-- The reader takes one token off the front of a text. A bare atom has to end where the rest
starts. -/
theorem tokensFrom_lexeme (offset : Nat) {chars rest : List Char} (lexeme : Lexeme chars)
    (apart : IsBare chars → EndsBare rest) :
    tokensFrom offset (chars ++ rest) =
      ⟨String.ofList chars, offset⟩ :: tokensFrom (offset + width chars) rest := by
  cases lexeme with
  | opening => exact tokensFrom_opening offset rest
  | closing => exact tokensFrom_closing offset rest
  | bare bare => exact tokensFrom_bare offset bare (apart bare)
  | quoted closable => exact tokensFrom_quoted offset closable rest

/-- What tokens hold: one lexeme, or a string that runs to the end of the text. -/
def IsTokenText (chars : List Char) : Prop :=
  Lexeme chars ∨ ∃ body, chars = '"' :: body ∧ IsEscaped '"' body

/-- What a reading keeps of the open token, its characters newest first. -/
def Mode.Sound : Mode → Prop
  | .gap | .comment => True
  | .atom _ chars => IsBare chars.reverse
  | .quoted _ chars => ∃ body, chars.reverse = '"' :: body ∧ IsEscaped '"' body

structure Scan.Sound (scan : Scan) : Prop where
  found : ∀ token ∈ scan.found, Lexeme token.text.toList
  mode : scan.mode.Sound

namespace Scan

theorem finished_lexeme {start : Nat} {chars : List Char} (lexeme : Lexeme chars.reverse) :
    Lexeme (finished start chars).text.toList := by
  simpa [finished] using lexeme

theorem Sound.cons {found : List Token} {token : Token} {mode next : Mode} {offset after : Nat}
    (sound : Sound ⟨found, mode, offset⟩) (lexeme : Lexeme token.text.toList)
    (open' : next.Sound) : Sound ⟨token :: found, next, after⟩ := by
  refine ⟨?_, open'⟩
  intro other member
  rcases List.mem_cons.mp member with rfl | member
  · exact lexeme
  · exact sound.found other member

theorem enter_sound {found : List Token} {mode : Mode} {offset after : Nat} (c : Char)
    (sound : Sound ⟨found, mode, offset⟩) :
    Sound ⟨(enter found after c).1, (enter found after c).2, after + c.utf8Size⟩ := by
  unfold enter
  split
  · exact ⟨sound.found, [], by simp_all, trivial⟩
  · split
    · exact ⟨sound.found, trivial⟩
    · split
      · rename_i paren
        refine sound.cons ?_ trivial
        rcases Bool.or_eq_true_iff.mp paren with h | h
        · simpa [eq_of_beq h] using Lexeme.opening
        · simpa [eq_of_beq h] using Lexeme.closing
      · split
        · exact ⟨sound.found, trivial⟩
        · refine ⟨sound.found, by simp, ?_⟩
          intro d member
          simp_all [isDelimiter]

theorem push_sound {scan : Scan} (sound : Sound scan) (c : Char) : Sound (scan.push c) := by
  obtain ⟨found, mode, offset⟩ := scan
  cases mode with
  | gap => exact enter_sound c sound
  | comment =>
    refine ⟨sound.found, ?_⟩
    simp only [push, advance]
    split <;> trivial
  | atom start chars =>
    have bare : IsBare chars.reverse := sound.mode
    by_cases ends : isDelimiter c = true
    · rw [push_delimiter _ _ _ _ ends]
      have closed : Sound ⟨finished start chars :: found, .gap, offset⟩ :=
        sound.cons (finished_lexeme (.bare bare)) trivial
      exact enter_sound c closed
    · have plain : isDelimiter c = false := by simpa using ends
      have step : push ⟨found, .atom start chars, offset⟩ c =
          ⟨found, .atom start (c :: chars), offset + c.utf8Size⟩ := by
        simp [push, advance, plain]
      rw [step]
      refine ⟨sound.found, by simp, ?_⟩
      intro d member
      rcases List.mem_cons.mp (List.mem_reverse.mp member) with rfl | member
      · exact plain
      · exact bare.2 d (List.mem_reverse.mpr member)
  | quoted start chars =>
    obtain ⟨body, text, escaped⟩ := sound.mode
    -- The newest character is the one before the next, and decides whether a quote closes.
    have last : chars.head? = some (body.getLastD '"') := by
      rw [← List.getLast?_reverse, text, List.getLast?_cons, List.getLastD_eq_getLast?]
    by_cases closes : c = '"' ∧ chars.head? ≠ some '\\'
    · obtain ⟨rfl, head⟩ := closes
      rw [push_closing _ _ _ head]
      refine sound.cons (finished_lexeme ?_) trivial
      have shape : ('"' :: chars).reverse = quotedChars body := by simp [text, quotedChars]
      rw [shape]
      refine .quoted ⟨escaped, ?_⟩
      intro slash
      rw [last, List.getLastD_eq_getLast?, slash] at head
      exact head rfl
    · have stays : (c == '"' && chars.head? != some '\\') = false := by
        by_cases quote : c = '"'
        · have slash : chars.head? = some '\\' := by simpa [quote] using closes
          simp [slash]
        · simp [quote]
      have step : push ⟨found, .quoted start chars, offset⟩ c =
          ⟨found, .quoted start (c :: chars), offset + c.utf8Size⟩ := by
        simp only [push, advance, stays]
        rfl
      rw [step]
      refine ⟨sound.found, body ++ [c], by simp [text], IsEscaped.append.mpr ⟨escaped, ?_, trivial⟩⟩
      intro quote
      have slash : chars.head? = some '\\' := by simpa [quote] using closes
      exact Option.some.inj (last.symm.trans slash)

theorem read_sound {scan : Scan} (sound : Sound scan) (chars : List Char) :
    Sound (scan.read chars) := by
  induction chars generalizing scan with
  | nil => exact sound
  | cons c rest ih => exact ih (push_sound sound c)

theorem Sound.tokenText {scan : Scan} (sound : Sound scan) :
    ∀ token ∈ scan.tokens, IsTokenText token.text.toList := by
  intro token member
  obtain ⟨found, mode, offset⟩ := scan
  have closed : ∀ other ∈ found, IsTokenText other.text.toList :=
    fun other member => .inl (sound.found other member)
  cases mode with
  | gap => exact closed token (List.mem_reverse.mp member)
  | comment => exact closed token (List.mem_reverse.mp member)
  | atom start chars =>
    rcases List.mem_cons.mp (List.mem_reverse.mp member) with rfl | member
    · exact .inl (finished_lexeme (.bare sound.mode))
    · exact closed token member
  | quoted start chars =>
    obtain ⟨body, text, escaped⟩ := sound.mode
    rcases List.mem_cons.mp (List.mem_reverse.mp member) with rfl | member
    · exact .inr ⟨body, by simp [finished, text], escaped⟩
    · exact closed token member

end Scan

theorem tokenText_of_mem_tokenize {text : String} {token : Token} (member : token ∈ tokenize text) :
    IsTokenText token.text.toList :=
  have start : Scan.start.Sound := ⟨fun _ none => absurd none List.not_mem_nil, trivial⟩
  (Scan.read_sound start text.toList).tokenText token member

theorem lexeme_of_mem_tokenize {text : String} {token : Token} (member : token ∈ tokenize text)
    (terminated : token.isUnterminated = false) : Lexeme token.text.toList := by
  rcases tokenText_of_mem_tokenize member with lexeme | ⟨body, shape, escaped⟩
  · exact lexeme
  · rw [Token.isUnterminated, shape, isUnclosed_open escaped] at terminated
    contradiction

/-- Only the last token can be a string that is left open. -/
theorem lexeme_of_mem_dropLast {text : String} {token : Token}
    (member : token ∈ (tokenize text).dropLast) : Lexeme token.text.toList := by
  have start : Scan.start.Sound := ⟨fun _ none => absurd none List.not_mem_nil, trivial⟩
  have sound := Scan.read_sound start text.toList
  have found : token ∈ (Scan.start.read text.toList).found := by
    change token ∈ ((Scan.start.read text.toList).tokens).dropLast at member
    unfold Scan.tokens at member
    split at member
    · rw [List.reverse_cons, List.dropLast_concat] at member
      exact List.mem_reverse.mp member
    · rw [List.reverse_cons, List.dropLast_concat] at member
      exact List.mem_reverse.mp member
    · exact List.mem_reverse.mp (List.dropLast_subset _ member)
    · exact List.mem_reverse.mp (List.dropLast_subset _ member)
  exact sound.found token found

theorem isUnclosed_lexeme {chars : List Char} (lexeme : Lexeme chars) :
    Token.isUnclosed chars = false := by
  cases lexeme with
  | opening => rfl
  | closing => rfl
  | bare bare =>
    have plain := bare.no_quote
    cases chars with
    | nil => rfl
    | cons c rest =>
      have first : c ≠ '"' := fun quote => plain (quote ▸ List.mem_cons_self)
      simp [Token.isUnclosed, first]
  | quoted closable => exact isUnclosed_quoted closable

end FootprintTemplate.Sexpr
