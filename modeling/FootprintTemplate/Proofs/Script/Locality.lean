import FootprintTemplate.Proofs.Script.Template
import FootprintTemplate.Script.Lexemes

/-! Tokens of plain text. Up to a quote, a brace or a line end, text without escapes, comments and
patterns is read without looking at what follows. -/
namespace FootprintTemplate.Script

section Stops

/-- Characters that no name, number or longer mark goes on with. -/
def stops : List Char :=
  ['"', '\x27', '\x60', '\x7b', '\x7d', '\n']

def Stops (rest : List Char) : Prop :=
  ∀ c ∈ rest.head?, c ∈ stops

theorem Stops.nil : Stops [] :=
  nofun

theorem Stops.cons {c : Char} (stop : c ∈ stops) (rest : List Char) : Stops (c :: rest) := by
  rintro _ ⟨⟩
  exact stop

theorem Stops.ne {c : Char} {more : List Char} (stop : Stops (c :: more)) {d : Char}
    (other : d ∉ stops) : c ≠ d := by
  rintro rfl
  exact other (stop _ rfl)

theorem outside_tokens {c : Char} (stop : c ∈ stops) :
    startsName c = false ∧ continuesName c = false ∧ c.isDigit = false ∧ baseOf? c = none ∧
      ∀ base ∈ [2, 8, 10, 16], digitIn? base c = none := by
  simp only [stops, List.mem_cons, List.not_mem_nil, or_false] at stop
  obtain rfl | rfl | rfl | rfl | rfl | rfl := stop <;> decide +kernel

/-- A reader that finds the same whatever stops it, and leaves the end of its text. -/
structure IsLocal {α : Type} (read : List Char → Option (α × List Char)) : Prop where
  before : ∀ text rest, Stops rest →
    read (text ++ rest) = (read text).map fun (value, after) => (value, after ++ rest)
  leaves : ∀ text value after, read text = some (value, after) → after <:+ text

variable {α β : Type}

theorem IsLocal.return (value : α) : IsLocal fun text => some (value, text) where
  before _ _ _ := rfl
  leaves text _ _ found := by
    cases found
    exact List.suffix_refl text

theorem IsLocal.bind {read : List Char → Option (α × List Char)}
    {next : α → List Char → Option (β × List Char)} (first : IsLocal read)
    (more : ∀ value, IsLocal (next value)) :
    IsLocal fun text => (read text).bind fun (value, rest) => next value rest where
  before text rest stop := by
    simp only [first.before text rest stop]
    cases read text with
    | none => rfl
    | some found => exact (more found.1).before found.2 rest stop
  leaves text value after found := by
    obtain ⟨⟨own, rest⟩, ownFound, nextFound⟩ := Option.bind_eq_some_iff.mp found
    exact ((more own).leaves rest value after nextFound).trans (first.leaves text own rest ownFound)

theorem IsLocal.map {read : List Char → Option (α × List Char)} (first : IsLocal read)
    (f : α → β) : IsLocal fun text => (read text).map fun (value, rest) => (f value, rest) := by
  have same : (fun text => (read text).map fun (value, rest) => (f value, rest)) =
      fun text => (read text).bind fun (value, rest) => some (f value, rest) := by
    funext text
    cases read text <;> rfl
  rw [same]
  exact first.bind fun value => .return (f value)

end Stops

section Numbers

variable {base : Nat}

theorem readDigits?_stops (usual : base ∈ [2, 8, 10, 16]) {rest : List Char} (stop : Stops rest) :
    readDigits? base rest = some ([], rest) := by
  cases rest with
  | nil => rfl
  | cons c more =>
    obtain ⟨-, -, -, -, digit⟩ := outside_tokens (stop c rfl)
    have underscore : c ≠ '_' := stop.ne (by decide)
    rw [readDigits?]
    · simp [underscore, digit base usual]
    · rintro _ _ rfl
      exact absurd rfl underscore

theorem readDigits?_suffix (text : List Char) :
    ∀ digits after, readDigits? base text = some (digits, after) → after <:+ text := by
  intro digits after found
  fun_induction readDigits? base text generalizing digits with
  | case1 => cases found; exact List.suffix_refl _
  | case2 c more digit ih =>
    obtain ⟨⟨own, rest⟩, inner, same⟩ := Option.map_eq_some_iff.mp found
    cases same
    exact ((ih own inner).trans (List.suffix_cons c more)).trans (List.suffix_cons '_' _)
  | case3 => cases found
  | case4 => cases found
  | case5 c more shape other digit ih =>
    obtain ⟨⟨own, rest⟩, inner, same⟩ := Option.map_eq_some_iff.mp found
    cases same
    exact (ih own inner).trans (List.suffix_cons c more)
  | case6 => cases found; exact List.suffix_refl _

theorem isLocal_readDigits? (usual : base ∈ [2, 8, 10, 16]) : IsLocal (readDigits? base) := by
  refine ⟨fun text rest stop => ?_, readDigits?_suffix⟩
  fun_induction readDigits? base text with
  | case1 => exact readDigits?_stops usual stop
  | case2 c more digit ih =>
    rw [List.cons_append, List.cons_append, readDigits?, if_pos digit, ih]
    cases readDigits? base more <;> rfl
  | case3 c more digit =>
    rw [List.cons_append, List.cons_append, readDigits?, if_neg digit]
    rfl
  | case4 c more shape same =>
    cases beq_iff_eq.mp same
    cases more with
    | cons d others => exact absurd rfl (shape d others rfl)
    | nil =>
      cases rest with
      | nil => rfl
      | cons d others =>
        obtain ⟨-, -, -, -, digit⟩ := outside_tokens (stop d rfl)
        simp [readDigits?, digit base usual]
  | case5 c more shape other digit ih =>
    rw [List.cons_append, readDigits?, if_neg other, if_pos digit, ih]
    · cases readDigits? base more <;> rfl
    · rintro _ _ rfl
      exact absurd rfl other
  | case6 c more shape other digit =>
    rw [List.cons_append, readDigits?, if_neg other, if_neg digit]
    · rfl
    · rintro _ _ rfl
      exact absurd rfl other

theorem isLocal_readSomeDigits? (usual : base ∈ [2, 8, 10, 16]) :
    IsLocal (readSomeDigits? base) where
  before text rest stop := by
    cases text with
    | nil =>
      cases rest with
      | nil => rfl
      | cons c more =>
        obtain ⟨-, -, -, -, digit⟩ := outside_tokens (stop c rfl)
        simp [readSomeDigits?, digit base usual]
    | cons c more =>
      rw [List.cons_append, readSomeDigits?, readSomeDigits?,
        (isLocal_readDigits? usual).before more rest stop]
      split
      · cases readDigits? base more <;> rfl
      · rfl
  leaves text digits after found := by
    cases text with
    | nil => cases found
    | cons c more =>
      rw [readSomeDigits?] at found
      split at found
      · obtain ⟨⟨own, rest⟩, inner, same⟩ := Option.map_eq_some_iff.mp found
        cases same
        exact (readDigits?_suffix more own after inner).trans (List.suffix_cons c more)
      · cases found

theorem takeSign_stops (text : List Char) {rest : List Char} (stop : Stops rest) :
    Number.takeSign (text ++ rest) =
      ((Number.takeSign text).1, (Number.takeSign text).2 ++ rest) := by
  have unsigned : ∀ chars : List Char, chars.head? ≠ some '+' → chars.head? ≠ some '-' →
      Number.takeSign chars = (none, chars) := by
    intro chars plus minus
    unfold Number.takeSign
    split
    · exact absurd rfl plus
    · exact absurd rfl minus
    · rfl
  cases text with
  | nil =>
    refine unsigned rest ?_ ?_
    · exact fun first => absurd (stop _ first) (by decide)
    · exact fun first => absurd (stop _ first) (by decide)
  | cons c more =>
    by_cases plus : c = '+'
    · rw [plus]
      rfl
    by_cases minus : c = '-'
    · rw [minus]
      rfl
    · have own (chars : List Char) : Number.takeSign (c :: chars) = (none, c :: chars) :=
        unsigned _ (by simpa using plus) (by simpa using minus)
      rw [List.cons_append, own, own]
      rfl

theorem takeSign_suffix (text : List Char) : (Number.takeSign text).2 <:+ text := by
  unfold Number.takeSign
  split
  · exact List.suffix_cons _ _
  · exact List.suffix_cons _ _
  · exact List.suffix_refl _

theorem isLocal_readExponent? : IsLocal readExponent? where
  before text rest stop := by
    cases text with
    | nil =>
      cases rest with
      | nil => rfl
      | cons c more =>
        have small : c ≠ 'e' := stop.ne (by decide)
        have large : c ≠ 'E' := stop.ne (by decide)
        simp [readExponent?, small, large]
    | cons e more =>
      have digits := (isLocal_readSomeDigits? (by decide : 10 ∈ [2, 8, 10, 16])).before
        (Number.takeSign more).2 rest stop
      rw [List.cons_append, readExponent?, readExponent?, takeSign_stops more stop]
      split
      · simp only [digits]
        cases readSomeDigits? 10 (Number.takeSign more).2 <;> rfl
      · rfl
  leaves text value after found := by
    cases text with
    | nil => cases found; exact List.suffix_refl _
    | cons e more =>
      rw [readExponent?] at found
      split at found
      · obtain ⟨⟨own, rest⟩, inner, same⟩ := Option.map_eq_some_iff.mp found
        cases same
        have digits := (isLocal_readSomeDigits? (by decide : 10 ∈ [2, 8, 10, 16])).leaves _ _ _ inner
        exact (digits.trans (takeSign_suffix more)).trans (List.suffix_cons e more)
      · cases found; exact List.suffix_refl _

theorem isLocal_readPointDigits? : IsLocal readPointDigits? := by
  have usual : 10 ∈ [2, 8, 10, 16] := by decide
  have plain : ∀ chars : List Char, chars.head? ≠ some '.' →
      readPointDigits? chars = some ([], chars) := by
    intro chars point
    unfold readPointDigits?
    split
    · exact absurd rfl point
    · exact absurd rfl point
    · rfl
  constructor
  · intro text rest stop
    match text with
    | [] => exact plain rest fun first => absurd (stop _ first) (by decide)
    | c :: more =>
      by_cases point : c = '.'
      · subst point
        cases more with
        | cons d others =>
          rw [List.cons_append, List.cons_append, readPointDigits?, readPointDigits?,
            (isLocal_readDigits? usual).before others rest stop]
          split
          · cases readDigits? 10 others <;> rfl
          · rfl
        | nil =>
          cases rest with
          | nil => rfl
          | cons d others =>
            obtain ⟨-, -, digit, -⟩ := outside_tokens (stop d rfl)
            simp [readPointDigits?, digit]
      · rw [plain (c :: more) (by simpa using point), plain _ (by simpa using point)]
        rfl
  · intro text digits after found
    unfold readPointDigits? at found
    split at found
    · rename_i c more
      split at found
      · obtain ⟨⟨own, rest⟩, inner, same⟩ := Option.map_eq_some_iff.mp found
        cases same
        have digits := readDigits?_suffix more own after inner
        exact (digits.trans (List.suffix_cons c more)).trans (List.suffix_cons '.' _)
      · cases found
        exact List.suffix_cons '.' _
    · cases found
      exact List.suffix_cons '.' _
    · cases found
      exact List.suffix_refl _

theorem isLocal_readFraction? (whole : List Char) (old : Bool) :
    IsLocal (readFraction? whole old) :=
  isLocal_readPointDigits?.bind fun fraction => isLocal_readExponent?.map fun exponent =>
    Numeral.double (.ofDecimal false (Number.naturalOf (whole ++ fraction))
      (exponent - fraction.length)) old

theorem isLocal_readEnding (integer : Nat) {number : List Char → Option (Numeral × List Char)}
    (own : IsLocal number) : IsLocal (readEnding integer number) := by
  have plain : ∀ chars : List Char, chars.head? ≠ some 'n' →
      readEnding integer number chars = number chars := by
    intro chars mark
    unfold readEnding
    split
    · exact absurd rfl mark
    · rfl
  constructor
  · intro text rest stop
    cases text with
    | nil =>
      rw [List.nil_append, plain rest fun first => absurd (stop _ first) (by decide),
        plain [] (by simp)]
      exact own.before [] rest stop
    | cons c more =>
      by_cases mark : c = 'n'
      · subst mark
        rfl
      · rw [plain (c :: more) (by simpa using mark), plain _ (by simpa using mark)]
        exact own.before (c :: more) rest stop
  · intro text value after found
    unfold readEnding at found
    split at found
    · cases found
      exact List.suffix_cons 'n' _
    · exact own.leaves _ _ _ found

theorem takeWhile_stops {fits : Char → Bool} (text : List Char) {rest : List Char}
    (stop : ∀ c ∈ rest.head?, fits c = false) :
    (text ++ rest).takeWhile fits = text.takeWhile fits ∧
      (text ++ rest).dropWhile fits = text.dropWhile fits ++ rest := by
  induction text with
  | nil =>
    cases rest with
    | nil => simp
    | cons c more => simp [stop c rfl]
  | cons c more ih =>
    rw [List.cons_append, List.takeWhile_cons, List.takeWhile_cons, List.dropWhile_cons,
      List.dropWhile_cons]
    split
    · exact ⟨congrArg (c :: ·) ih.1, ih.2⟩
    · exact ⟨rfl, rfl⟩

theorem isLocal_readZero? : IsLocal readZero? := by
  have based (base : Nat) (usual : base ∈ [2, 8, 10, 16]) :
      IsLocal fun rest => (readSomeDigits? base rest).bind fun found =>
        readEnding (valueIn base found.1) (fun rest =>
          some (.double (.ofDecimal false (valueIn base found.1) 0) false, rest)) found.2 :=
    (isLocal_readSomeDigits? usual).bind fun digits =>
      isLocal_readEnding (valueIn base digits)
        (.return (Numeral.double (.ofDecimal false (valueIn base digits) 0) false))
  have usual {c : Char} {base : Nat} (own : baseOf? c = some base) : base ∈ [2, 8, 10, 16] := by
    unfold baseOf? at own
    split at own <;> cases own <;> decide
  have ending := isLocal_readEnding 0 (isLocal_readFraction? ['0'] false)
  constructor
  · intro text rest stop
    cases text with
    | nil =>
      cases rest with
      | nil => rw [readZero?]; exact (isLocal_readFraction? ['0'] false).before [] [] stop
      | cons c more =>
        obtain ⟨-, -, digit, base, -⟩ := outside_tokens (stop c rfl)
        simp only [List.nil_append, readZero?, base, digit, Bool.false_eq_true, if_false]
        exact ending.before [] (c :: more) stop
    | cons c more =>
      rw [List.cons_append, readZero?, readZero?]
      split
      · rename_i base own
        exact (based base (usual own)).before more rest stop
      · split
        · have noDigit : ∀ d ∈ rest.head?, d.isDigit = false :=
            fun d first => (outside_tokens (stop d first)).2.2.1
          have digits := takeWhile_stops (c :: more) noDigit
          rw [List.cons_append] at digits
          simp only [digits]
          split
          · rfl
          · exact (isLocal_readFraction? _ true).before _ rest stop
        · exact ending.before (c :: more) rest stop
  · intro text value after found
    cases text with
    | nil => exact (isLocal_readFraction? ['0'] false).leaves [] value after found
    | cons c more =>
      rw [readZero?] at found
      split at found
      · rename_i base own
        exact ((based base (usual own)).leaves _ _ _ found).trans (List.suffix_cons c more)
      · split at found
        · dsimp only at found
          split at found
          · cases found
            exact List.dropWhile_suffix _
          · exact ((isLocal_readFraction? _ true).leaves _ _ _ found).trans
              (List.dropWhile_suffix _)
        · exact ending.leaves _ _ _ found

theorem isLocal_readNumeral? : IsLocal readNumeral? := by
  have whole : IsLocal fun chars => (readSomeDigits? 10 chars).bind fun found =>
      readEnding (Number.naturalOf found.1) (readFraction? found.1 false) found.2 :=
    (isLocal_readSomeDigits? (by decide)).bind fun digits =>
      isLocal_readEnding _ (isLocal_readFraction? digits false)
  have plain : ∀ chars : List Char, chars.head? ≠ some '.' → chars.head? ≠ some '0' →
      readNumeral? chars = (readSomeDigits? 10 chars).bind fun found =>
        readEnding (Number.naturalOf found.1) (readFraction? found.1 false) found.2 := by
    intro chars point zero
    unfold readNumeral?
    split
    · exact absurd rfl point
    · exact absurd rfl zero
    · rfl
  constructor
  · intro text rest stop
    cases text with
    | nil =>
      rw [List.nil_append, plain rest fun first => absurd (stop _ first) (by decide)]
      · exact whole.before [] rest stop
      · exact fun first => absurd (stop _ first) (by decide)
    | cons c more =>
      by_cases point : c = '.'
      · subst point
        exact (isLocal_readFraction? [] false).before ('.' :: more) rest stop
      by_cases zero : c = '0'
      · subst zero
        exact isLocal_readZero?.before more rest stop
      · have own (chars : List Char) := plain (c :: chars) (by simpa using point) (by simpa using zero)
        rw [List.cons_append, own, own]
        exact whole.before (c :: more) rest stop
  · intro text value after found
    unfold readNumeral? at found
    split at found
    · exact (isLocal_readFraction? [] false).leaves _ _ _ found
    · exact (isLocal_readZero?.leaves _ _ _ found).trans (List.suffix_cons '0' _)
    · exact whole.leaves _ _ _ found

end Numbers

section Words

/-- Characters of plain text: no escape starts there, no comment and no pattern, and no stop is among
them but for line ends. -/
def isSimple (c : Char) : Bool :=
  isNeutral c && c != '\\'

theorem readName_simple {fits : Char → Bool} (outside : ∀ c ∈ stops, fits c = false)
    {text : List Char} (simple : text.all isSimple = true) :
    ∃ name after, after <:+ text ∧ ∀ rest, Stops rest → ∀ fuel, text.length ≤ fuel →
      readName fits fuel (text ++ rest) = (name, false, after ++ rest) := by
  induction text generalizing fits with
  | nil =>
    refine ⟨[], [], List.suffix_refl _, fun rest stop fuel _ => ?_⟩
    cases fuel with
    | zero => simp [readName]
    | succ fuel =>
      cases rest with
      | nil => rfl
      | cons c more =>
        rw [List.nil_append, readName_cons (stop.ne (by decide)), outside c (stop c rfl)]
        rfl
  | cons c more ih =>
    rw [List.all_cons, Bool.and_eq_true] at simple
    obtain ⟨first, others⟩ := simple
    have backslash : c ≠ '\\' := by
      rintro rfl
      exact absurd first (by decide)
    cases fit : fits c with
    | false =>
      refine ⟨[], c :: more, List.suffix_refl _, fun rest stop fuel enough => ?_⟩
      cases fuel with
      | zero => cases enough
      | succ fuel =>
        rw [List.cons_append, readName_cons backslash, fit]
        rfl
    | true =>
      obtain ⟨name, after, leaves, read⟩ :=
        ih (fun d stop => (outside_tokens stop).2.1) others
      refine ⟨c :: name, after, leaves.trans (List.suffix_cons c more),
        fun rest stop fuel enough => ?_⟩
      cases fuel with
      | zero => cases enough
      | succ fuel =>
        rw [List.cons_append, readName_cons backslash, fit, if_pos rfl,
          read rest stop fuel (Nat.le_of_succ_le_succ enough)]

/-- Whatever stops the text, it starts with this token, or with none. -/
def StartsWith (text : List Char) (token : Token) (after : List Char) : Prop :=
  ∀ rest, Stops rest → readToken (text ++ rest) = (token, after ++ rest)

def IsBroken (text : List Char) : Prop :=
  ∀ rest, Stops rest → readToken (text ++ rest) = (.broken, [])

/-- A token that neither opens nor closes a brace. -/
def IsLevel (token : Token) : Prop :=
  ∀ position : Position, position.after token = ⟨false, position.braces⟩

theorem readWhole_simple {text : List Char} (simple : text.all isSimple = true) :
    (∀ rest, Stops rest → readWhole (text ++ rest) = none) ∨
      ∃ name after, after <:+ text ∧ ∀ rest, Stops rest →
        readWhole (text ++ rest) = some (name, false, after ++ rest) := by
  obtain ⟨name, after, leaves, read⟩ :=
    readName_simple (fun c stop => (outside_tokens stop).1 : ∀ c ∈ stops, startsName c = false) simple
  have whole (rest : List Char) (stop : Stops rest) :
      readName startsName (text ++ rest).length (text ++ rest) = (name, false, after ++ rest) :=
    read rest stop _ (by simp)
  cases name with
  | nil => exact .inl fun rest stop => by rw [readWhole, whole rest stop]
  | cons c more =>
    refine .inr ⟨String.ofList (c :: more), after, leaves, fun rest stop => ?_⟩
    have noEscape : (after ++ rest).head? ≠ some '\\' := by
      intro first
      cases after with
      | nil => exact absurd (stop _ first) (by decide)
      | cons d others =>
        obtain rfl := Option.some.inj first
        have inside := List.all_eq_true.mp simple _ (leaves.mem List.mem_cons_self)
        exact absurd inside (by decide)
    rw [readWhole, whole rest stop]
    split
    · rename_i same
      cases same
    · rename_i same
      simp only [Prod.mk.injEq] at same
      exact absurd (by rw [same.2.2]; rfl) noEscape
    · rename_i same
      cases same
      rfl

theorem isPrefixOf_stops {mark : List Char} (inside : ∀ c ∈ mark, c ∉ stops) (text : List Char)
    {rest : List Char} (stop : Stops rest) :
    mark.isPrefixOf (text ++ rest) = mark.isPrefixOf text := by
  induction mark generalizing text with
  | nil => simp
  | cons c more ih =>
    obtain ⟨first, others⟩ := List.forall_mem_cons.mp inside
    cases text with
    | nil =>
      cases rest with
      | nil => rfl
      | cons d tail =>
        have apart : c ≠ d := (stop.ne first).symm
        simp [List.isPrefixOf, apart]
    | cons d tail => simp only [List.cons_append, List.isPrefixOf, ih others]

theorem markFits_stops {mark : String} (inside : ∀ c ∈ mark.toList, c ∉ stops) (text : List Char)
    {rest : List Char} (stop : Stops rest) : markFits (text ++ rest) mark = markFits text mark := by
  unfold markFits
  rw [isPrefixOf_stops inside text stop]
  by_cases optional : mark = "?."
  · subst optional
    match text with
    | [] => rfl
    | [c] =>
      have short : ("?.".toList).isPrefixOf [c] = false := by
        change (('?' == c) && false) = false
        exact Bool.and_false _
      rw [short]
      rfl
    | c :: d :: more =>
      cases more with
      | cons => rfl
      | nil =>
        have digit : (rest.head?.any Char.isDigit) = false := by
          cases rest with
          | nil => rfl
          | cons e others => exact (outside_tokens (stop e rfl)).2.2.1
        change (_ && !(true && rest.head?.any Char.isDigit)) = (_ && !(true && false))
        rw [digit]
  · have other : (mark == "?.") = false := by simpa using optional
    rw [other]
    rfl

theorem readMark_simple {c : Char} {more : List Char} (neutral : isNeutral c = true) :
    (∀ rest, Stops rest → readMark (c :: more ++ rest) = (.broken, [])) ∨
      ∃ mark after, IsLevel (.mark mark) ∧ after <:+ c :: more ∧
        ∀ rest, Stops rest → readMark (c :: more ++ rest) = (.mark mark, after ++ rest) := by
  have plain : ∀ mark ∈ marks, (mark = "\x7b" ∨ mark = "\x7d") ∨ ∀ c ∈ mark.toList, c ∉ stops := by
    have known : marks.all (fun mark => mark == "\x7b" || mark == "\x7d" ||
        mark.toList.all (!stops.contains ·)) = true := rfl
    simpa using known
  have brace (d : Char) (other : isNeutral d = false) : c ≠ d := by
    rintro rfl
    exact absurd neutral (by simp [other])
  have fits (rest : List Char) (stop : Stops rest) (mark : String) (known : mark ∈ marks) :
      markFits (c :: more ++ rest) mark = markFits (c :: more) mark := by
    rcases plain mark known with (rfl | rfl) | inside
    · have apart : ('\x7b' == c) = false := by simpa using (brace _ rfl).symm
      change (('\x7b' == c && _) && _) = (('\x7b' == c && _) && _)
      rw [apart]
      rfl
    · have apart : ('\x7d' == c) = false := by simpa using (brace _ rfl).symm
      change (('\x7d' == c && _) && _) = (('\x7d' == c && _) && _)
      rw [apart]
      rfl
    · exact markFits_stops inside (c :: more) stop
  have found (rest : List Char) (stop : Stops rest) :
      marks.find? (markFits (c :: more ++ rest)) = marks.find? (markFits (c :: more)) := by
    rw [← List.head?_filter, ← List.head?_filter, List.filter_congr (fits rest stop)]
  cases own : marks.find? (markFits (c :: more)) with
  | none => exact .inl fun rest stop => by rw [readMark, found rest stop, own]
  | some mark =>
    have fit := List.find?_some own
    rw [markFits, Bool.and_eq_true] at fit
    have start : mark.toList <+: c :: more := List.isPrefixOf_iff_prefix.mp fit.1
    have notBrace (d : Char) (other : isNeutral d = false) : mark.toList ≠ [d] := by
      intro same
      rw [same] at start
      exact brace d other (List.cons_prefix_cons.mp start).1.symm
    refine .inr ⟨mark, (c :: more).drop mark.length, ?_, List.drop_suffix _ _, fun rest stop => ?_⟩
    · intro position
      unfold Position.after
      split
      · rename_i same
        cases same
        exact absurd rfl (notBrace '\x7b' rfl)
      · rename_i same
        cases same
        exact absurd rfl (notBrace '\x7d' rfl)
      · rename_i same
        cases same
      · rfl
    · have short : mark.length ≤ (c :: more).length := start.length_le
      rw [readMark, found rest stop, own]
      exact congrArg (Token.mark mark, ·) (List.drop_append_of_le_length short)

theorem readNumber_simple (text : List Char) :
    (∀ rest, Stops rest → readNumber (text ++ rest) = (.broken, [])) ∨
      ∃ token after, token ∉ [.finish, .broken] ∧ IsLevel token ∧ after <:+ text ∧
        ∀ rest, Stops rest → readNumber (text ++ rest) = (token, after ++ rest) := by
  cases own : readNumeral? text with
  | none =>
    exact .inl fun rest stop => by rw [readNumber, isLocal_readNumeral?.before text rest stop, own]; rfl
  | some found =>
    obtain ⟨numeral, after⟩ := found
    have head (rest : List Char) (stop : Stops rest) :
        ((after ++ rest).head?.any fun c => startsName c || c.isDigit || c == '\\') =
          after.head?.any fun c => startsName c || c.isDigit || c == '\\' := by
      cases after with
      | cons => rfl
      | nil =>
        cases rest with
        | nil => rfl
        | cons c more =>
          obtain ⟨name, -, digit, -⟩ := outside_tokens (stop c rfl)
          have backslash : c ≠ '\\' := stop.ne (by decide)
          simp [name, digit, backslash]
    obtain ⟨token, other, level, read⟩ : ∃ token, token ∉ [.finish, .broken] ∧ IsLevel token ∧
        ∀ chars rest, readNumeral? chars = some (numeral, rest) → readNumber chars =
          if rest.head?.any fun c => startsName c || c.isDigit || c == '\\' then (.broken, [])
          else (token, rest) := by
      cases numeral with
      | double value old =>
        exact ⟨.number value old, by simp, fun _ => rfl,
          fun chars rest found => by rw [readNumber, found]⟩
      | integer value =>
        exact ⟨.integer value, by simp, fun _ => rfl,
          fun chars rest found => by rw [readNumber, found]⟩
    have whole (rest : List Char) (stop : Stops rest) :
        readNumeral? (text ++ rest) = some (numeral, after ++ rest) := by
      rw [isLocal_readNumeral?.before text rest stop, own]
      rfl
    cases bad : after.head?.any fun c => startsName c || c.isDigit || c == '\\' with
    | true =>
      exact .inl fun rest stop => by rw [read _ _ (whole rest stop), head rest stop, bad, if_pos rfl]
    | false =>
      have leaves := isLocal_readNumeral?.leaves text numeral after own
      refine .inr ⟨token, after, other, level, leaves, fun rest stop => ?_⟩
      rw [read _ _ (whole rest stop), head rest stop, bad]
      rfl

/-- Plain text starts with a token of its own whatever stops it, or with none. -/
theorem readToken_simple {c : Char} {more : List Char} (simple : (c :: more).all isSimple = true) :
    IsBroken (c :: more) ∨ ∃ token after, token ∉ [.finish, .broken] ∧ IsLevel token ∧
      after <:+ c :: more ∧ StartsWith (c :: more) token after := by
  have others : more.all isSimple = true := by
    rw [List.all_cons, Bool.and_eq_true] at simple
    exact simple.2
  have neutral : isNeutral c = true ∧ c ≠ '\\' := by
    rw [List.all_cons, isSimple, Bool.and_eq_true, Bool.and_eq_true] at simple
    exact ⟨simple.1.1, by simpa using simple.1.2⟩
  have brace (d : Char) (other : isNeutral d = false) : c ≠ d := by
    rintro rfl
    exact absurd neutral.1 (by simp [other])
  by_cases name : startsName c = true
  · rcases readWhole_simple simple with none | ⟨own, after, leaves, whole⟩
    · refine .inl fun rest stop => ?_
      have none := none rest stop
      rw [List.cons_append] at none ⊢
      simp [readToken, name, none]
    · refine .inr ⟨.name own false, after, by simp, fun _ => rfl, leaves, fun rest stop => ?_⟩
      have whole := whole rest stop
      rw [List.cons_append] at whole ⊢
      simp [readToken, name, whole]
  by_cases secret : c = '#'
  · subst secret
    rcases readWhole_simple others with none | ⟨own, after, leaves, whole⟩
    · exact .inl fun rest stop => by simp [readToken, name, none rest stop]
    · exact .inr ⟨.secret own, after, by simp, fun _ => rfl, leaves.trans (List.suffix_cons _ more),
        fun rest stop => by simp [readToken, name, whole rest stop]⟩
  have digits (rest : List Char) (stop : Stops rest) :
      (c.isDigit || (c == '.' && (more ++ rest).head?.any Char.isDigit)) =
        (c.isDigit || (c == '.' && more.head?.any Char.isDigit)) := by
    cases more with
    | cons => rfl
    | nil =>
      cases rest with
      | nil => rfl
      | cons d tail =>
        have digit : (([] ++ d :: tail).head?.any Char.isDigit) = false :=
          (outside_tokens (stop d rfl)).2.2.1
        rw [digit]
        rfl
  have quote : (c == '\x27' || c == '"') = false := by
    simp [brace '\x27' rfl, brace '"' rfl]
  have read (rest : List Char) (stop : Stops rest) : readToken (c :: more ++ rest) =
      if c.isDigit || (c == '.' && more.head?.any Char.isDigit) then readNumber (c :: more ++ rest)
      else readMark (c :: more ++ rest) := by
    rw [← digits rest stop]
    simp [readToken, name, secret, neutral.2, quote, brace '\x60' rfl]
  cases number : c.isDigit || (c == '.' && more.head?.any Char.isDigit) with
  | true =>
    simp only [number, if_true] at read
    rcases readNumber_simple (c :: more) with none | ⟨token, after, proper, level, leaves, own⟩
    · exact .inl fun rest stop => (read rest stop).trans (none rest stop)
    · exact .inr ⟨token, after, proper, level, leaves, fun rest stop =>
        (read rest stop).trans (own rest stop)⟩
  | false =>
    simp only [number, Bool.false_eq_true, if_false] at read
    rcases readMark_simple neutral.1 with none | ⟨mark, after, level, leaves, own⟩
    · exact .inl fun rest stop => (read rest stop).trans (none rest stop)
    · exact .inr ⟨_, after, by simp, level, leaves, fun rest stop =>
        (read rest stop).trans (own rest stop)⟩

end Words

end FootprintTemplate.Script
