import FootprintTemplate.Proofs.Sexpr.Layout

/-! Stages of reading. What has been read of a text is told by its open nodes, and the token at which
reading stops by the stage that it meets. -/
namespace FootprintTemplate.Sexpr

/-- How far the reading of a document has come. Open nodes are listed innermost first. -/
inductive Stage where
  | start
  /-- A parenthesis has been opened in these nodes, and its kind is to come. -/
  | kind (outer : List Frame)
  | items (outer : List Frame) (top : Frame)
  | done (node : Node)

namespace Stage

/-- The tokens read so far. -/
def texts : Stage → List String
  | start => []
  | kind outer => openTexts outer ++ ["("]
  | items outer top => openTexts (top :: outer)
  | done node => node.flatten

/-- Nodes that are still open. -/
def depth : Stage → Nat
  | start | done _ => 0
  | kind outer | items outer _ => outer.length + 1

def Fit : Stage → Prop
  | start => True
  | kind outer => OpenFit outer ∧ outer.length < maxDepth
  | items outer top => OpenFit (top :: outer) ∧ outer.length < maxDepth
  | done node => (∀ word ∈ node.item.words, IsWord word) ∧ node.depth ≤ maxDepth

/-- The error of a token that cannot come next. -/
def fault? (index : Nat) (token : Token) : Stage → Option ParseError
  | start =>
    if token.isOpen then none else some (.expectedOpen index token.offset token.text)
  | kind _ =>
    if token.isOpen || token.isClose then some (.missingType index token.offset)
    else if token.isUnterminated then some (.unterminatedString index token.offset)
    else none
  | items outer _ =>
    if token.isClose then none
    else if token.isOpen then
      if maxDepth ≤ outer.length + 1 then some (.tooDeep index token.offset) else none
    else if token.isUnterminated then some (.unterminatedString index token.offset)
    else none
  | done _ => some (.trailingTokens index token.offset)

/-- Reading cannot go on over these tokens. -/
def Stops (stage : Stage) (index : Nat) : List Token → ParseError → Prop
  | [], error => (∀ node, stage ≠ .done node) ∧ error = .unexpectedEnd index
  | token :: _, error => stage.fault? index token = some error

end Stage

section Halting

/-- From a stage with these texts reading goes on over some of the tokens, and stops. -/
def Halts (texts : List String) (index : Nat) (tokens : List Token) (error : ParseError) : Prop :=
  ∃ (stage : Stage) (own rest : List Token), tokens = own ++ rest ∧
    (∀ token ∈ own, token.isUnterminated = false) ∧ stage.Fit ∧
    texts ++ own.map Token.text = stage.texts ∧ stage.Stops (index + own.length) rest error

variable {texts : List String} {index : Nat} {error : ParseError}

theorem Halts.here (stage : Stage) (fit : stage.Fit) (same : texts = stage.texts)
    {tokens : List Token} (stops : stage.Stops index tokens error) :
    Halts texts index tokens error :=
  ⟨stage, [], tokens, rfl, by simp, fit, by simpa using same, stops⟩

theorem Halts.after (first : List Token) {before : List String} {rest : List Token}
    (halts : Halts texts (index + first.length) rest error)
    (same : before ++ first.map Token.text = texts)
    (terminated : ∀ token ∈ first, token.isUnterminated = false) :
    Halts before index (first ++ rest) error := by
  obtain ⟨stage, own, last, rfl, whole, fit, inside, stops⟩ := halts
  refine ⟨stage, first ++ own, last, by simp, List.forall_mem_append.mpr ⟨terminated, whole⟩, fit,
    ?_, ?_⟩
  · rw [List.map_append, ← List.append_assoc, same, inside]
  · rwa [List.length_append, ← Nat.add_assoc]

theorem kindAt_eq_error {token : Token} {outer : List Frame} :
    kindAt index token = .error error ↔ (Stage.kind outer).fault? index token = some error := by
  unfold kindAt atomAt Stage.fault?
  split
  · simp
  · split <;> simp

theorem readItems_halts {outer : List Frame} {top : Frame} {tokens : List Token}
    (fails : readItems outer top index tokens = .error error) (fit : OpenFit (top :: outer))
    (few : outer.length < maxDepth) : Halts (openTexts (top :: outer)) index tokens error := by
  -- The open nodes change with every token that is passed; the last stage is told in the cases
  -- that fail.
  fun_induction readItems outer top index tokens with
  | case1 outer top index =>
    cases fails
    exact .here (.items outer top) ⟨fit, few⟩ rfl (by simp [Stage.Stops])
  | case2 => cases fails
  | case3 top index token rest close parent below ih =>
    have text := isClose_eq_true.mp close
    have depth := fit.depth_node few
    simp only [List.length_cons] at depth few
    refine .after [token] (ih fails (fit.2.2.2.push fit.words_node depth) (by omega)) ?_
      (List.forall_mem_singleton.mpr (terminated_close text))
    have closed : top.node.item.flatten = openTexts [top] ++ [")"] := flatten_node top
    rw [openTexts_push, closed, List.map_singleton, text, openTexts_cons top (parent :: below),
      List.append_assoc]
  | case4 outer top index token rest closed opens deep =>
    cases fails
    refine .here (.items outer top) ⟨fit, few⟩ rfl ?_
    simp [Stage.Stops, Stage.fault?, closed, opens, deep]
  | case5 outer top index token closed opens shallow =>
    cases fails
    have text := isOpen_eq_true.mp opens
    refine .after [token] (.here (.kind (top :: outer)) ⟨fit, ?_⟩ ?_ ?_) rfl
      (List.forall_mem_singleton.mpr (terminated_open text))
    · exact Nat.not_le.mp shallow
    · simp [Stage.texts, text]
    · simp [Stage.Stops]
  | case6 outer top index token closed opens shallow kind rest error' fails' =>
    cases fails
    have text := isOpen_eq_true.mp opens
    refine .after [token] (.here (.kind (top :: outer)) ⟨fit, ?_⟩ ?_ ?_) rfl
      (List.forall_mem_singleton.mpr (terminated_open text))
    · exact Nat.not_le.mp shallow
    · simp [Stage.texts, text]
    · exact kindAt_eq_error.mp fails'
  | case7 outer top index token closed opens shallow kind rest name named ih =>
    obtain ⟨word, closedKind, rfl⟩ := kindAt_eq_ok.mp named
    have text := isOpen_eq_true.mp opens
    have room : outer.length + 1 < maxDepth := Nat.not_le.mp shallow
    refine .after [token, kind] (ih fails ⟨word, by simp, by simp, fit⟩ room) ?_
      (by simp [terminated_open text, closedKind])
    rw [openTexts_cons ⟨kind.text, []⟩]
    simp [openTexts, text, Item.flattenAll]
  | case8 outer top index token rest closed opens error' fails' =>
    cases fails
    refine .here (.items outer top) ⟨fit, few⟩ rfl ?_
    unfold atomAt at fails'
    split at fails' <;> simp_all [Stage.Stops, Stage.fault?]
  | case9 outer top index token rest closed opens text named ih =>
    obtain ⟨closedAtom, rfl⟩ := atomAt_eq_ok.mp named
    have word : IsWord token.text :=
      ⟨mt isOpen_eq_true.mpr opens, mt isClose_eq_true.mpr closed⟩
    have inner : OpenFit (top.push (.atom token.text) :: outer) :=
      fit.push (by simpa [Item.words] using word) (by simp only [Item.depth]; omega)
    refine .after [token] (ih fails inner few) ?_ (List.forall_mem_singleton.mpr closedAtom)
    rw [openTexts_push, Item.flatten, List.map_singleton]

theorem readNode_halts {tokens : List Token} (fails : readNode tokens = .error error) :
    Halts [] 0 tokens error := by
  unfold readNode at fails
  split at fails
  · cases fails
    exact .here .start trivial rfl (by simp [Stage.Stops])
  · rename_i opening others
    split at fails
    · rename_i other
      cases fails
      refine .here .start trivial rfl ?_
      have closed : opening.isOpen = false := by simpa using other
      simp [Stage.Stops, Stage.fault?, closed]
    · rename_i opens
      have text : opening.text = "(" := isOpen_eq_true.mp (by simpa using opens)
      have shut : ∀ token ∈ [opening], token.isUnterminated = false :=
        List.forall_mem_singleton.mpr (terminated_open text)
      have room : ([] : List Frame).length < maxDepth := by decide
      have first : ([] : List String) ++ [opening].map Token.text = (Stage.kind []).texts := by
        simp [Stage.texts, openTexts, text]
      split at fails
      · cases fails
        exact .after [opening] (.here (.kind []) ⟨trivial, room⟩ rfl
          (by simp [Stage.Stops])) first shut
      · rename_i kind others
        split at fails
        · rename_i error' fails'
          cases fails
          exact .after [opening] (.here (.kind []) ⟨trivial, room⟩ rfl
            (kindAt_eq_error.mp fails')) first shut
        · rename_i name named
          obtain ⟨word, closedKind, rfl⟩ := kindAt_eq_ok.mp named
          refine .after [opening, kind]
            (readItems_halts fails ⟨word, by simp, by simp, trivial⟩ room) ?_
            (by simp [terminated_open text, closedKind])
          simp [openTexts, text, Item.flattenAll]

/-- A text that is no document is read up to a stage that its next token does not fit, or that its
end does not. -/
theorem parse_halts {text : String} (fails : parse text = .error error) :
    Halts [] 0 (tokenize text) error := by
  unfold parse at fails
  split at fails
  · rename_i own stops
    cases fails
    exact readNode_halts stops
  · rename_i parsed read
    obtain ⟨node, index, rest⟩ := parsed
    obtain ⟨own, split, rfl, document⟩ := readNode_eq_ok.mp read
    cases rest with
    | nil => cases fails
    | cons token rest =>
      cases fails
      refine ⟨.done node, own, token :: rest, split, document.terminated,
        ⟨document.words, document.depth⟩, document.texts, ?_⟩
      simp [Stage.Stops, Stage.fault?]

end Halting

end FootprintTemplate.Sexpr
