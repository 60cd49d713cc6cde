import FootprintTemplate.Proofs.Body
import FootprintTemplate.Proofs.Script.Expression

/-! Places of nets in a script. Whether a statement runs or stands in comments, its call is read
back from its text, and with it the nets that the call reads. -/
namespace FootprintTemplate

open Preview (Gathers)
open Script (Contents Lexes ReadsTemplate Token accessed? commentLine isLineEnd splitLines)
open Sexpr (Node)
open Template (Fragment)
open Writer (Guarded contents expression places)

section Calls

/-- A text that stands in comments of one line each, without their marks. So many characters of a
mark are still to come. -/
def withoutMarks : Nat → List Char → List Char
  | _, [] => []
  | 0, c :: rest => c :: withoutMarks (if isLineEnd c then 3 else 0) rest
  | n + 1, _ :: rest => withoutMarks n rest

theorem withoutMarks_commentLines {text : List Char} (filled : text ≠ []) (rest : List Char) :
    withoutMarks 3 ((splitLines text).flatMap commentLine ++ rest) =
      withoutMarks 0 ((splitLines text).head?.getD [] ++
        (splitLines text).tail.flatMap commentLine ++ rest) := by
  cases lines : splitLines text with
  | nil =>
    have whole := Script.flatten_splitLines text
    rw [lines] at whole
    exact absurd whole.symm filled
  | cons line others =>
    rw [List.flatMap_cons]
    rfl

/-- The marks are all that commenting out adds. -/
theorem withoutMarks_splitLines (text rest : List Char) :
    withoutMarks 0 ((splitLines text).head?.getD [] ++
        (splitLines text).tail.flatMap commentLine ++ rest) =
      text ++ withoutMarks (if text.getLast?.any isLineEnd then 3 else 0) rest := by
  fun_induction splitLines text with
  | case1 => rfl
  | case2 c others lineEnd ih =>
    have first : withoutMarks 0 ([c] ++ (splitLines others).flatMap commentLine ++ rest) =
        c :: withoutMarks 3 ((splitLines others).flatMap commentLine ++ rest) := by
      simp [withoutMarks, lineEnd]
    refine first.trans ?_
    by_cases filled : others = []
    · subst filled
      simp [splitLines, lineEnd]
    · rw [withoutMarks_commentLines filled, ih, List.getLast?_cons_of_ne_nil filled]
      rfl
  | case3 c others inside lines ih =>
    have whole := Script.flatten_splitLines others
    rw [lines] at whole
    subst whole
    simp [withoutMarks, inside]
  | case4 c others inside line more lines ih =>
    rw [lines] at ih
    have filled : others ≠ [] := by
      rintro rfl
      cases lines
    rw [List.getLast?_cons_of_ne_nil filled, List.cons_append, ← ih]
    simp [withoutMarks, inside]

/-- The call in the text of a statement, which may stand in comments. -/
def callOf (code : List Char) : List Char :=
  if code.head? = some '/' then withoutMarks 3 code else code

/-- The text of a statement is a call that hands over one template literal, and what this holds. -/
def HoldsCall (code : List Char) (held : Contents) : Prop :=
  ∃ literal, callOf code = "fp.push(\x60".toList ++ literal ∧
    ReadsTemplate literal held ");\n".toList

theorem callOf_code (netOf : String → String) (statement : Statement) :
    callOf (statement.code netOf) = Statement.call netOf statement.fragments ++ ['\n'] := by
  have last : (Statement.call netOf statement.fragments).getLast? = some ';' := by
    rw [call_eq, List.getLast?_concat]
  have filled : Statement.call netOf statement.fragments ≠ [] := by
    intro none
    rw [none] at last
    cases last
  rw [code_statementRow, statementRow]
  cases statement.disabled with
  | true =>
    change callOf ((splitLines _).flatMap commentLine ++ ['\n']) = _
    have marked : ((splitLines (Statement.call netOf statement.fragments)).flatMap commentLine ++
        ['\n']).head? = some '/' := by
      cases lines : splitLines (Statement.call netOf statement.fragments) with
      | nil =>
        have whole := Script.flatten_splitLines (Statement.call netOf statement.fragments)
        rw [lines] at whole
        exact absurd whole.symm filled
      | cons => rfl
    rw [callOf, if_pos marked, withoutMarks_commentLines filled, withoutMarks_splitLines, last]
    rfl
  | false =>
    change callOf (Statement.call netOf statement.fragments ++ ['\n']) = _
    rw [callOf, if_neg]
    rw [List.head?_append_of_ne_nil _ filled, Statement.call_eq_template,
      List.head?_append_of_ne_nil _ (by decide)]
    decide

theorem call_feed (netOf : String → String) (fragments : List Fragment) :
    Statement.call netOf fragments ++ ['\n'] = "fp.push(\x60".toList ++
      (Template.chars netOf fragments ++ '\x60' :: ");\n".toList) := by
  have last : "\x60);".toList ++ ['\n'] = '\x60' :: ");\n".toList := by simp
  unfold Statement.call
  generalize "fp.push(\x60".toList = front
  generalize "\x60);".toList = closing at last
  generalize ");\n".toList = after at last ⊢
  rw [List.append_assoc, last, List.append_assoc]

/-- The text of a statement holds the pieces of the statement, and nothing else. -/
theorem holdsCall_iff {statement : Statement} (guarded : Guarded statement.fragments)
    (netOf : String → String) (held : Contents) :
    HoldsCall (statement.code netOf) held ↔ held = contents netOf statement.fragments := by
  have whole := (callOf_code netOf statement).trans (call_feed netOf statement.fragments)
  have reads := guarded.reads netOf ");\n".toList
  constructor
  · rintro ⟨literal, own, another⟩
    rw [whole] at own
    rw [← List.append_cancel_left own] at another
    exact (another.unique reads).1
  · rintro rfl
    exact ⟨_, whole, reads⟩

end Calls

section Text

variable (netOf : String → String)

theorem infix_flatMap {α β : Type} {f : α → List β} {a : α} {all : List α} (member : a ∈ all) :
    f a <:+: all.flatMap f := by
  rw [List.flatMap_def]
  exact List.infix_of_mem_flatten (List.mem_map_of_mem member)

theorem infix_body {m : Module} {statement : Statement} (written : statement ∈ m.statements) :
    statement.code netOf <:+: m.body netOf := by
  unfold Module.body
  rcases List.mem_append.mp written with layer | inside
  · exact ((infix_flatMap layer).trans
      (List.suffix_append _ _).isInfix).trans (List.prefix_append _ _).isInfix
  · obtain ⟨part, own, member⟩ := List.mem_flatMap.mp inside
    have code : statement.code netOf <:+: part.code netOf :=
      ((infix_flatMap member).trans
        (List.suffix_append _ _).isInfix).trans (List.suffix_cons _ _).isInfix
    exact (code.trans (infix_flatMap own)).trans
      (List.suffix_append _ _).isInfix

/-- Line feeds that are dropped at the end of a text leave the lines before them as they are, with one
line feed after the last. -/
theorem infix_dropTrailing {line text : List Char} (ends : line.getLast? ≠ some '\n')
    (filled : line ≠ []) (within : line ++ ['\n'] <:+: text) :
    line ++ ['\n'] <:+: Module.dropTrailing '\n' text ++ ['\n'] := by
  obtain ⟨before, after, rfl⟩ := within
  have last : (before ++ line).getLast? ≠ some '\n' := by
    rwa [List.getLast?_append_of_ne_nil _ filled]
  have split : before ++ (line ++ ['\n']) ++ after = before ++ line ++ '\n' :: after := by simp
  rw [split, dropTrailing_append last]
  have rest : ∃ more, Module.dropTrailing '\n' ('\n' :: after) ++ ['\n'] = '\n' :: more := by
    rw [Module.dropTrailing, List.reverse_cons, List.dropWhile_append]
    split
    · exact ⟨[], rfl⟩
    · exact ⟨_, by rw [List.reverse_append]; rfl⟩
  obtain ⟨more, rest⟩ := rest
  rw [List.append_assoc, rest]
  exact ⟨before, more, by simp⟩

theorem getLast?_statementRow (statement : Statement) :
    (statementRow netOf statement).text.getLast? = some ';' := by
  have last : (Statement.call netOf statement.fragments).getLast? = some ';' := by
    rw [call_eq, List.getLast?_concat]
  rw [statementRow]
  cases statement.disabled with
  | true => exact (Script.getLast?_commentLines _).trans last
  | false => exact last

/-- The text of each statement stands in the script. -/
theorem infix_code {m : Module} {statement : Statement} (written : statement ∈ m.statements) :
    statement.code netOf <:+: (m.code netOf).toList := by
  have line := infix_body netOf written
  rw [code_statementRow] at line ⊢
  have last := getLast?_statementRow netOf statement
  have ends : (statementRow netOf statement).text.getLast? ≠ some '\n' := by
    rw [last]
    decide
  have filled : (statementRow netOf statement).text ≠ [] := by
    intro none
    rw [none] at last
    cases last
  have feed : "\n    fp.push(')');\n    return fp.join('\\n');\n".toList =
      ['\n'] ++ "    fp.push(')');\n    return fp.join('\\n');\n".toList := by simp
  rw [toList_code]
  refine (infix_dropTrailing ends filled line).trans ?_
  unfold Module.closing Module.function
  rw [feed]
  generalize "    fp.push(')');\n    return fp.join('\\n');\n".toList = result
  generalize "    const fp = [];\n    ".toList = first
  generalize "  \x7d,\n  body: p => \x7b\n".toList = body
  generalize "  \x7d\n\x7d\n".toList = braces
  exact ⟨m.opening ++ m.netBlock ++ body ++ first, result ++ braces, by
    simp only [List.append_assoc]⟩

end Text

section Expressions

/-- The expression reads this member of the parameters, and is read as nothing else. -/
def ReadsParam (text : List Char) (net : String) : Prop :=
  ∃ tokens, (∀ other, Lexes text other ↔ other = tokens) ∧ accessed? tokens = some ("p", net)

theorem ReadsParam.first {text : List Char} {net : String} (reads : ReadsParam text net) :
    ∃ escaped, (Script.readLexeme text).token = .name "p" escaped := by
  obtain ⟨tokens, only, member⟩ := reads
  cases (only tokens).mpr rfl with
  | finish => cases member
  | token =>
    -- Only a name and what follows it make an access.
    unfold accessed? at member
    split at member
    · rename_i shape
      obtain ⟨same, -⟩ := List.cons.inj shape
      cases Option.some.inj member
      exact ⟨_, same⟩
    · rename_i shape
      obtain ⟨same, -⟩ := List.cons.inj shape
      obtain ⟨own, -, rename⟩ := Option.map_eq_some_iff.mp member
      cases rename
      exact ⟨_, same⟩
    · cases member

theorem ReadsParam.unique {text : List Char} {net other : String} (reads : ReadsParam text net)
    (again : ReadsParam text other) : net = other := by
  obtain ⟨tokens, only, member⟩ := reads
  obtain ⟨others, onlyOthers, another⟩ := again
  cases (onlyOthers tokens).mp ((only tokens).mpr rfl)
  cases Option.some.inj (member.symm.trans another)
  rfl

theorem first_parenthesis (rest : List Char) :
    (Script.readLexeme ('(' :: rest)).token = .mark "(" := by
  have opens : Script.OpensToken ('(' :: rest) := Script.opensToken_of rfl rfl (by decide) rest
  have read : Script.readToken ('(' :: rest) = Script.readMark ('(' :: rest) :=
    Script.readToken_mark (Script.startsName_mark (by decide)) (by decide) rfl
      fun point => absurd point (by decide)
  refine (Script.readLexeme_blanks (nofun : ∀ c ∈ [], c = ' ' ∨ c = '\n') opens).1.trans ?_
  rw [read]
  rfl

theorem first_flip (rest : List Char) :
    (Script.readLexeme (" flip ".toList ++ rest)).token = .name "flip" false := by
  have identifier : Script.isIdentifier "flip".toList = true := by decide
  have read := Script.readToken_name identifier (Script.endsName_cons (c := ' ') (by decide) rest)
  have gap : ∀ c ∈ [' '], c = ' ' ∨ c = '\n' := by simp
  have split : " flip ".toList ++ rest = [' '] ++ ("flip".toList ++ ' ' :: rest) := by simp
  rw [split]
  refine (Script.readLexeme_blanks gap (Script.opensToken_name identifier (' ' :: rest))).1.trans ?_
  rw [read]
  rfl

theorem expression_eq {netOf : String → String} {fragment : Fragment} {text : List Char}
    (own : fragment.chars netOf = Fragment.substitution text) : expression netOf fragment = text := by
  rw [expression, own]
  exact List.dropLast_concat

variable (netOf : String → String)

theorem readsParam_net (pad : String) : ReadsParam (expression netOf (.net pad)) (netOf pad) := by
  obtain ⟨tokens, lexes, member⟩ :=
    Script.lexes_propertyAccess (by decide : Script.isIdentifier ['p'] = true) (netOf pad).toList
  rw [String.ofList_toList] at member
  rw [expression_eq rfl]
  exact ⟨tokens, lexes.only, member⟩

/-- No other place reads a member of the parameters by itself than that of the rotation. -/
theorem place_of_readsParam {fragment : Fragment} (place : Writer.literal? fragment = none)
    {net : String} (reads : ReadsParam (expression netOf fragment) net) :
    (∃ pad, fragment = .net pad) ∨ expression netOf fragment = "p.r".toList := by
  obtain ⟨escaped, first⟩ := reads.first
  cases fragment with
  | punct | source => cases place
  | net pad => exact .inl ⟨pad, rfl⟩
  | coordinate | faced =>
    rw [expression_eq rfl] at first
    cases first.symm.trans (first_parenthesis _)
  | mirrorFlag =>
    rw [expression_eq rfl] at first
    exact absurd (Token.name.inj (first.symm.trans (first_flip _))).1 (by decide)
  | rotation delta =>
    cases delta with
    | none => exact .inr (expression_eq rfl)
    | some text =>
      rw [expression_eq rfl] at first
      cases first.symm.trans (first_parenthesis _)

end Expressions

section Conversion

variable {config : Config} {footprint : Node} {conversion : Conversion}

/-- The nets of a conversion are those that a fresh namer gives the connected pads. The parameters
declare each once, in increasing order. The text of each statement stands in the script, in a comment
or not; its places are those that were written for it, and where one of them reads a member of the
parameters, this is a declared net, or the place is that of the rotation. Every declared net is read. -/
theorem convert_nets (converted : convert config footprint = .ok conversion) :
    conversion.netMap = (NetNamer.nameAll ⟨config, []⟩ (connectedPads footprint)).assigned ∧
      conversion.code.toList = conversion.written.opening ++ conversion.written.netBlock ++
        conversion.written.closing conversion.namer.netOf ∧
      (∃ keys : List Token, keys.map Token.member? = conversion.written.nets.map some ∧
        ∀ tokens, Lexes conversion.written.netBlock tokens ↔
          tokens = keys.flatMap fun key => key :: netMember) ∧
      conversion.written.nets.Pairwise (· < ·) ∧
      (∀ net, net ∈ conversion.written.nets ↔ ∃ pad, (pad, net) ∈ conversion.netMap) ∧
      (∀ statement ∈ conversion.written.statements,
        statement.code conversion.namer.netOf <:+: conversion.code.toList ∧
        ∃ held, (∀ other, HoldsCall (statement.code conversion.namer.netOf) other ↔ other = held) ∧
          held.more.map Prod.fst =
            (places statement.fragments).map (expression conversion.namer.netOf) ∧
          (∀ pad, Fragment.net pad ∈ statement.fragments →
            ReadsParam (expression conversion.namer.netOf (.net pad)) (conversion.namer.netOf pad) ∧
              conversion.namer.netOf pad ∈ conversion.written.nets) ∧
          ∀ text ∈ held.more.map Prod.fst, ∀ net, ReadsParam text net →
            net ∈ conversion.written.nets ∨ text = "p.r".toList) ∧
      ∀ net ∈ conversion.written.nets, ∃ statement ∈ conversion.written.statements, ∃ held pad,
        HoldsCall (statement.code conversion.namer.netOf) held ∧
          Fragment.net pad ∈ statement.fragments ∧
          expression conversion.namer.netOf (.net pad) ∈ held.more.map Prod.fst ∧
          ReadsParam (expression conversion.namer.netOf (.net pad)) net := by
  obtain ⟨-, layer, sections, ok, rfl⟩ := convert_eq_ok.mp converted
  obtain ⟨asked, nets⟩ := (gathers_asks footprint.kind).draftBody ok
  obtain ⟨guarded, -⟩ := (gathers_writes footprint.kind).draftBody ok
  have entered : (namerOf config footprint).assigned = (draftBody footprint).pads.eraseDups.map
      fun pad => (pad, (namerOf config footprint).netOf pad) :=
    NetNamer.assigned_eq _ (List.prefix_refl _)
  obtain ⟨keys, names, lexes⟩ := lexes_netBlock ⟨config.designator, sideOf footprint,
    (namerOf config footprint).paramNames, header footprint, layer, sections⟩
  refine ⟨?_, toList_code _ _, ⟨keys, names, lexes.only⟩, NetNamer.paramNames_increasing _,
    fun net => NetNamer.mem_paramNames, ?_, ?_⟩
  · rw [Conversion.netMap, namerOf, asked]
    rfl
  · intro statement written
    have declared {pad : String} (place : Fragment.net pad ∈ statement.fragments) :
        (namerOf config footprint).netOf pad ∈ (namerOf config footprint).paramNames := by
      have known : pad ∈ (draftBody footprint).pads :=
        nets.subset (mem_statementPads.mpr ⟨statement, written, place⟩)
      exact NetNamer.netOf_mem_paramNames (NetNamer.isSome_lookup_nameAll known)
    refine ⟨infix_code _ written, _, holdsCall_iff (guarded statement written) _,
      Writer.expressions_contents _ _, fun pad place => ⟨readsParam_net _ pad, declared place⟩, ?_⟩
    intro text member net reads
    rw [Writer.expressions_contents] at member
    obtain ⟨fragment, own, rfl⟩ := List.mem_map.mp member
    obtain ⟨inside, place⟩ := List.mem_filter.mp own
    rcases place_of_readsParam _ (by simpa using place) reads with ⟨pad, rfl⟩ | rotation
    · cases reads.unique (readsParam_net _ pad)
      exact .inl (declared inside)
    · exact .inr rotation
  · intro net declared
    obtain ⟨pad, member⟩ := NetNamer.mem_paramNames.mp declared
    rw [entered] at member
    obtain ⟨known, asks, same⟩ := List.mem_map.mp member
    cases same
    obtain ⟨statement, written, place⟩ :=
      mem_statementPads.mp (nets.symm.subset (List.mem_eraseDups.mp asks))
    refine ⟨statement, written, _, pad, (holdsCall_iff (guarded statement written) _ _).mpr rfl,
      place, ?_, readsParam_net _ pad⟩
    rw [Writer.expressions_contents]
    exact List.mem_map_of_mem (List.mem_filter.mpr ⟨place, rfl⟩)

/-- A pad, a pad in a property that is left in a comment, and a pad without an identifier. -/
def hiddenPad : Node :=
  ⟨"footprint", [.atom "a", .node "property" [.node "pad" [.atom "A-1"]],
    .node "pad" [.atom "1", .node "uuid" [.node "pad" [.atom "2"]]], .node "pad" [.atom "\"\""]]⟩

theorem convert_nets_hiddenPad :
    ∃ conversion, convert {} hiddenPad = .ok conversion ∧
      conversion.netMap = [("1", "P1"), ("A-1", "A-1")] ∧
      (∃ keys : List Token, keys.map Token.member? = conversion.written.nets.map some ∧
        ∀ tokens, Lexes conversion.written.netBlock tokens ↔
          tokens = keys.flatMap fun key => key :: netMember) ∧
      (∀ net, net ∈ conversion.written.nets ↔ net = "P1" ∨ net = "A-1") ∧
      ∃ statement ∈ conversion.written.statements, ∃ held pad,
        statement.code conversion.namer.netOf <:+: conversion.code.toList ∧
          HoldsCall (statement.code conversion.namer.netOf) held ∧
          expression conversion.namer.netOf (.net pad) ∈ held.more.map Prod.fst ∧
          ReadsParam (expression conversion.namer.netOf (.net pad)) "A-1" := by
  obtain ⟨conversion, converted⟩ : ∃ conversion, convert {} hiddenPad = .ok conversion :=
    ⟨_, convert_eq_ok.mpr ⟨.inl rfl, _, _, rfl, rfl⟩⟩
  obtain ⟨nets, -, block, -, declared, stand, read⟩ := convert_nets converted
  have pads : connectedPads hiddenPad = ["1", "A-1"] := rfl
  have named : (NetNamer.nameAll ⟨{}, []⟩ ["1", "A-1"]).assigned =
      [("1", "P1"), ("A-1", "A-1")] := by decide
  rw [pads, named] at nets
  have names (net : String) : net ∈ conversion.written.nets ↔ net = "P1" ∨ net = "A-1" := by
    rw [declared net, nets]
    simp [exists_or]
  obtain ⟨statement, written, held, pad, holds, -, place, reads⟩ := read _ ((names _).mpr (.inr rfl))
  exact ⟨conversion, converted, nets, block, names, statement, written, held, pad,
    (stand statement written).1, holds, place, reads⟩

end Conversion

end FootprintTemplate
