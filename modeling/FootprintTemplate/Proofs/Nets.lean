import FootprintTemplate.Proofs.NetNamer
import FootprintTemplate.Proofs.Preview.Placed
import FootprintTemplate.Proofs.Writer.Asked
import FootprintTemplate.Proofs.Script.Lexing

/-! Nets of a conversion. A module declares the nets of the connected pads that it writes. -/
namespace FootprintTemplate

open Preview (writtenChildren Gathers)
open Script (Lexes Token accessed?)
open Sexpr (Node)
open Template (Fragment)
open Writer (Draft Rule netPads padsOf)

section Pads

/-- The connected pads in the order of the module, each before those inside it. -/
def connectedPads (footprint : Node) : List String :=
  (writtenChildren footprint).flatMap fun child => padsOf (some footprint.kind) child.item

/-- The pads whose nets the statements read. -/
def statementPads (statements : List Statement) : List String :=
  netPads (statements.flatMap Statement.fragments)

theorem mem_statementPads {statements : List Statement} {pad : String} :
    pad ∈ statementPads statements ↔
      ∃ statement ∈ statements, Fragment.net pad ∈ statement.fragments := by
  rw [statementPads, Writer.mem_netPads, List.mem_flatMap]

theorem asks_draftStatement {root : String} {child : Node} {statement : Option Statement}
    (ok : (draftStatement root child).outcome = .ok statement) :
    (draftStatement root child).pads = padsOf (some root) child.item ∧
      (statementPads statement.toList).Perm (padsOf (some root) child.item) := by
  by_cases skip : (Rule.select (some root) child.kind).disposition = .skip
  · rw [draftStatement_skip skip] at ok ⊢
    cases ok
    rw [Node.item, padsOf, if_pos (beq_iff_eq.mpr skip)]
    exact ⟨rfl, .nil⟩
  · rw [draftStatement_write skip] at ok ⊢
    obtain ⟨fragments, okFragments, rfl⟩ := Draft.bind_pure_eq_ok.mp ok
    obtain ⟨pads, nets⟩ := Writer.asks_item (some root) child.item fragments okFragments
    rw [Draft.pads_bind_pure]
    refine ⟨pads, ?_⟩
    simpa [statementPads] using nets

theorem gathers_asks (root : String) :
    Gathers root fun pads statements children =>
      pads = children.flatMap (fun child => padsOf (some root) child.item) ∧
        (statementPads statements).Perm pads where
  nil := ⟨rfl, .nil⟩
  append start rest := by
    rw [List.flatMap_append, statementPads, List.flatMap_append, Writer.netPads_append]
    exact ⟨congrArg₂ _ start.1 rest.1, start.2.append rest.2⟩
  child ok := by
    obtain ⟨pads, nets⟩ := asks_draftStatement ok
    rw [List.flatMap_singleton, pads]
    exact ⟨rfl, nets⟩

end Pads

section Block

/-- The tokens of a net's declaration after its name. -/
def netMember : List Token :=
  [.mark ":", .mark "\x7b", .name "type" false, .mark ":", .text (Text.units "net") true false,
    .mark ",", .name "value" false, .mark ":", .name "undefined" false, .mark "\x7d", .mark ","]

/-- The nets in the block of the parameters. -/
def Module.netBlock (m : Module) : List Char :=
  m.nets.flatMap fun net => declaration net "undefined".toList

/-- The script up to the nets. -/
def Module.opening (m : Module) : List Char :=
  "module.exports = \x7b\n  params: \x7b\n    designator: ".toList ++
    Script.singleQuoted m.designator.toList ++
    ",\n    side: '".toList ++ m.side.letter.toList ++ "',\n".toList

/-- The text between the braces of the module's function. -/
def Module.function (m : Module) (netOf : String → String) : List Char :=
  "    const fp = [];\n    ".toList ++ dropTrailing '\n' (m.body netOf) ++
    "\n    fp.push(')');\n    return fp.join('\\n');\n".toList

/-- The script from the end of the parameters on. -/
def Module.closing (m : Module) (netOf : String → String) : List Char :=
  "  \x7d,\n  body: p => \x7b\n".toList ++ m.function netOf ++ "  \x7d\n\x7d\n".toList

theorem toList_codeWith (m : Module) (netOf : String → String) (default : String → List Char) :
    (m.codeWith netOf default).toList = m.opening ++
      m.nets.flatMap (fun net => Module.declaration net (default net)) ++ m.closing netOf := by
  have opens : "  \x7d,\n  body: p => \x7b\n    const fp = [];\n    ".toList =
      "  \x7d,\n  body: p => \x7b\n".toList ++ "    const fp = [];\n    ".toList := by
    decide
  have closes : "\n    fp.push(')');\n    return fp.join('\\n');\n  \x7d\n\x7d\n".toList =
      "\n    fp.push(')');\n    return fp.join('\\n');\n".toList ++ "  \x7d\n\x7d\n".toList := by
    decide
  unfold Module.codeWith Module.opening Module.closing Module.function
  rw [String.toList_ofList]
  -- The fixed texts are long; they are taken as they are.
  generalize "  \x7d,\n  body: p => \x7b\n    const fp = [];\n    ".toList = between at opens ⊢
  generalize "\n    fp.push(')');\n    return fp.join('\\n');\n  \x7d\n\x7d\n".toList = last at closes ⊢
  generalize "module.exports = \x7b\n  params: \x7b\n    designator: ".toList = start
  generalize "  \x7d,\n  body: p => \x7b\n".toList = body at opens ⊢
  generalize "    const fp = [];\n    ".toList = first at opens ⊢
  generalize "\n    fp.push(')');\n    return fp.join('\\n');\n".toList = result at closes ⊢
  generalize "  \x7d\n\x7d\n".toList = braces at closes ⊢
  rw [opens, closes]
  simp only [List.append_assoc]

theorem toList_code (m : Module) (netOf : String → String) :
    (m.code netOf).toList = m.opening ++ m.netBlock ++ m.closing netOf :=
  toList_codeWith m netOf fun _ => "undefined".toList

/-- The text of `netMember`. -/
def memberChars : List Char :=
  ": \x7b type: 'net', value: ".toList ++ ("undefined".toList ++ " \x7d,\n".toList)

theorem declaration_eq (net : String) :
    Module.declaration net "undefined".toList =
      "    ".toList ++ (Script.propertyKey net.toList ++ memberChars) := by
  unfold Module.declaration memberChars
  generalize "    ".toList = indent
  generalize ": \x7b type: 'net', value: ".toList = opening
  generalize "undefined".toList = value
  generalize " \x7d,\n".toList = closing
  simp only [List.append_assoc]

theorem readToken_net (rest : List Char) :
    Script.readToken ("'net'".toList ++ rest) = (.text (Text.units "net") true false, rest) := by
  have noName : Script.startsName '\x27' = false := (Script.outside_names (by decide)).1
  change Script.readToken ('\x27' :: ("net'".toList ++ rest)) = _
  rw [Script.readToken, noName]
  rfl

theorem lexes_netMember {tail : List Char} {tokens : List Token}
    (more : Lexes ('\n' :: tail) tokens) : Lexes (memberChars ++ tail) (netMember ++ tokens) := by
  have beforeColon (rest : List Char) : Script.EndsName (':' :: rest) :=
    Script.endsName_cons (by decide) rest
  have beforeSpace (rest : List Char) : Script.EndsName (' ' :: rest) :=
    Script.endsName_cons (by decide) rest
  have closing := ((more.bracket "," (by decide)).bracket "\x7d" (by decide)).space
  have value := ((closing.word "undefined" rfl (beforeSpace _)).space.bracket ":" (by decide)).word
    "value" rfl (beforeColon _)
  have text : Lexes ("'net'".toList ++ _) (.text (Text.units "net") true false :: _) :=
    (value.space.bracket "," (by decide)).next (readToken_net _) (by simp)
      (Script.opensToken_of rfl rfl (by decide) _)
  exact ((((text.space.bracket ":" (by decide)).word "type" rfl
    (beforeColon _)).space.bracket "\x7b" (by decide)).space.bracket ":" (by decide))

theorem lexes_declarations (nets : List String) {blanks : List Char}
    (gap : ∀ c ∈ blanks, c = ' ' ∨ c = '\n') :
    ∃ keys : List Token, keys.map Token.member? = nets.map some ∧
      Lexes (blanks ++ nets.flatMap fun net => Module.declaration net "undefined".toList)
        (keys.flatMap fun key => key :: netMember) := by
  induction nets generalizing blanks with
  | nil =>
    rw [List.flatMap_nil, List.append_nil]
    exact ⟨[], rfl, .blanks gap⟩
  | cons net rest ih =>
    obtain ⟨keys, names, more⟩ := ih (by simp : ∀ c ∈ ['\n'], c = ' ' ∨ c = '\n')
    obtain ⟨key, own, proper, read⟩ := Script.readToken_propertyKey net.toList
    rw [String.ofList_toList] at own
    refine ⟨key :: keys, by rw [List.map_cons, own, names, List.map_cons], ?_⟩
    rw [List.flatMap_cons, List.flatMap_cons, declaration_eq, List.append_assoc, List.append_assoc,
      ← List.append_assoc blanks]
    obtain ⟨first, opens⟩ := read (memberChars ++ _)
      (Script.endsName_cons (by decide) _)
    refine (lexes_netMember more).cons first proper opens fun c member => ?_
    rcases List.mem_append.mp member with before | indent
    · exact gap c before
    · exact .inl (List.eq_of_mem_replicate (n := 4) indent)

theorem lexes_netBlock (m : Module) :
    ∃ keys : List Token, keys.map Token.member? = m.nets.map some ∧
      Lexes m.netBlock (keys.flatMap fun key => key :: netMember) :=
  lexes_declarations m.nets (nofun : ∀ c ∈ [], c = ' ' ∨ c = '\n')

end Block

section Conversion

variable {config : Config} {footprint : Node} {conversion : Conversion}

/-- The place of a pad's net is read as this net of the module's parameters, and as nothing else. -/
def ReadsNet (conversion : Conversion) (pad net : String) : Prop :=
  ∃ expression tokens,
    (Fragment.net pad).chars conversion.namer.netOf = Fragment.substitution expression ∧
      (∀ other, Lexes expression other ↔ other = tokens) ∧ accessed? tokens = some ("p", net)

theorem readsNet_netOf (conversion : Conversion) (pad : String) :
    ReadsNet conversion pad (conversion.namer.netOf pad) := by
  obtain ⟨tokens, lexes, member⟩ :=
    Script.lexes_propertyAccess (by decide : Script.isIdentifier ['p'] = true)
      (conversion.namer.netOf pad).toList
  rw [String.ofList_toList] at member
  exact ⟨_, tokens, rfl, lexes.only, member⟩

end Conversion

end FootprintTemplate
