import FootprintTemplate.Proofs.Preview.Numbering
import FootprintTemplate.Proofs.Preview.OwnNames
import FootprintTemplate.Proofs.Preview.Record
import FootprintTemplate.Proofs.Preview.Remarks

/-! Declared parameters. What a script declares for the nets of a conversion, and besides them, is read
back from its text; the parameters that come of it are those that the conversion reports. -/
namespace FootprintTemplate.Preview

section Values

/-- What stands for the default of a net: a text, or null, or nothing where its value is left as it
was written. -/
def netValue (defaults : List (String × String)) (left : String → Bool) (net : String) :
    Option Value :=
  match defaults.lookup net with
  | some text => some (.text text)
  | none => if left net then none else some .null

def netValueChars (defaults : List (String × String)) (left : String → Bool) (net : String) :
    List Char :=
  match defaults.lookup net with
  | some text => Script.stringLiteral text.toList
  | none => if left net then "undefined".toList else "null".toList

theorem readsScalar_word {word : String} {value : Option Value}
    (identifier : Script.isIdentifier word.toList = true)
    (own : scalar? (.name word false) = some value) (rest : List Char) :
    ReadsScalar (word.toList ++ ' ' :: rest) value (' ' :: rest) :=
  ⟨_, nextToken_word word identifier (Script.endsName_cons (by decide) rest), own⟩

theorem readsScalar_netValue (defaults : List (String × String)) (left : String → Bool)
    (net : String) (rest : List Char) :
    ReadsScalar (netValueChars defaults left net ++ ' ' :: rest) (netValue defaults left net)
      (' ' :: rest) := by
  unfold netValueChars netValue
  split
  · rename_i text known
    obtain ⟨exact, read⟩ := Script.readToken_stringLiteral text.toList
    refine ⟨_, nextToken_of_read (read _)
      (Script.opensToken_of rfl rfl (by decide) _), ?_⟩
    have whole := Text.ofUnits?_units text
    rw [Text.units] at whole
    rw [scalar?, whole]
    rfl
  · split
    · exact readsScalar_word rfl rfl rest
    · exact readsScalar_word rfl rfl rest

end Values

section Members

/-- The members of a net's literal. -/
def netMembers (value : Option Value) : List (String × Option Value) :=
  [("type", some (.text "net")), ("value", value)]

variable {default : List Char} {value : Option Value}

theorem readsMembers_net (reads : ∀ rest, ReadsScalar (default ++ ' ' :: rest) value (' ' :: rest))
    (rest : List Char) :
    ReadsMembers ReadsScalar (" type: 'net', value: ".toList ++ (default ++ (" \x7d".toList ++ rest)))
      (netMembers value) rest := by
  have beforeColon (rest : List Char) : Script.EndsName (':' :: rest) :=
    Script.endsName_cons (by decide) rest
  have text (rest : List Char) : ReadsScalar ("'net'".toList ++ rest) (some (.text "net")) rest :=
    ⟨_, nextToken_of_read (readToken_net rest) (Script.opensToken_of rfl rfl (by decide) _),
      rfl⟩
  have last : ReadsMember ReadsScalar (' ' :: ("value".toList ++ (":".toList ++ ' ' :: (default ++
      ' ' :: ("\x7d".toList ++ rest))))) ("value", value) (' ' :: ("\x7d".toList ++ rest)) :=
    ⟨_, _, _, (nextToken_word "value" rfl (beforeColon _)).space, rfl,
      nextToken_bracket ":" (by decide) _, (reads _).space⟩
  have first (rest : List Char) : ReadsMember ReadsScalar (' ' :: ("type".toList ++ (":".toList ++
      ' ' :: ("'net'".toList ++ rest)))) ("type", some (.text "net")) rest :=
    ⟨_, _, _, (nextToken_word "type" rfl (beforeColon _)).space, rfl,
      nextToken_bracket ":" (by decide) _, (text rest).space⟩
  exact .member (first _) (nextToken_bracket "," (by decide) _)
    (.last last (nextToken_bracket "\x7d" (by decide) rest).space)

/-- A name in a line of its own, and the value that is declared for it. -/
theorem readsMember_declaration
    (reads : ∀ rest, ReadsScalar (default ++ ' ' :: rest) value (' ' :: rest)) (net : String)
    {blanks : List Char} (gap : ∀ c ∈ blanks, c = ' ' ∨ c = '\n') (rest : List Char) :
    ReadsMember ReadsValue (blanks ++ (Module.declaration net default ++ rest))
      (net, some (.record (recordOf (netMembers value)))) (",".toList ++ '\n' :: rest) := by
  obtain ⟨key, own, -, read⟩ := Script.readToken_propertyKey net.toList
  rw [String.ofList_toList] at own
  obtain ⟨first, opens⟩ := read (": \x7b type: 'net', value: ".toList ++ (default ++
    (" \x7d,".toList ++ '\n' :: rest))) (Script.endsName_cons (by decide) _)
  rw [declaration_append, ← List.append_assoc blanks]
  refine ⟨key, _, _, nextToken_after (fun c member => ?_) first opens, own,
    nextToken_bracket ":" (by decide) _, .record (nextToken_bracket "\x7b" (by decide) _).space
      (readsMembers_net reads _)⟩
  rcases List.mem_append.mp member with before | indent
  · exact gap c before
  · exact .inl (List.eq_of_mem_replicate (n := 4) indent)

/-- The nets of a block and the brace that closes it. -/
theorem readsMembers_declarations {chars : String → List Char} {values : String → Option Value}
    (reads : ∀ net rest, ReadsScalar (chars net ++ ' ' :: rest) (values net) (' ' :: rest))
    (nets : List String) {blanks : List Char} (gap : ∀ c ∈ blanks, c = ' ' ∨ c = '\n')
    (rest : List Char) :
    ReadsMembers ReadsValue
      (blanks ++ (nets.flatMap (fun net => Module.declaration net (chars net)) ++
        ("  \x7d".toList ++ rest)))
      (nets.map fun net => (net, some (.record (recordOf (netMembers (values net)))))) rest := by
  induction nets generalizing blanks with
  | nil =>
    refine .close ?_
    have indented : blanks ++ ("  \x7d".toList ++ rest) =
        (blanks ++ [' ', ' ']) ++ ("\x7d".toList ++ rest) := by
      rw [List.append_assoc]
      rfl
    rw [List.flatMap_nil, List.nil_append, indented]
    refine nextToken_after (fun c member => ?_) (Script.readToken_bracket (by decide) rest)
      (Script.opensToken_bracket (by decide) rest)
    rcases List.mem_append.mp member with before | indent
    · exact gap c before
    · exact .inl (List.eq_of_mem_replicate (n := 2) indent)
  | cons net others ih =>
    rw [List.flatMap_cons, List.map_cons, List.append_assoc]
    exact .member (readsMember_declaration (reads net) net gap _) (nextToken_bracket "," (by decide) _)
      (ih (by simp : ∀ c ∈ ['\n'], c = ' ' ∨ c = '\n'))

/-- The members of a module's parameters. -/
def paramMembers (m : Module) (values : String → Option Value) : List (String × Option Value) :=
  ("designator", some (.text m.designator)) :: ("side", some (.text m.side.letter)) ::
    m.nets.map fun net => (net, some (.record (recordOf (netMembers (values net)))))

/-- The script starts with a literal of the parameters, and these are the members of it. -/
def DeclaresParams (code : String) (members : List (String × Option Value)) : Prop :=
  ∃ inside rest, code.toList = "module.exports = \x7b\n  params: \x7b".toList ++ inside ∧
    ReadsMembers ReadsValue inside members rest

theorem DeclaresParams.unique {code : String} {members others : List (String × Option Value)}
    (one : DeclaresParams code members) (another : DeclaresParams code others) :
    members = others := by
  obtain ⟨inside, rest, shape, read⟩ := one
  obtain ⟨insideToo, left, shapeToo, readToo⟩ := another
  obtain rfl := List.append_cancel_left (shape.symm.trans shapeToo)
  exact (isFunctional_value.members _ _ _ _ _ read readToo).1

theorem declaresParams {m : Module} (unbroken : Script.isUnbroken m.designator.toList = true)
    (netOf : String → String) {chars : String → List Char} {values : String → Option Value}
    (reads : ∀ net rest, ReadsScalar (chars net ++ ' ' :: rest) (values net) (' ' :: rest)) :
    DeclaresParams (m.codeWith netOf chars) (paramMembers m values) := by
  obtain ⟨rest, closes⟩ : ∃ rest, m.closing netOf = "  \x7d".toList ++ rest := by
    have pieces {front brace body : List Char} (split : front = brace ++ body)
        (function last : List Char) :
        front ++ function ++ last = brace ++ (body ++ (function ++ last)) := by
      rw [split]
      simp only [List.append_assoc]
    exact ⟨_, pieces (by decide : "  \x7d,\n  body: p => \x7b\n".toList = "  \x7d".toList ++
      ",\n  body: p => \x7b\n".toList) _ _⟩
  have nets := readsMembers_declarations reads m.nets
    (by simp : ∀ c ∈ ['\n'], c = ' ' ∨ c = '\n') rest
  have indent : ∀ c ∈ ['\n', ' ', ' ', ' ', ' '], c = ' ' ∨ c = '\n' := by simp
  have letter (side : Side) : Script.isUnbroken side.letter.toList = true := by
    cases side <;> decide
  have side := readsMember_singleQuoted indent "side" rfl (letter m.side)
  have designator := readsMember_singleQuoted indent "designator" rfl unbroken
  have whole := ReadsMembers.member (designator _) (nextToken_bracket "," (by decide) _)
    (.member (side _) (nextToken_bracket "," (by decide) _) nets)
  refine ⟨_, rest, ?_, whole⟩
  have front : beforeDesignator = "module.exports = \x7b\n  params: \x7b".toList ++
      (['\n', ' ', ' ', ' ', ' '] ++ ("designator".toList ++ [':', ' '])) := by
    decide
  have between (side : Side) : sideMember side = ",".toList ++ (['\n', ' ', ' ', ' ', ' '] ++
      ("side".toList ++ ':' :: ' ' :: (Script.singleQuoted side.letter.toList ++ ",".toList))) := by
    cases side <;> decide
  have pieces (exports indent name own comma other letter rest : List Char) :
      exports ++ (indent ++ (name ++ [':', ' '])) ++ (own ++ (comma ++ (indent ++ (other ++
        ':' :: ' ' :: (letter ++ comma))) ++ '\n' :: rest)) =
      exports ++ (indent ++ (name ++ ':' :: ' ' :: (own ++ (comma ++ (indent ++ (other ++
        ':' :: ' ' :: (letter ++ (comma ++ (['\n'] ++ rest))))))))) := by
    simp only [List.append_assoc, List.cons_append, List.nil_append]
  rw [toList_codeWith, List.append_assoc, opening_append, closes, front, between]
  exact pieces _ _ _ _ _ _ _ _

end Members

section Reading

variable {m : Module} {defaults : List (String × String)} {left : String → Bool}

theorem recordOf_nets {nets : List String} (once : nets.Nodup) (ordinary : prototypeName ∉ nets)
    (value : String → Value) :
    recordOf (nets.map fun net => (net, some (value net))) = nets.map fun net => (net, value net) := by
  induction nets with
  | nil => rfl
  | cons net rest ih =>
    obtain ⟨apart, others⟩ := List.nodup_cons.mp once
    obtain ⟨other, ordinary⟩ := not_or.mp (mt List.mem_cons.mpr ordinary)
    have own : (net == prototypeName) = false := beq_false_of_ne (Ne.symm other)
    have last : net ∉ (rest.map fun net => (net, some (value net))).map Prod.fst := by
      simpa [Function.comp_def] using apart
    rw [List.map_cons, recordOf, ih others ordinary, own, Bool.false_or, if_neg (by simpa using last)]
    rfl

/-- What is read of a member: its name and what is declared by it. -/
def reading (member : String × Value) : String × Except Fault Param :=
  (member.1, Param.read member.2)

def admitted (read : String × Except Fault Param) : Except ParamError (String × Param) :=
  (read.2.mapError (.invalid read.1)).map (read.1, ·)

theorem readMember_eq_admitted (member : String × Value) :
    readMember member = admitted (reading member) := by
  unfold readMember admitted reading
  cases Param.read member.2 <;> rfl

theorem readParams_congr {members others : List (String × Value)}
    (same : members.map reading = others.map reading) :
    readParams (.record members) = readParams (.record others) := by
  have sorted (members : List (String × Value)) : (byName members).map reading =
      (members.map reading).mergeSort fun first second => first.1 ≤ second.1 :=
    List.map_mergeSort fun _ _ _ _ => rfl
  have reads (members : List (String × Value)) :
      members.mapM readMember = (members.map reading).mapM admitted := by
    rw [List.mapM_map, funext readMember_eq_admitted]
    rfl
  change (byName members).mapM readMember = (byName others).mapM readMember
  rw [reads, reads, sorted, sorted, same]

theorem recordOf_paramMembers (once : m.nets.Nodup) (ordinary : prototypeName ∉ m.nets)
    (values : String → Option Value) :
    recordOf (paramMembers m values) =
      ([("designator", .text m.designator), ("side", .text m.side.letter)] :
        List (String × Value)).filter (fun param => !m.nets.contains param.1) ++
      m.nets.map fun net => (net, Value.record (recordOf (netMembers (values net)))) := by
  have names : (m.nets.map fun net => (net, some (Value.record (recordOf (netMembers
      (values net)))))).map Prod.fst = m.nets := by
    simp [Function.comp_def]
  have side : ("side" == prototypeName) = false := by decide
  have designator : ("designator" == prototypeName) = false := by decide
  have apart : ("designator" == "side") = false := by decide
  rw [paramMembers, recordOf, recordOf, List.map_cons, names, recordOf_nets once ordinary, side,
    designator, List.contains_cons, apart, Bool.false_or, Bool.false_or, Bool.false_or,
    List.filter_cons, List.filter_cons]
  cases m.nets.contains "designator" <;> cases m.nets.contains "side" <;> rfl

theorem read_netMembers (net : String) :
    Param.read (.record (recordOf (netMembers (netValue defaults left net)))) =
      Param.read (netDeclaration (defaults.lookup net)) := by
  unfold netValue
  cases defaults.lookup net with
  | some text => rfl
  | none => cases left net <;> rfl

theorem readParams_paramMembers (once : m.nets.Nodup) (ordinary : prototypeName ∉ m.nets) :
    readParams (.record (recordOf (paramMembers m (netValue defaults left)))) =
      readParams (.record (declaredParams m defaults)) := by
  have nets : m.nets.filter (· != prototypeName) = m.nets := by
    refine List.filter_eq_self.mpr fun net member => bne_iff_ne.mpr ?_
    rintro rfl
    exact ordinary member
  refine readParams_congr ?_
  rw [recordOf_paramMembers once ordinary, declaredParams, nets, List.map_append, List.map_append,
    List.map_map, List.map_map]
  refine congrArg _ (List.map_congr_left fun net _ => ?_)
  exact congrArg (net, ·) (read_netMembers net)

end Reading

section Reported

variable {config : Config} {footprint : Sexpr.Node} {conversion : Conversion}
  {defaults : List (String × String)} {params : List (String × Param)}

/-- The parameters stand in the order of their names. Those for nets are the nets of the conversion,
each required unless it has a default; the others are the designator and the side, where no net has
that name. -/
structure AreReported (conversion : Conversion) (designator : String)
    (defaults : List (String × String)) (params : List (String × Param)) : Prop where
  increasing : (params.map Prod.fst).Pairwise (· < ·)
  sorted : (netParams params).Pairwise (· < ·)
  nets : ∀ net, net ∈ netParams params ↔ ∃ pad, (pad, net) ∈ conversion.netMap
  net : ∀ net param, (net, param) ∈ params → param.kind = .net →
    param = ⟨.net, (defaults.lookup net).isNone, defaults.lookup net⟩
  others : ∀ name param, (name, param) ∈ params ∧ param.kind = .string ↔
    (¬∃ pad, (pad, name) ∈ conversion.netMap) ∧ ∃ text,
      (name, text) ∈ [("designator", designator), ("side", conversion.written.side.letter)] ∧
        param = ⟨.string, false, some text⟩

theorem param_of_net {m : Module} {net : String} {value : Value} {param : Param}
    (declared : (net, value) ∈ declaredParams m defaults) (read : Param.read value = .ok param)
    (isNet : param.kind = .net) :
    param = ⟨.net, (defaults.lookup net).isNone, defaults.lookup net⟩ := by
  obtain ⟨-, text, -, rfl⟩ | ⟨-, -, rfl⟩ := declared_cases declared
  · cases read
    cases isNet
  · exact (Except.ok.inj ((read_netDeclaration _).symm.trans read)).symm

theorem mem_string_iff {m : Module} (ordinary : prototypeName ∉ m.nets)
    (mem : ∀ name param, (name, param) ∈ params ↔
      ∃ value, (name, value) ∈ declaredParams m defaults ∧ Param.read value = .ok param)
    (name : String) (param : Param) : (name, param) ∈ params ∧ param.kind = .string ↔
      name ∉ m.nets ∧ ∃ text,
        (name, text) ∈ [("designator", m.designator), ("side", m.side.letter)] ∧
          param = ⟨.string, false, some text⟩ := by
  constructor
  · rintro ⟨inside, isString⟩
    obtain ⟨value, declared, read⟩ := (mem name param).mp inside
    obtain ⟨apart, text, own, rfl⟩ | ⟨-, -, rfl⟩ := declared_cases declared
    · cases read
      refine ⟨fun net => apart (List.mem_filter.mpr ⟨net, bne_iff_ne.mpr ?_⟩), text, own, rfl⟩
      rintro rfl
      exact ordinary net
    · cases (read_netDeclaration _).symm.trans read
      cases isString
  · rintro ⟨free, text, own, rfl⟩
    exact ⟨((hasDefault_iff mem own).mpr free _).mpr rfl, rfl⟩

/-- Whether the values of its nets are left or filled in, the text of a module starts with a literal of
just the members that it is to declare. They always make parameters, and these are the ones that the
conversion reports. A module none of whose headings leaves its comment loads with them if it is a
script. -/
theorem convert_declared (converted : convert config footprint = .ok conversion)
    (ordinary : ∀ pad, (pad, prototypeName) ∉ conversion.netMap)
    (unbroken : Script.isUnbroken config.designator.toList = true)
    (defaults : List (String × String)) (left : String → Bool) :
    ∃ params,
      (∀ members, DeclaresParams (conversion.written.codeWith conversion.namer.netOf
        (netValueChars defaults left)) members ↔
          members = paramMembers conversion.written (netValue defaults left)) ∧
      readParams (.record (recordOf (paramMembers conversion.written (netValue defaults left)))) =
        .ok params ∧
      AreReported conversion config.designator defaults params ∧
      (conversion.written.isEnclosed = true → conversion.written.isScript = true →
        load conversion defaults = .ok { conversion, params }) := by
  have increasing := increasing_nets converted
  obtain ⟨-, layer, sections, -, rfl⟩ := convert_eq_ok.mp converted
  generalize written : (⟨config.designator, sideOf footprint, (namerOf config footprint).paramNames,
    header footprint, layer, sections⟩ : Module) = m at increasing ⊢
  have nets (net : String) :
      net ∈ m.nets ↔ ∃ pad, (pad, net) ∈ (namerOf config footprint).assigned := by
    rw [← written]
    exact NetNamer.mem_paramNames
  have ordinary : prototypeName ∉ m.nets := by
    rw [nets]
    rintro ⟨pad, entered⟩
    exact ordinary pad entered
  have designator : m.designator = config.designator := by rw [← written]
  rw [← designator] at unbroken
  obtain ⟨params, reads, mem⟩ := readParams_members m defaults
  have declares := declaresParams unbroken (namerOf config footprint).netOf
    (readsScalar_netValue defaults left)
  have netNames := netParams_of_ordinary increasing reads ordinary
  refine ⟨params, fun members => ⟨fun another => another.unique declares, ?_⟩,
    (readParams_paramMembers increasing.nodup ordinary).trans reads,
    ⟨increasing_params increasing.nodup reads, ?_, fun net => ?_, ?_, fun name param => ?_⟩, ?_⟩
  · rintro rfl
    exact declares
  · rwa [netNames]
  · rw [netNames]
    exact nets net
  · intro net param inside isNet
    obtain ⟨value, declared, read⟩ := (mem net param).mp inside
    exact param_of_net declared read isNet
  · rw [mem_string_iff ordinary mem, nets, designator]
    rfl
  · intro enclosed script
    exact (load_eq_ok_iff enclosed).mpr ⟨script, params, reads, rfl⟩

theorem convert_declared_tab :
    convert {} tabFootprint = .ok tabConversion ∧
      (∀ pad, (pad, prototypeName) ∉ tabConversion.netMap) ∧
      Script.isUnbroken ({} : Config).designator.toList = true ∧
      DeclaresParams tabConversion.code [("designator", some (.text "XX")),
        ("side", some (.text "F")), ("tab", some (.record [("type", .text "net")]))] ∧
      ∃ params, load tabConversion [] = .ok { conversion := tabConversion, params } ∧
        ∀ net, net ∈ netParams params ↔ net = "tab" := by
  obtain ⟨footprint, read, converted⟩ := convertText_eq_ok.mp convert_tab
  cases Except.ok.inj (parse_tab.symm.trans read)
  have entered : tabConversion.netMap = [("tab", "tab")] := rfl
  have ordinary : ∀ pad, (pad, prototypeName) ∉ tabConversion.netMap := by
    simp [entered, prototypeName]
  obtain ⟨params, declares, -, reported, loads⟩ :=
    convert_declared converted ordinary (by decide) [] fun _ => true
  refine ⟨converted, ordinary, by decide, (declares _).mpr rfl, params, loads rfl rfl, fun net => ?_⟩
  rw [reported.nets, entered]
  simp

end Reported

end FootprintTemplate.Preview
