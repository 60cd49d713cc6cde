import FootprintTemplate.Template.Fragment

/-! Writing that asks for nets and may stop at a misshapen node. The pads asked for before the
stop stay asked for. -/
namespace FootprintTemplate.Writer

/-- What the items of a node had to be. -/
inductive Expectation where
  | padIdentifier
  | layerName
  | onlyLayerNames
  | twoNumbers
  | placement
deriving DecidableEq, Repr

def Expectation.text : Expectation → String
  | padIdentifier => "a pad identifier as the first item"
  | layerName => "a layer name as the first item"
  | onlyLayerNames => "only layer names"
  | twoNumbers => "exactly two numbers (x y)"
  | placement => "x y and an optional rotation"

/-- A node whose items cannot be written. -/
structure Misshapen where
  kind : String
  expected : Expectation
deriving DecidableEq, Repr

def Misshapen.message (error : Misshapen) : String :=
  "malformed (" ++ error.kind ++ " ...) node: expected " ++ error.expected.text

/-- A result, and the pads whose nets were asked for on the way, in order. -/
structure Draft (α : Type) where
  pads : List String
  outcome : Except Misshapen α

namespace Draft

def pure {α : Type} (value : α) : Draft α :=
  ⟨[], .ok value⟩

def bind {α β : Type} (draft : Draft α) (next : α → Draft β) : Draft β :=
  match draft.outcome with
  | .error error => ⟨draft.pads, .error error⟩
  | .ok value =>
    let rest := next value
    ⟨draft.pads ++ rest.pads, rest.outcome⟩

@[simp]
theorem pure_bind {α β : Type} (value : α) (next : α → Draft β) :
    (pure value).bind next = next value := by
  simp [pure, bind]

@[simp]
theorem bind_pure {α : Type} (draft : Draft α) : draft.bind pure = draft := by
  obtain ⟨pads, outcome⟩ := draft
  cases outcome <;> simp [pure, bind]

theorem bind_assoc {α β γ : Type} (draft : Draft α) (next : α → Draft β) (last : β → Draft γ) :
    (draft.bind next).bind last = draft.bind fun value => (next value).bind last := by
  obtain ⟨pads, outcome⟩ := draft
  cases outcome with
  | error => rfl
  | ok value =>
    simp only [bind]
    cases (next value).outcome <;> simp

def fail {α : Type} (kind : String) (expected : Expectation) : Draft α :=
  ⟨[], .error ⟨kind, expected⟩⟩

def ask (pad : String) : Draft Unit :=
  ⟨[pad], .ok ()⟩

/-- Drafts one after the other. -/
def all {α : Type} : List (Draft α) → Draft (List α)
  | [] => Draft.pure []
  | draft :: rest => draft.bind fun value => (all rest).bind fun values => .pure (value :: values)

end Draft

abbrev Text := Draft (List Template.Fragment)

namespace Draft

def fragments (pieces : List Template.Fragment) : Text :=
  pure pieces

def append (first second : Text) : Text :=
  first.bind fun pieces => second.bind fun more => pure (pieces ++ more)

instance : Append Text :=
  ⟨append⟩

def punct (text : String) : Text :=
  fragments [.punct text]

def source (text : String) : Text :=
  fragments [.source text]

def concat : List Text → Text
  | [] => fragments []
  | text :: rest => text ++ concat rest

end Draft

end FootprintTemplate.Writer
