/-! Settings of a conversion. -/
namespace FootprintTemplate

/-- Net names given for pads, each pad once, in the order in which the pads were first named. -/
abbrev Overrides := List (String × String)

/-- Names the net of a pad. A pad that has a name keeps its place. -/
def Overrides.insert (pad net : String) : Overrides → Overrides
  | [] => [(pad, net)]
  | (other, old) :: rest =>
    if other == pad then (pad, net) :: rest else (other, old) :: Overrides.insert pad net rest

/-- A lookup meets the name given last, and other pads keep theirs. -/
theorem Overrides.lookup_insert (overrides : Overrides) (pad net other : String) :
    (overrides.insert pad net).lookup other =
      if other = pad then some net else overrides.lookup other := by
  fun_induction Overrides.insert pad net overrides with
  | case1 => simp only [List.lookup_cons, List.lookup_nil]; split <;> simp_all
  | case2 key old rest hk =>
    obtain rfl := eq_of_beq hk
    by_cases h : other = key
    · simp [h]
    · simp [List.lookup_cons, beq_false_of_ne h, h]
  | case3 key old rest hk ih =>
    by_cases h : other = key
    · subst h
      simp_all
    · simp [List.lookup_cons, beq_false_of_ne h, ih]

def Overrides.ofPairs (pairs : List (String × String)) : Overrides :=
  pairs.foldl (fun overrides pair => overrides.insert pair.1 pair.2) []

structure Config where
  /-- Put before a pad's identifier to name its net. -/
  padPrefix : String := "P"
  /-- Only identifiers that start with a digit get the prefix. -/
  prefixNumberPadsOnly : Bool := true
  /-- Net names that go before every naming rule. -/
  netNameOverrides : Overrides := []
  /-- The default designator of the written module. -/
  designator : String := "XX"
deriving DecidableEq, Repr

end FootprintTemplate
