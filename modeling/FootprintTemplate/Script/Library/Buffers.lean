import FootprintTemplate.Script.Library.Native

/-! Lists of numbers of a fixed size, and the buffers behind them. Here they are lists of any
numbers, and buffers hold nothing that can be read. -/
namespace FootprintTemplate.Script.Library.Buffers

open Run

def zeros (length : Nat) : Run Value :=
  makeList (List.replicate length (.ofNat 0))

def makeNumbers (call : Call) : Run Value := do
  if call.newTarget.isNone then failType "constructor cannot be invoked without 'new'"
  let m := call.machine
  match call.argument 0 with
  | .object id =>
    let items ← match ← Coerce.methodOf? m (.object id) Sign.iterator.key with
      | some _ => Iterate.all m (.object id)
      | none => Coerce.itemsOf m (.object id)
    makeList (← items.mapM fun item => do return .number (← Coerce.toNumber m item))
  | _ =>
    let length ← call.whole 0
    if length < 0 || length > 1000000 then fail .range "invalid length" else zeros length.toNat

def numberFamily (name : String) : Family where
  name
  maker := some ⟨name, 3, makeNumbers⟩

def makeBuffer (call : Call) : Run Value := do
  if call.newTarget.isNone then failType "constructor cannot be invoked without 'new'"
  let length ← call.whole 0
  if length < 0 then fail .range "invalid length"
  makeRecord []

def makeView (call : Call) : Run Value := do
  if call.newTarget.isNone then failType "constructor cannot be invoked without 'new'"
  match call.argument 0 with
  | .object _ => makeRecord []
  | _ => failType "buffer must be an ArrayBuffer"

def families : List Family :=
  ["Int8Array", "Uint8Array", "Uint8ClampedArray", "Int16Array", "Uint16Array", "Int32Array",
    "Uint32Array", "Float32Array", "Float64Array", "BigInt64Array", "BigUint64Array"].map
      numberFamily ++
    [{ name := "ArrayBuffer", maker := some ⟨"ArrayBuffer", 1, makeBuffer⟩ },
      { name := "SharedArrayBuffer", maker := some ⟨"SharedArrayBuffer", 1, makeBuffer⟩ },
      { name := "DataView", maker := some ⟨"DataView", 1, makeView⟩ },
      { name := "Atomics", tag := some "Atomics" }]

end FootprintTemplate.Script.Library.Buffers
