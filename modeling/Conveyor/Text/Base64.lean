import Conveyor.Message

/-!
# Base64

Bytes as text over the standard alphabet, four symbols for three bytes, with padding at the end.
Decoding is strict: the padding must be there, and bits of the last symbol that stand for no byte
must be zero, so that no two texts stand for the same bytes.
-/

namespace Conveyor.Text.Base64

/-- Why a text does not stand for bytes. Offsets and symbols are those of the bytes of the text. -/
inductive Error
  /-- A symbol that is not in the alphabet, or padding at a place where it cannot be. -/
  | invalidSymbol (symbol : UInt8) (offset : Nat)
  /-- A last symbol with bits that stand for no byte. -/
  | invalidLastSymbol (symbol : UInt8) (offset : Nat)
  /-- A single symbol is left over. -/
  | invalidLength (length : Nat)
  /-- The padding does not fill up the last group. -/
  | invalidPadding
deriving DecidableEq, Inhabited

def Error.message : Error → String
  | .invalidSymbol symbol offset =>
    "Invalid symbol " ++ toString symbol.toNat ++ ", offset " ++ toString offset ++ "."
  | .invalidLastSymbol symbol offset =>
    "Invalid last symbol " ++ toString symbol.toNat ++ ", offset " ++ toString offset ++ "."
  | .invalidLength length => "Invalid input length: " ++ toString length
  | .invalidPadding       => "Invalid padding"

/-! ### The alphabet -/

def pad : UInt8 := 61

def symbolOf (n : Nat) : UInt8 :=
  if n < 26 then (65 + n).toUInt8
  else if n < 52 then (71 + n).toUInt8
  else if n < 62 then (n - 4).toUInt8
  else if n = 62 then 43
  else 47

def valueOf (symbol : UInt8) : Option Nat :=
  let n := symbol.toNat
  if 65 ≤ n ∧ n ≤ 90 then some (n - 65)
  else if 97 ≤ n ∧ n ≤ 122 then some (n - 71)
  else if 48 ≤ n ∧ n ≤ 57 then some (n + 4)
  else if n = 43 then some 62
  else if n = 47 then some 63
  else none

/-! ### Encoding -/

def encode : Bytes → Bytes
  | [] => []
  | [a] =>
    let n := a.toNat * 16
    [symbolOf (n / 64), symbolOf (n % 64), pad, pad]
  | [a, b] =>
    let n := (a.toNat * 256 + b.toNat) * 4
    [symbolOf (n / 4096), symbolOf (n / 64 % 64), symbolOf (n % 64), pad]
  | a :: b :: c :: rest =>
    let n := a.toNat * 65536 + b.toNat * 256 + c.toNat
    symbolOf (n / 262144) :: symbolOf (n / 4096 % 64) :: symbolOf (n / 64 % 64) ::
      symbolOf (n % 64) :: encode rest

def encodeText (b : Bytes) : String := .ofList ((encode b).map fun s => Char.ofNat s.toNat)

/-! ### Decoding -/

/-- The symbols of the last group, up to the padding, and the number of padding symbols. `index` is
the place in the group, and `start` the offset of the group. -/
def lastSymbols (start : Nat) : (index : Nat) → Bytes → Except Error (List Nat × Nat)
  | _, [] => .ok ([], 0)
  | index, s :: rest =>
    if s = pad then
      if index < 2 then .error (.invalidSymbol s (start + index))
      else if rest.all (· = pad) then .ok ([], rest.length + 1)
      else .error (.invalidSymbol pad (start + index))
    else
      match valueOf s with
      | none   => .error (.invalidSymbol s (start + index))
      | some v => (lastSymbols start (index + 1) rest).map fun (vs, pads) => (v :: vs, pads)

/-- Decode the last group, which may be padded, of at most four symbols. -/
def decodeLast (start : Nat) (group : Bytes) : Except Error Bytes := do
  let (values, pads) ← lastSymbols start 0 group
  let count := values.length
  if count = 0 then return []
  if count = 1 then throw (.invalidLength (start + 1))
  if (pads + count) % 4 ≠ 0 then throw .invalidPadding
  let spare := if count = 2 then 16 else if count = 3 then 4 else 1
  let n := values.foldl (fun n v => n * 64 + v) 0
  if n % spare ≠ 0 then
    throw (.invalidLastSymbol (group[count - 1]?.getD pad) (start + count - 1))
  match count with
  | 2 => return [(n / 16).toUInt8]
  | 3 => return [(n / 1024).toUInt8, (n / 4 % 256).toUInt8]
  | _ => return [(n / 65536).toUInt8, (n / 256 % 256).toUInt8, (n % 256).toUInt8]

def valueAt (offset : Nat) (symbol : UInt8) : Except Error Nat :=
  match valueOf symbol with
  | some v => .ok v
  | none   => .error (.invalidSymbol symbol offset)

/-- Decode groups of four symbols; the last one may be padded. -/
def decodeFrom (start : Nat) : Bytes → Except Error Bytes
  | a :: b :: c :: d :: e :: rest => do
    let a ← valueAt start a
    let b ← valueAt (start + 1) b
    let c ← valueAt (start + 2) c
    let d ← valueAt (start + 3) d
    let n := a * 262144 + b * 4096 + c * 64 + d
    let later ← decodeFrom (start + 4) (e :: rest)
    return (n / 65536).toUInt8 :: (n / 256 % 256).toUInt8 :: (n % 256).toUInt8 :: later
  | last => decodeLast start last

/-- Decode a text, given as bytes. A last symbol that stands alone in its group and is outside the
alphabet, such as a line end, is reported before anything else. -/
def decode (text : Bytes) : Except Error Bytes :=
  match text.getLast? with
  | some s =>
    if text.length % 4 = 1 ∧ s ≠ pad ∧ valueOf s = none then
      .error (.invalidSymbol s (text.length - 1))
    else decodeFrom 0 text
  | none => .ok []

def decodeText (s : String) : Except Error Bytes := decode (.ofString s)

end Conveyor.Text.Base64
