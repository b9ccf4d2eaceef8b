import Conveyor.Dict
import Conveyor.Json.Number
import Conveyor.Json.Text

/-!
# Reading documents

Readers take a value of a known shape off the front of a document. A record is written as an
object, in which fields may come in any order and unknown ones are passed over, or as a list of its
fields in order. Fields that are left out keep the values that the record starts with, unless they
are required.
-/

namespace Conveyor.Json

abbrev Reader (α : Type) := List Char → Except Fault (α × List Char)

/-! ### Blanks and words -/

/-- Whether a character may stand between the tokens of a document. -/
def isBlank (c : Char) : Bool := c = ' ' || c = '\n' || c = '\t' || c = '\r'

def skipBlanks (s : List Char) : List Char := s.dropWhile isBlank

def skipWord : (word : List Char) → List Char → Except Fault (List Char)
  | [], s          => .ok s
  | _ :: _, []     => .error .endInValue
  | w :: ws, c :: s => if c = w then skipWord ws s else .error .expectedIdent

/-! ### Passing over values -/

/-- A list or an object that is not finished. -/
inductive Frame
  | list
  | object
deriving DecidableEq, Inhabited

def Frame.endFault : Frame → Fault
  | .list   => .endInList
  | .object => .endInObject

/-- The fault when neither a comma nor the end of a frame stands after an element. -/
def Frame.commaFault : Frame → Fault
  | .list   => .expectedListCommaOrEnd
  | .object => .expectedObjectCommaOrEnd

def Frame.closing : Frame → Char
  | .list   => ']'
  | .object => '\x7d'

/-- Pass over what stands before a value in a frame: a key and a colon in an object. -/
def Frame.skipKey : Frame → List Char → Except Fault (List Char)
  | .list, s   => .ok s
  | .object, s =>
    match skipBlanks s with
    | []         => .error .endInObject
    | '"' :: s   => do
      match skipBlanks (← skipText s) with
      | []       => .error .endInObject
      | ':' :: s => .ok s
      | _        => .error .expectedColon
    | _ => .error .keyNotText

/-- Pass over a value that is neither a list nor an object; `s` begins with it. -/
def skipScalar : List Char → Except Fault (List Char)
  | 'n' :: s => skipWord ['u', 'l', 'l'] s
  | 't' :: s => skipWord ['r', 'u', 'e'] s
  | 'f' :: s => skipWord ['a', 'l', 's', 'e'] s
  | '"' :: s => skipText s
  | c :: s   =>
    if c = '-' ∨ c.isDigit then (Number.scan .invalidNumber (c :: s)).map Prod.snd
    else .error .expectedValue
  | [] => .error .endInValue

mutual

/-- Pass over a value inside the frames, and then over all that is left of them. -/
def skipIn : (fuel : Nat) → (frames : List Frame) → List Char → Except Fault (List Char)
  | 0, _, _ => .error .endInValue
  | fuel + 1, frames, s =>
    match skipBlanks s with
    | '['  :: s    => skipRest fuel false (.list :: frames) s
    | '\x7b' :: s  => skipRest fuel false (.object :: frames) s
    | s            => do skipRest fuel true frames (← skipScalar s)

/-- Pass over all that is left of the frames. The flag says that a value stands before, so that a
comma must come or the end of the innermost frame. -/
def skipRest : (fuel : Nat) → Bool → (frames : List Frame) → List Char →
    Except Fault (List Char)
  | 0, _, _, _ => .error .endInValue
  | _, _, [], s => .ok s
  | fuel + 1, afterValue, frame :: frames, s =>
    match skipBlanks s with
    | [] => .error frame.endFault
    | c :: s =>
      if c = ',' ∧ afterValue then do
        skipIn fuel (frame :: frames) (← frame.skipKey s)
      else if c = frame.closing then skipRest fuel true frames s
      else if afterValue then .error frame.commaFault
      else do skipIn fuel (frame :: frames) (← frame.skipKey (c :: s))

end

/-- Pass over one value of any shape and depth. Every two steps take at least one character. -/
def skipValue (s : List Char) : Except Fault (List Char) := skipIn (2 * s.length + 2) [] s

/-! ### Scalars -/

/-- The fault for a value of another shape than expected, which `s` begins with. -/
def wrongType (expected : String) (s : List Char) : Fault :=
  let orElse (found : Found) : Except Fault (List Char) → Fault
    | .ok _    => .invalidType found expected
    | .error e => e
  match s with
  | []        => .endInValue
  | 'n' :: s  => orElse .null (skipWord ['u', 'l', 'l'] s)
  | 't' :: s  => orElse (.boolean true) (skipWord ['r', 'u', 'e'] s)
  | 'f' :: s  => orElse (.boolean false) (skipWord ['a', 'l', 's', 'e'] s)
  | '"' :: s  =>
    match readText s with
    | .ok (cs, _) => .invalidType (.text (.ofList cs)) expected
    | .error e    => e
  | '[' :: _    => .invalidType .list expected
  | '\x7b' :: _ => .invalidType .object expected
  | c :: _      =>
    if c = '-' ∨ c.isDigit then
      match Number.scan .endInValue s >>= fun (n, _) => n.classify with
      | .ok found => .invalidType found expected
      | .error e  => e
    else .expectedValue

/-- Read a natural number of at most 64 bits, of the integer type with this name. -/
def readNat (typeName : String) : Reader Nat := fun s =>
  match skipBlanks s with
  | [] => .error .endInValue
  | c :: rest =>
    if c = '-' ∨ c.isDigit then do
      let (n, rest) ← Number.scan .endInValue (c :: rest)
      match ← n.classify with
      | .integer (.ofNat k) => .ok (k, rest)
      | .integer n          => .error (.invalidValue (.integer n) typeName)
      | found               => .error (.invalidType found typeName)
    else .error (wrongType typeName (c :: rest))

def readBool : Reader Bool := fun s =>
  match skipBlanks s with
  | 't' :: s => (skipWord ['r', 'u', 'e'] s).map fun s => (true, s)
  | 'f' :: s => (skipWord ['a', 'l', 's', 'e'] s).map fun s => (false, s)
  | s        => .error (wrongType "a boolean" s)

def readString (expected : String) : Reader String := fun s =>
  match skipBlanks s with
  | '"' :: s => (readText s).map fun (cs, s) => (.ofList cs, s)
  | s        => .error (wrongType expected s)

/-! ### Lists and objects -/

/-- Go to the next element of a list, or find its end without passing over it. -/
def nextElement (first : Bool) (s : List Char) : Except Fault (Option (List Char)) :=
  match skipBlanks s with
  | []     => .error .endInList
  | c :: s =>
    if c = ']' then .ok none
    else if first then .ok (some (c :: s))
    else if c = ',' then
      match skipBlanks s with
      | []       => .error .endInValue
      | ']' :: _ => .error .trailingComma
      | s        => .ok (some s)
    else .error .expectedListCommaOrEnd

/-- Go behind the opening quotation mark of the next key of an object, or find the end of the object
without passing over it. -/
def nextKey (first : Bool) (s : List Char) : Except Fault (Option (List Char)) :=
  let key : List Char → Except Fault (Option (List Char))
    | []          => .error .endInValue
    | '"' :: s    => .ok (some s)
    | '\x7d' :: _ => .error .trailingComma
    | _           => .error .keyNotText
  match skipBlanks s with
  | []     => .error .endInObject
  | c :: s =>
    if c = '\x7d' then .ok none
    else if first then key (c :: s)
    else if c = ',' then key (skipBlanks s)
    else .error .expectedObjectCommaOrEnd

def skipColon (s : List Char) : Except Fault (List Char) :=
  match skipBlanks s with
  | []       => .error .endInObject
  | ':' :: s => .ok s
  | _        => .error .expectedColon

/-- Pass over the end of a list whose elements have been read. -/
def endList (s : List Char) : Except Fault (List Char) :=
  match skipBlanks s with
  | []       => .error .endInList
  | ']' :: s => .ok s
  | ',' :: s =>
    match skipBlanks s with
    | ']' :: _ => .error .trailingComma
    | _        => .error .trailingCharacters
  | _ => .error .trailingCharacters

/-- Pass over the end of an object whose members have been read. -/
def endObject (s : List Char) : Except Fault (List Char) :=
  match skipBlanks s with
  | []          => .error .endInObject
  | '\x7d' :: s => .ok s
  | ',' :: _    => .error .trailingComma
  | _           => .error .trailingCharacters

/-- Read the elements of a list, each with the same reader. -/
def readElements {α : Type} (read : Reader α) :
    (fuel : Nat) → (first : Bool) → Reader (List α)
  | 0, _, _ => .error .endInList
  | fuel + 1, first, s => do
    match ← nextElement first s with
    | none   => return ([], s)
    | some s =>
      let (a, s) ← read s
      let (rest, s) ← readElements read fuel false s
      return (a :: rest, s)

def readList {α : Type} (read : Reader α) : Reader (List α) := fun s =>
  match skipBlanks s with
  | '[' :: s => do
    let (elements, s) ← readElements read (s.length + 1) true s
    return (elements, ← endList s)
  | s => .error (wrongType "a sequence" s)

/-- Read the members of an object, each value with the same reader. -/
def readMembers {α : Type} (read : Reader α) :
    (fuel : Nat) → (first : Bool) → Reader (List (String × α))
  | 0, _, _ => .error .endInObject
  | fuel + 1, first, s => do
    match ← nextKey first s with
    | none   => return ([], s)
    | some s =>
      let (key, s) ← readText s
      let (value, s) ← read (← skipColon s)
      let (rest, s) ← readMembers read fuel false s
      return ((.ofList key, value) :: rest, s)

/-- Read a dictionary: of several members with one key the last counts. -/
def readDict {α : Type} (read : Reader α) : Reader (Dict α) := fun s =>
  match skipBlanks s with
  | '\x7b' :: s => do
    let (members, s) ← readMembers read (s.length + 1) true s
    return (.ofList members, ← endObject s)
  | s => .error (wrongType "a map" s)

/-! ### Records -/

/-- A field of records of type `ρ`. -/
structure RecordField (ρ : Type) where
  name : String
  /-- Read the value of the field into a record. -/
  read : ρ → Reader ρ
  required : Bool := false

/-- A type of records. -/
structure RecordShape (ρ : Type) where
  name : String
  /-- The record whose fields have been left out. -/
  start : ρ
  fields : List (RecordField ρ)

namespace RecordShape

variable {ρ : Type}

def expected (shape : RecordShape ρ) : String := "struct " ++ shape.name

/-- Read the fields of a record from a list, where `index` of them have been read. -/
def readInOrder (shape : RecordShape ρ) :
    (index : Nat) → (fields : List (RecordField ρ)) → ρ → Reader ρ
  | _, [], record, s => .ok (record, s)
  | index, field :: fields, record, s => do
    match ← nextElement (index = 0) s with
    | some s =>
      let (record, s) ← field.read record s
      readInOrder shape (index + 1) fields record s
    | none =>
      match (field :: fields).findIdx? RecordField.required with
      | none   => return (record, s)
      | some i =>
        throw (.invalidLength (index + i)
          (shape.expected ++ " with " ++ toString shape.fields.length ++ " elements"))

/-- Read the members of an object into a record; `seen` holds the names of the fields read. Gives
these names too. -/
def readByName (shape : RecordShape ρ) :
    (fuel : Nat) → (first : Bool) → (seen : List String) → ρ → Reader (ρ × List String)
  | 0, _, _, _, _ => .error .endInObject
  | fuel + 1, first, seen, record, s => do
    match ← nextKey first s with
    | none   => return ((record, seen), s)
    | some s =>
      let (key, s) ← readText s
      let key := String.ofList key
      match shape.fields.find? fun f => f.name = key with
      | none =>
        let s ← skipValue (← skipColon s)
        readByName shape fuel false seen record s
      | some field =>
        if seen.contains key then throw (.duplicateField key)
        let (record, s) ← field.read record (← skipColon s)
        readByName shape fuel false (key :: seen) record s

def read (shape : RecordShape ρ) : Reader ρ := fun s =>
  match skipBlanks s with
  | '[' :: s => do
    let (record, s) ← shape.readInOrder 0 shape.fields shape.start s
    return (record, ← endList s)
  | '\x7b' :: s => do
    let ((record, seen), s) ← shape.readByName (s.length + 1) true [] shape.start s
    match shape.fields.find? fun f => f.required && !seen.contains f.name with
    | some field => throw (.missingField field.name)
    | none       => return (record, ← endObject s)
  | s => .error (wrongType shape.expected s)

end RecordShape

/-! ### Whole documents -/

/-- Read a document that holds one value and nothing else. -/
def readDocument {α : Type} (read : Reader α) (text : String) : Except Fault α := do
  let (value, s) ← read text.toList
  match skipBlanks s with
  | [] => return value
  | _  => throw .trailingCharacters

end Conveyor.Json
