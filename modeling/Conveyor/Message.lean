import Conveyor.Dict

/-!
# Messages

A message is an ordered sequence of parts, and a part is a sequence of bytes with metadata. The
message without parts is valid and is the natural empty value.
-/

namespace Conveyor

abbrev Bytes := List UInt8

def Bytes.ofString (s : String) : Bytes := s.toUTF8.toList

/-! ### Parts -/

/-- One part of a message. -/
structure Part where
  content : Bytes
  /-- What is noted about the content. -/
  metadata : Dict String := .empty
deriving DecidableEq, Inhabited

def Part.ofString (s : String) : Part := ⟨.ofString s, .empty⟩

def Part.setMetadata (p : Part) (key value : String) : Part :=
  { p with metadata := p.metadata.insert key value }

def Part.removeMetadata (p : Part) (key : String) : Part :=
  { p with metadata := p.metadata.erase key }

/-! ### Messages -/

/-- An ordered sequence of parts. -/
structure Message where
  parts : List Part
deriving DecidableEq, Inhabited

namespace Message

def empty : Message := ⟨[]⟩

def ofStrings (texts : List String) : Message := ⟨texts.map Part.ofString⟩

def size (m : Message) : Nat := m.parts.length

def isEmpty (m : Message) : Bool := m.parts.isEmpty

/-- The position that an index means: negative ones count from the end. -/
def position? (m : Message) (index : Int) : Option Nat :=
  let resolved := if index < 0 then m.size + index else index
  if 0 ≤ resolved ∧ resolved < m.size then some resolved.toNat else none

/-- The part at an index; negative indices count from the end. -/
def get? (m : Message) (index : Int) : Option Part :=
  (m.position? index).bind fun i => m.parts[i]?

def push (m : Message) (part : Part) : Message := ⟨m.parts ++ [part]⟩

def modify? (m : Message) (position : Nat) (change : Part → Part) : Option Message :=
  if position < m.size then some ⟨m.parts.modify position change⟩ else none

def map (change : Part → Part) (m : Message) : Message := ⟨m.parts.map change⟩

def contents (m : Message) : List Bytes := m.parts.map Part.content

def reverse (m : Message) : Message := ⟨m.parts.reverse⟩

/-- Whether the first part exists and has this content. -/
def startsWith (m : Message) (content : Bytes) : Bool :=
  match m.parts with
  | []        => false
  | first :: _ => first.content == content

end Message

end Conveyor
