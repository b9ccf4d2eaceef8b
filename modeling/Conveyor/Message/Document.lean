import Conveyor.Json.Reader
import Conveyor.Json.Value
import Conveyor.Message

/-!
# Message documents

A message is written as a JSON list of its parts. The content of a part is written in Base64, and
its metadata are left out if there are none.
-/

namespace Conveyor

open Json

def Part.shape : RecordShape Part where
  name := "Part"
  start := ⟨[], .empty⟩
  fields := [
    { name := "content"
      required := true
      read := fun p s => do
        let (text, s) ← readString "a string" s
        match Text.Base64.decodeText text with
        | .ok content  => return ({ p with content := content }, s)
        | .error cause => throw (.content cause) },
    { name := "metadata"
      read := fun p s => (readDict (readString "a string") s).map fun (metadata, s) =>
        ({ p with metadata := metadata }, s) }]

def Part.parse (document : String) : Except Fault Part := readDocument Part.shape.read document

def Message.parse (document : String) : Except Fault Message :=
  (readDocument (readList Part.shape.read) document).map Message.mk

/-- The value of a part, with these metadata. -/
def Part.toValueWith (metadata : List (String × String)) (p : Part) : Value :=
  let content := ("content", Value.text (Text.Base64.encodeText p.content))
  if metadata.isEmpty then .object [content]
  else .object [content, ("metadata", .object (metadata.map fun e => (e.1, .text e.2)))]

def Part.toValue (p : Part) : Value := p.toValueWith p.metadata.toList

def Message.toValue (m : Message) : Value := .list (m.parts.map Part.toValue)

def Message.render (m : Message) : String := m.toValue.toCompact

end Conveyor
