import Conveyor.Json.Text

/-!
# Writing documents

Values are written in two forms: compact, without any blanks, and pretty, with every element of a
list or an object on a line of its own, indented by two blanks for each level.
-/

namespace Conveyor.Json

/-- A value of a document. -/
inductive Value
  | nat (n : Nat)
  | bool (b : Bool)
  | text (s : String)
  | list (elements : List Value)
  | object (members : List (String × Value))
deriving Inhabited

namespace Value

/-- The texts put together, with a comma between any two. -/
def commaSeparated : List (List Char) → List Char
  | []           => []
  | [s]          => s
  | s :: t :: ss => s ++ ',' :: commaSeparated (t :: ss)

def writeBool (b : Bool) : List Char := if b then "true".toList else "false".toList

mutual

def compact : Value → List Char
  | .nat n          => Nat.toDigits 10 n
  | .bool b         => writeBool b
  | .text s         => writeText s
  | .list elements  => '[' :: commaSeparated (compactElements elements) ++ [']']
  | .object members => '\x7b' :: commaSeparated (compactMembers members) ++ ['\x7d']

def compactElements : List Value → List (List Char)
  | []      => []
  | v :: vs => compact v :: compactElements vs

def compactMembers : List (String × Value) → List (List Char)
  | []           => []
  | (k, v) :: ms => (writeText k ++ ':' :: compact v) :: compactMembers ms

end

def newLine (level : Nat) : List Char := '\n' :: List.replicate (2 * level) ' '

/-- Elements, each on a line of its own at some level, between two brackets. -/
def bracketed (level : Nat) (opening closing : Char) : List (List Char) → List Char
  | [] => [opening, closing]
  | es =>
    opening :: commaSeparated (es.map (newLine (level + 1) ++ ·)) ++ newLine level ++ [closing]

mutual

/-- A value over several lines, the first of which has begun at some level. -/
def pretty (level : Nat) : Value → List Char
  | .nat n          => Nat.toDigits 10 n
  | .bool b         => writeBool b
  | .text s         => writeText s
  | .list elements  => bracketed level '[' ']' (prettyElements (level + 1) elements)
  | .object members => bracketed level '\x7b' '\x7d' (prettyMembers (level + 1) members)

def prettyElements (level : Nat) : List Value → List (List Char)
  | []      => []
  | v :: vs => pretty level v :: prettyElements level vs

def prettyMembers (level : Nat) : List (String × Value) → List (List Char)
  | []           => []
  | (k, v) :: ms => (writeText k ++ ':' :: ' ' :: pretty level v) :: prettyMembers level ms

end

def toCompact (v : Value) : String := .ofList v.compact

def toPretty (v : Value) : String := .ofList (v.pretty 0)

end Value

end Conveyor.Json
