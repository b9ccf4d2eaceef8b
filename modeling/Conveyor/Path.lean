import Conveyor.Text.Pieces

/-!
# Paths

A path is a text that describes a way through directories, step by step. The steps are separated by
slashes. Repeated slashes, slashes at the end, and single dots after the first step make no
difference: the steps of a path do not show them.
-/

namespace Conveyor

/-- A step on the way that a path describes. -/
inductive PathStep
  | root
  | here
  | parent
  | name (name : String)
deriving DecidableEq, Inhabited

/-- The step that a piece between two slashes stands for, if it stands for one. -/
def PathStep.ofPiece? : List Char → Option PathStep
  | []         => none
  | ['.']      => none
  | ['.', '.'] => some .parent
  | piece      => some (.name (.ofList piece))

/-- The first step of a path: a path that begins with a slash begins at the root, and a single dot
is a step here. -/
def PathStep.first? : (piece : List Char) → (later : List (List Char)) → Option PathStep
  | [], _ :: _ => some .root
  | ['.'], _   => some .here
  | piece, _   => ofPiece? piece

def pathSteps (path : String) : List PathStep :=
  match Text.pieces '/' path.toList with
  | []             => []
  | piece :: later => (PathStep.first? piece later).toList ++ later.filterMap PathStep.ofPiece?

/-- The path that leads on from the end of another one, unless it begins at the root. -/
def joinPath (path next : String) : String :=
  if next.startsWith "/" then next
  else if path.isEmpty || path.endsWith "/" then path ++ next
  else path ++ "/" ++ next

end Conveyor
