import Conveyor.Config
import Conveyor.Failure
import Conveyor.Text.Alphanumeric
import Conveyor.Text.Blank
import Conveyor.Text.Pieces

/-!
# Log filters

A filter is a list of directives, separated by commas. A directive names a level, or a target, or a
target with a level; the target may be followed by a span in brackets, with fields in braces. A word
that is no level is a target of which everything is logged.
-/

namespace Conveyor

/-- How much is logged. -/
inductive LogLevel
  | off
  | error
  | warn
  | info
  | debug
  | trace
deriving DecidableEq, Inhabited

/-- Why a filter cannot be used. -/
inductive LogFilterError
  | badLevel
  /-- A text that is no directive. -/
  | badDirective
deriving DecidableEq, Inhabited

def LogFilterError.message : LogFilterError → String
  | .badLevel =>
    "error parsing level filter: expected one of \"off\", \"error\", \"warn\", \"info\", " ++
      "\"debug\", \"trace\", or a number 0-5"
  | .badDirective => "invalid filter directive"

/-- What is logged of one target. -/
structure LogDirective where
  target : Option String := none
  span : Option String := none
  fields : Option String := none
  level : LogLevel := .trace
deriving DecidableEq, Inhabited

/-! ### Levels -/

def LogLevel.ofNat? : Nat → Option LogLevel
  | 0 => some .off
  | 1 => some .error
  | 2 => some .warn
  | 3 => some .info
  | 4 => some .debug
  | 5 => some .trace
  | _ => none

def LogLevel.ofName? (name : List Char) : Option LogLevel :=
  match String.ofList (name.map Char.toLower) with
  | "off"   => some .off
  | "error" => some .error
  | "warn"  => some .warn
  | "info"  => some .info
  | "debug" => some .debug
  | "trace" => some .trace
  | _       => none

/-- The value of decimal digits, which a plus sign may stand before. -/
def unsignedValue? (s : List Char) : Option Nat :=
  let digits : List Char :=
    match s with
    | '+' :: s => s
    | s        => s
  if digits ≠ [] ∧ digits.all Char.isDigit then some (Nat.ofDigitChars 10 digits 0) else none

def LogLevel.parse? (s : List Char) : Option LogLevel :=
  ((unsignedValue? s).bind LogLevel.ofNat?).or (LogLevel.ofName? s)

/-! ### Directives -/

/-- What is left of a text after some number of bytes, if a character begins there. -/
def dropBytes : Nat → List Char → Option (List Char)
  | 0, s           => some s
  | _ + 1, []      => none
  | n + 1, c :: cs => if c.utf8Size ≤ n + 1 then dropBytes (n + 1 - c.utf8Size) cs else none

def byteCount (s : List Char) : Nat := s.foldl (fun n c => n + c.utf8Size) 0

namespace LogDirective

/-- Give a directive the level that stands at a number of bytes from the start of its text. An empty
level stands for everything. -/
def withLevelAt (d : LogDirective) (text : List Char) (start : Nat) :
    Except LogFilterError LogDirective :=
  match dropBytes start text with
  | none   => .error .badLevel
  | some s =>
    if s.isEmpty then .ok d
    else
      match LogLevel.parse? s with
      | some level => .ok { d with level }
      | none       => .error .badLevel

def afterSpan (d : LogDirective) (text trimmed rest : List Char) :
    Except LogFilterError LogDirective :=
  match rest with
  | []       => .ok d
  | '=' :: r => d.withLevelAt text (byteCount trimmed - byteCount r)
  | _        => .error .badDirective

/-- Read a span whose opening bracket has been read, and what follows it. -/
def inSpan (d : LogDirective) (text trimmed rest : List Char) :
    Except LogFilterError LogDirective :=
  let name := rest.takeWhile fun c => c ≠ ']' ∧ c ≠ '\x7b'
  match rest.drop name.length with
  | ']' :: rest => { d with span := some (.ofList name) }.afterSpan text trimmed rest
  | '\x7b' :: rest =>
    let field := rest.takeWhile fun c => c ≠ '\x7d'
    match rest.drop field.length with
    | '\x7d' :: ']' :: rest =>
      if field.isEmpty then .error .badDirective
      else
        { d with span := some (.ofList name), fields := some (.ofList field) }.afterSpan
          text trimmed rest
    | _ => .error .badDirective
  | _ => .error .badDirective

def startsTarget (c : Char) : Bool := c = '-' || c = ':' || c = '_' || Text.isAlphanumeric c

/-- Read one directive. Blanks around it are passed over in telling its parts, but the places of the
parts are counted from the first blank. -/
def parse (text : List Char) : Except LogFilterError LogDirective :=
  let trimmed := Text.trim text
  match trimmed with
  | []        => .error .badDirective
  | '[' :: rest => LogDirective.inSpan {} text trimmed rest
  | c :: _    =>
    if startsTarget c then
      let target := trimmed.takeWhile fun c => c ≠ '=' ∧ c ≠ '['
      let named : LogDirective := { target := some (.ofList target) }
      match trimmed.drop target.length with
      | []          =>
        match LogLevel.parse? text with
        | some level => .ok { level := level }
        | none       => .ok { target := some (.ofList text) }
      | '=' :: _    => named.withLevelAt text (byteCount target + 1)
      | _ :: rest => named.inSpan text trimmed rest
    else .error .badDirective

end LogDirective

/-! ### Filters -/

/-- Read a filter. Nothing between two commas is passed over. -/
def parseLogFilter (directives : String) : Except ConfigError (List LogDirective) :=
  match ((Text.pieces ',' directives.toList).filter (· ≠ [])).mapM LogDirective.parse with
  | .ok ds   => .ok ds
  | .error e => .error ⟨"invalid log filter '" ++ directives ++ "': " ++ e.message⟩

/-- The directives in force: those of the environment, unless they are blank, and otherwise those of
the configuration. -/
def LogConfig.directives (config : LogConfig) (environment : Option String) : String :=
  match environment with
  | some value => if (Text.trim value.toList).isEmpty then config.level else value
  | none       => config.level

def LogConfig.filter (config : LogConfig) (environment : Option String) :
    Except ConfigError (List LogDirective) :=
  parseLogFilter (config.directives environment)

end Conveyor
