import Conveyor.Json.Fault

/-!
# Texts in documents

Texts stand between quotation marks. Some characters are escaped, and an escape of four hexadecimal
digits stands for one unit of sixteen bits, so that characters beyond these units take two escapes.
-/

namespace Conveyor.Json

/-! ### Escapes -/

def hexDigit? (c : Char) : Option Nat :=
  if '0' ≤ c ∧ c ≤ '9' then some (c.toNat - '0'.toNat)
  else if 'a' ≤ c ∧ c ≤ 'f' then some (c.toNat - 'a'.toNat + 10)
  else if 'A' ≤ c ∧ c ≤ 'F' then some (c.toNat - 'A'.toNat + 10)
  else none

def hexUnit? (a b c d : Char) : Option Nat := do
  return ((← hexDigit? a) * 16 + (← hexDigit? b)) * 256 + ((← hexDigit? c) * 16 + (← hexDigit? d))

/-- The fault where four hexadecimal digits should stand: the document may end within them, counted
in bytes, or something else stands there. -/
def hexFault (s : List Char) : Fault :=
  if (s.take 4).foldl (fun n c => n + c.utf8Size) 0 < 4 then .endInText else .invalidEscape

def simpleEscape? : Char → Option Char
  | '"'  => some '"'
  | '\\' => some '\\'
  | '/'  => some '/'
  | 'b'  => some '\x08'
  | 'f'  => some '\x0c'
  | 'n'  => some '\n'
  | 'r'  => some '\r'
  | 't'  => some '\t'
  | _    => none

/-- Whether a unit is the first half of a surrogate pair. -/
def isLeading (unit : Nat) : Bool := 0xD800 ≤ unit && unit ≤ 0xDBFF

/-- Whether a unit is the second half of a surrogate pair. -/
def isTrailing (unit : Nat) : Bool := 0xDC00 ≤ unit && unit ≤ 0xDFFF

def ofSurrogates (leading trailing : Nat) : Char :=
  .ofNat ((leading - 0xD800) * 0x400 + (trailing - 0xDC00) + 0x10000)

/-! ### Reading -/

/-- Read a text whose opening quotation mark has been read. -/
def readText : List Char → Except Fault (List Char × List Char)
  | []          => .error .endInText
  | '"' :: rest => .ok ([], rest)
  | ['\\']      => .error .endInText
  | '\\' :: 'u' :: rest =>
    match rest with
    | a :: b :: c :: d :: after =>
      match hexUnit? a b c d with
      | none      => .error (hexFault rest)
      | some unit =>
        if isTrailing unit then .error .loneSurrogate
        else if isLeading unit then
          match after with
          | []     => .error .endInText
          | ['\\'] => .error .endInText
          | '\\' :: 'u' :: second =>
            match second with
            | a :: b :: c :: d :: after =>
              match hexUnit? a b c d with
              | none       => .error (hexFault second)
              | some unit' =>
                if isTrailing unit' then
                  (readText after).map fun (cs, s) => (ofSurrogates unit unit' :: cs, s)
                else .error .loneSurrogate
            | _ => .error (hexFault second)
          | _ => .error .endOfHexEscape
        else (readText after).map fun (cs, s) => (Char.ofNat unit :: cs, s)
    | _ => .error (hexFault rest)
  | '\\' :: e :: rest =>
    match simpleEscape? e with
    | none   => .error .invalidEscape
    | some c => (readText rest).map fun (cs, s) => (c :: cs, s)
  | c :: rest =>
    if c < ' ' then .error .controlCharacter
    else (readText rest).map fun (cs, s) => (c :: cs, s)

/-- Pass over a text whose opening quotation mark has been read. Surrogates need not be paired. -/
def skipText : List Char → Except Fault (List Char)
  | []          => .error .endInText
  | '"' :: rest => .ok rest
  | ['\\']      => .error .endInText
  | '\\' :: 'u' :: rest =>
    match rest with
    | a :: b :: c :: d :: after =>
      match hexUnit? a b c d with
      | none   => .error (hexFault rest)
      | some _ => skipText after
    | _ => .error (hexFault rest)
  | '\\' :: e :: rest =>
    match simpleEscape? e with
    | none   => .error .invalidEscape
    | some _ => skipText rest
  | c :: rest => if c < ' ' then .error .controlCharacter else skipText rest

/-! ### Writing -/

/-- The lower-case hexadecimal digit of a number below 16. -/
def hexChar (n : Nat) : Char := Nat.digitChar n

def escape (c : Char) : List Char :=
  match c with
  | '"'    => ['\\', '"']
  | '\\'   => ['\\', '\\']
  | '\x08' => ['\\', 'b']
  | '\x0c' => ['\\', 'f']
  | '\n'   => ['\\', 'n']
  | '\r'   => ['\\', 'r']
  | '\t'   => ['\\', 't']
  | c      =>
    if c < ' ' then ['\\', 'u', '0', '0', hexChar (c.toNat / 16), hexChar (c.toNat % 16)]
    else [c]

def writeText (s : String) : List Char := '"' :: s.toList.flatMap escape ++ ['"']

end Conveyor.Json
