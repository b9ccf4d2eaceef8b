import Conveyor.Text.Unprintable

/-!
# Quoted texts

A text between quotation marks for diagnostic output. Quotation marks, backslashes and characters
that are not shown are escaped, the last by their code points in hexadecimal.
-/

namespace Conveyor.Text

/-- How a character is written within quotation marks. -/
def quoteChar (c : Char) : List Char :=
  match c with
  | '\x00' => ['\\', '0']
  | '\t'   => ['\\', 't']
  | '\r'   => ['\\', 'r']
  | '\n'   => ['\\', 'n']
  | '"'    => ['\\', '"']
  | '\\'   => ['\\', '\\']
  | c      =>
    if c < ' ' || isUnprintable c then
      ['\\', 'u', '\x7b'] ++ Nat.toDigits 16 c.toNat ++ ['\x7d']
    else [c]

def quoted (s : String) : String := .ofList ('"' :: s.toList.flatMap quoteChar ++ ['"'])

end Conveyor.Text
