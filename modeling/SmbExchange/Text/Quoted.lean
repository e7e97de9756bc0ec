import SmbExchange.Text.Hex
import SmbExchange.Text.Printable

/-!
# Quoted text

A text between double quotes as people read it in a log.  Quotes, backslashes and characters that
do not show are escaped, so that what is between the quotes can be read back.
-/

namespace SmbExchange.Quoted

/-- How one character is written between quotes. -/
def escape (char : Char) : List Char :=
  match char with
  | '\x00' => ['\\', '0']
  | '\t' => ['\\', 't']
  | '\n' => ['\\', 'n']
  | '\r' => ['\\', 'r']
  | '"' => ['\\', '"']
  | '\\' => ['\\', '\\']
  | _ =>
    if Printable.shows char then [char]
    else ['\\', 'u', '\x7b'] ++ Hex.lower 1 char.toNat ++ ['\x7d']

def encode (text : String) : String :=
  "\"" ++ String.ofList (text.toList.flatMap escape) ++ "\""

end SmbExchange.Quoted
