import SmbExchange.Json.Value
import SmbExchange.Text.Hex

/-!
# Writing JSON

The compact form: no blanks, members in order.  In a string only quotes, backslashes and control
characters are escaped.
-/

namespace SmbExchange.Json

/-- How one character is written in a string. -/
def escape (char : Char) : List Char :=
  match char with
  | '"' => ['\\', '"']
  | '\\' => ['\\', '\\']
  | '\x08' => ['\\', 'b']
  | '\x0c' => ['\\', 'f']
  | '\n' => ['\\', 'n']
  | '\r' => ['\\', 'r']
  | '\t' => ['\\', 't']
  | _ => if char.toNat < 0x20 then ['\\', 'u'] ++ Hex.lower 4 char.toNat else [char]

def writeText (text : String) : List Char :=
  '"' :: text.toList.flatMap escape ++ ['"']

mutual

def Value.write : Value → List Char
  | .null => ['n', 'u', 'l', 'l']
  | .boolean true => ['t', 'r', 'u', 'e']
  | .boolean false => ['f', 'a', 'l', 's', 'e']
  | .number digits => digits
  | .string text => writeText (text.getD "")
  | .array items => '[' :: Value.writeItems items ++ [']']
  | .object members => '\x7b' :: Value.writeMembers members ++ ['\x7d']

def Value.writeItems : List Value → List Char
  | [] => []
  | [item] => item.write
  | item :: rest => item.write ++ ',' :: Value.writeItems rest

def Value.writeMembers : List (Option String × Value) → List Char
  | [] => []
  | [(name, value)] => writeText (name.getD "") ++ ':' :: value.write
  | (name, value) :: rest =>
    writeText (name.getD "") ++ ':' :: value.write ++ ',' :: Value.writeMembers rest

end

def Value.toText (value : Value) : String :=
  String.ofList value.write

end SmbExchange.Json
