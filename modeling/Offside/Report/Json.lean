/-!
# Lines as a JSON document

An object with one field, the list of lines, written over several rows with two spaces of
indentation a level.
-/

namespace Offside.Report.Json

def hexPair (n : Nat) : List Char :=
  [Nat.digitChar (n / 16), Nat.digitChar (n % 16)]

/-- A character inside of a string. Only quotes, backslashes and control characters below the
space are escaped. -/
def stringChar (c : Char) : List Char :=
  match c with
  | '"' => ['\\', '"']
  | '\\' => ['\\', '\\']
  | '\x08' => ['\\', 'b']
  | '\x0c' => ['\\', 'f']
  | '\n' => ['\\', 'n']
  | '\r' => ['\\', 'r']
  | '\t' => ['\\', 't']
  | c => if c.toNat < 0x20 then ['\\', 'u', '0', '0'] ++ hexPair c.toNat else [c]

def string (text : String) : String :=
  String.ofList ('"' :: text.toList.flatMap stringChar ++ ['"'])

def document (lines : List String) : String :=
  let rows := lines.map fun line => "    " ++ string line
  let list := if rows.isEmpty then "[]" else "[\n" ++ ",\n".intercalate rows ++ "\n  ]"
  "\x7b\n  \"lines\": " ++ list ++ "\n\x7d"

end Offside.Report.Json
