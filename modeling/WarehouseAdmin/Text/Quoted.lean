/-!
# Quoted text

A text between two quote characters; a quote character inside it is written twice. Names are quoted
with `"` and string constants with the apostrophe.
-/

set_option autoImplicit false

namespace WarehouseAdmin.Text

/-- Writes each quote character `q` of the text twice. -/
def doubleQuotes (q : Char) : List Char → List Char
  | [] => []
  | c :: rest => if c = q then q :: q :: doubleQuotes q rest else c :: doubleQuotes q rest

/-- Puts the text between two quote characters `q`, doubling those inside. -/
def enclose (q : Char) (s : String) : String :=
  String.ofList (q :: doubleQuotes q s.toList ++ [q])

def singleQuoted (s : String) : String := enclose '\x27' s

def doubleQuoted (s : String) : String := enclose '"' s

example : doubleQuoted "a\"b" = "\"a\"\"b\"" := by decide

end WarehouseAdmin.Text
