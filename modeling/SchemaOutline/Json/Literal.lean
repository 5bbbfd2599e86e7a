import SchemaOutline.Json
import SchemaOutline.Decimal.Layout
import SchemaOutline.Text.Quoted

/-!
# Values in running text

Messages and labels name values as literals, with quoted strings and capitalised words, and name
the type of a value in one word.
-/

set_option autoImplicit false

namespace SchemaOutline.Json

/-- Doubles in running text: as in JSON text, with short words for what is not a number. -/
def literalNumbers : Decimal.Layout :=
  { Decimal.standard with notANumber := "nan", infinity := "inf" }

def typeName : Json → String
  | .null => "NoneType"
  | .bool _ => "bool"
  | .int _ => "int"
  | .float _ => "float"
  | .str _ => "str"
  | .arr _ => "list"
  | .obj _ => "dict"

mutual
def literal : Json → String
  | .null => "None"
  | .bool true => "True"
  | .bool false => "False"
  | .int n => toString n
  | .float x => literalNumbers.format x
  | .str s => Text.quoted s
  | .arr items => "[" ++ ", ".intercalate (literalItems items) ++ "]"
  | .obj members => "\x7b" ++ ", ".intercalate (literalMembers members) ++ "\x7d"

def literalItems : List Json → List String
  | [] => []
  | v :: rest => literal v :: literalItems rest

def literalMembers : List (String × Json) → List String
  | [] => []
  | (name, v) :: rest => (Text.quoted name ++ ": " ++ literal v) :: literalMembers rest
end

/-- The value in running text: a string stands for itself, anything else is a literal. -/
def display : Json → String
  | .str s => s
  | v => v.literal

end SchemaOutline.Json
