import SchemaOutline.Json
import SchemaOutline.Decimal.Layout

/-!
# JSON text

Two spellings of a value: on one line without blanks and with every character above the control
range as it stands (`Json.compact`), and indented by two with everything beyond printable ASCII
escaped (`Json.indented`).
-/

set_option autoImplicit false

namespace SchemaOutline.Json

def unicodeEscape (unit : Nat) : String :=
  let digits := Nat.toDigits 16 unit
  "\\u" ++ String.ofList (List.replicate (4 - digits.length) '0' ++ digits)

/-- A character beyond the basic plane is escaped as two surrogates. -/
def escapedUnits (c : Char) : String :=
  if c.toNat < 0x10000 then unicodeEscape c.toNat
  else
    let offset := c.toNat - 0x10000
    unicodeEscape (0xD800 + offset / 0x400) ++ unicodeEscape (0xDC00 + offset % 0x400)

def escapeChar (asciiOnly : Bool) (c : Char) : String :=
  if c == '"' then "\\\""
  else if c == '\\' then "\\\\"
  else if c == '\n' then "\\n"
  else if c == '\r' then "\\r"
  else if c == '\t' then "\\t"
  else if c == '\x08' then "\\b"
  else if c == '\x0c' then "\\f"
  else if c.toNat < 0x20 || (asciiOnly && 0x7e < c.toNat) then escapedUnits c
  else c.toString

def quote (asciiOnly : Bool) (s : String) : String :=
  "\"" ++ String.join (s.toList.map (escapeChar asciiOnly)) ++ "\""

def scalarText (asciiOnly : Bool) : Json → String
  | .null => "null"
  | .bool true => "true"
  | .bool false => "false"
  | .int n => toString n
  | .float x => Decimal.standard.format x
  | .str s => quote asciiOnly s
  | .arr _ => "[]"
  | .obj _ => "\x7b\x7d"

mutual
def compact : Json → String
  | .arr items => "[" ++ ",".intercalate (compactItems items) ++ "]"
  | .obj members => "\x7b" ++ ",".intercalate (compactMembers members) ++ "\x7d"
  | scalar => scalarText false scalar

def compactItems : List Json → List String
  | [] => []
  | v :: rest => compact v :: compactItems rest

def compactMembers : List (String × Json) → List String
  | [] => []
  | (name, v) :: rest => (quote false name ++ ":" ++ compact v) :: compactMembers rest
end

/-- A container over several lines, one line for each of its parts. -/
def block (opening closing : String) (level : Nat) (parts : List String) : String :=
  let newline (n : Nat) := "\n" ++ String.ofList (List.replicate (2 * n) ' ')
  if parts.isEmpty then opening ++ closing
  else opening ++ newline (level + 1) ++ ("," ++ newline (level + 1)).intercalate parts
    ++ newline level ++ closing

mutual
def indentedAt (level : Nat) : Json → String
  | .arr items => block "[" "]" level (indentedItems (level + 1) items)
  | .obj members => block "\x7b" "\x7d" level (indentedMembers (level + 1) members)
  | scalar => scalarText true scalar

def indentedItems (level : Nat) : List Json → List String
  | [] => []
  | v :: rest => indentedAt level v :: indentedItems level rest

def indentedMembers (level : Nat) : List (String × Json) → List String
  | [] => []
  | (name, v) :: rest =>
    (quote true name ++ ": " ++ indentedAt level v) :: indentedMembers level rest
end

def indented (v : Json) : String := indentedAt 0 v

end SchemaOutline.Json
