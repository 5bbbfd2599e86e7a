import SchemaOutline.Outline.Line

/-!
# Outlines as text

Each line of an outline has three columns: the name behind its indentation, the label and the
pointer. In plain text the first two are filled up with spaces to a fixed number of characters.
-/

set_option autoImplicit false

namespace SchemaOutline

def filledTo (width : Nat) (s : String) : String :=
  s ++ String.ofList (List.replicate (width - s.length) ' ')

namespace Line

/-- Two spaces for every level, a mark for entries that can be opened, and the name. -/
def indentedName (line : Line) : String :=
  let indentation := String.ofList (List.replicate (2 * line.level.toNat) ' ')
  let mark := if line.expandable then "+ " else "  "
  indentation ++ mark ++ (if line.name.isEmpty then "<root>" else line.name)

def text (line : Line) : String :=
  filledTo 40 line.indentedName ++ " " ++ filledTo 30 line.label ++ " " ++ line.pointer

end Line

def Outline.text (outline : Outline) : Except Failure String :=
  outline.lines.map fun lines => "\n".intercalate (lines.map Line.text)

end SchemaOutline
