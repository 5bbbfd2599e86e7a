/-!
# Blanks

The characters that count as white space, and trimming them. `isBlank` is Unicode's property;
`isSpacing` also takes the four separators of old data formats, codes 28 to 31.
-/

set_option autoImplicit false

namespace SchemaOutline.Text

def isBlank (c : Char) : Bool :=
  let code := c.toNat
  (9 ≤ code && code ≤ 13) || (0x2000 ≤ code && code ≤ 0x200a)
    || [0x20, 0x85, 0xa0, 0x1680, 0x2028, 0x2029, 0x202f, 0x205f, 0x3000].contains code

/-- White space and the separators of files, groups, records and units. -/
def isSpacing (c : Char) : Bool :=
  isBlank c || (28 ≤ c.toNat && c.toNat ≤ 31)

def isInlineSpacing (c : Char) : Bool :=
  isSpacing c && c != '\n' && c != '\r'

def trimEnd (drops : Char → Bool) (cs : List Char) : List Char :=
  (cs.reverse.dropWhile drops).reverse

def trim (drops : Char → Bool) (cs : List Char) : List Char :=
  trimEnd drops (cs.dropWhile drops)

theorem isSpacing_of_isBlank {c : Char} (h : isBlank c = true) : isSpacing c = true := by
  simp [isSpacing, h]

end SchemaOutline.Text
