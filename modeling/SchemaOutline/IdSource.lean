/-!
# Identifiers

Identifiers are drawn one after the other from a source. A source is the sequence that it will give
and the number of identifiers already taken from it.
-/

set_option autoImplicit false

namespace SchemaOutline

structure IdSource where
  nth : Nat → String
  taken : Nat

namespace IdSource

def peek (ids : IdSource) : String := ids.nth ids.taken

def next (ids : IdSource) : IdSource := { ids with taken := ids.taken + 1 }

/-- A stem followed by a number that counts from zero. -/
def numbered (stem : String) : IdSource := ⟨fun n => stem ++ toString n, 0⟩

def cycling (ids : List String) : IdSource := ⟨fun n => (ids[n % ids.length]?).getD "", 0⟩

end IdSource

end SchemaOutline
