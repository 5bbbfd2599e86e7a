/-!
# Ranges of code points

Properties of characters are given by ranges of code points in increasing order, both ends of a
range included.
-/

set_option autoImplicit false

namespace SchemaOutline.Text

def isWithin (code : Nat) : List (Nat × Nat) → Bool
  | [] => false
  | (low, high) :: rest => if code < low then false else code ≤ high || isWithin code rest

theorem exists_range_of_isWithin {code : Nat} {ranges : List (Nat × Nat)}
    (h : isWithin code ranges = true) :
    ∃ range ∈ ranges, range.1 ≤ code ∧ code ≤ range.2 := by
  induction ranges with
  | nil => simp [isWithin] at h
  | cons range rest ih =>
    obtain ⟨low, high⟩ := range
    by_cases hBelow : code < low
    · simp [isWithin, hBelow] at h
    · by_cases hInside : code ≤ high
      · exact ⟨(low, high), List.mem_cons_self, Nat.le_of_not_lt hBelow, hInside⟩
      · have hLater : isWithin code rest = true := by simpa [isWithin, hBelow, hInside] using h
        obtain ⟨found, hMem, hBounds⟩ := ih hLater
        exact ⟨found, List.mem_cons_of_mem _ hMem, hBounds⟩

end SchemaOutline.Text
