import SchemaOutline.Summary

/-!
# Identifiers

Numbered identifiers never repeat. A summary bears the identifier it was made for and depends on it
in no other way.
-/

set_option autoImplicit false

namespace SchemaOutline

theorem IdSource.numbered_injective (stem : String) : Function.Injective (numbered stem).nth := by
  intro m n h
  have hRepr : m.repr = n.repr := (String.append_right_inj stem).mp h
  have hDigits : Nat.toDigits 10 m = Nat.toDigits 10 n := by
    rw [← Nat.toList_repr, hRepr, Nat.toList_repr]
  have hValue := congrArg (Nat.ofDigitChars 10 · 0) hDigits
  simpa [Nat.ofDigitChars_toDigits] using hValue

namespace Summary

def withId (summary : Summary) (id : String) : Summary := { summary with id }

@[simp] theorem id_withId (summary : Summary) (id : String) : (summary.withId id).id = id := rfl

theorem ofFragment_withId (id other : String) (fragment : Members) (inherited : Json) :
    ofFragment other fragment inherited =
      (ofFragment id fragment inherited).map (·.withId other) := by
  unfold ofFragment
  cases Fragment.combiner? fragment with
  | some c => rfl
  | none =>
    simp only
    split
    · rfl
    · cases Fragment.structuralKind fragment with
      | object => cases requiredOf fragment <;> rfl
      | _ => rfl

variable {id : String} {fragment : Members} {inherited : Json} {summary : Summary}

theorem id_of_ofFragment (h : ofFragment id fragment inherited = .ok summary) :
    summary.id = id := by
  have hSame := ofFragment_withId id id fragment inherited
  rw [h] at hSame
  exact congrArg Summary.id (Except.ok.inj hSame)

theorem ofFragment_of_ofFragment (h : ofFragment id fragment inherited = .ok summary)
    (other : String) : ofFragment other fragment inherited = .ok (summary.withId other) := by
  rw [ofFragment_withId id, h]
  rfl

end Summary

end SchemaOutline
