/-!
# Splitting texts

A text split at separators has one piece more than it has separators; putting the separators back
gives the text (`intercalate_splitWhere`).
-/

set_option autoImplicit false

namespace SchemaOutline.Text

def splitWhere (separates : Char → Bool) : List Char → List (List Char)
  | [] => [[]]
  | c :: rest =>
    if separates c then [] :: splitWhere separates rest
    else
      match splitWhere separates rest with
      | piece :: pieces => (c :: piece) :: pieces
      | [] => [[c]]

theorem splitWhere_ne_nil (separates : Char → Bool) (cs : List Char) :
    splitWhere separates cs ≠ [] := by
  cases cs with
  | nil => simp [splitWhere]
  | cons c rest =>
    by_cases h : separates c
    · simp [splitWhere, h]
    · cases hs : splitWhere separates rest <;> simp [splitWhere, h, hs]

theorem splitWhere_append {separator : Char} {piece : List Char} (h : separator ∉ piece)
    (rest : List Char) :
    splitWhere (· == separator) (piece ++ separator :: rest) =
      piece :: splitWhere (· == separator) rest := by
  induction piece with
  | nil => simp [splitWhere]
  | cons c more ih =>
    rw [List.mem_cons, not_or] at h
    rw [List.cons_append, splitWhere, ih h.2, if_neg (by simpa using Ne.symm h.1)]

theorem splitWhere_of_notMem {separator : Char} {piece : List Char} (h : separator ∉ piece) :
    splitWhere (· == separator) piece = [piece] := by
  induction piece with
  | nil => rfl
  | cons c more ih =>
    rw [List.mem_cons, not_or] at h
    rw [splitWhere, ih h.2, if_neg (by simpa using Ne.symm h.1)]

theorem intercalate_splitWhere (separator : Char) (cs : List Char) :
    [separator].intercalate (splitWhere (· == separator) cs) = cs := by
  induction cs with
  | nil => simp [splitWhere]
  | cons c rest ih =>
    cases hs : splitWhere (· == separator) rest with
    | nil => exact absurd hs (splitWhere_ne_nil _ _)
    | cons piece pieces =>
      rw [hs] at ih
      by_cases h : c = separator
      · subst h
        simp [splitWhere, hs, ih]
      · cases pieces with
        | nil => simp_all [splitWhere]
        | cons next others => simp_all [splitWhere]

end SchemaOutline.Text
