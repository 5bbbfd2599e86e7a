import Mathlib.Data.List.TakeWhile
import SchemaOutline.Json.Reader
import SchemaOutline.Proofs.Success

/-!
# Why the reader gives up

Besides faults of syntax the reader knows two limits, and each has its reason in the text: more
opening brackets than containers may nest, or a longer run of digits than an integer may have
(`Explained`). The fuel is no limit of its own. Every call that does not fail takes something off
the text (`Takes`), and so the fuel for a text of a given length is enough (`explained_of_read`).
-/

set_option autoImplicit false

namespace SchemaOutline.Json

/-- The text goes beyond a limit of the reader: it nests too deeply, or it holds an integer with too
many digits. -/
def GivenUp (room : Nat) (text : String) : Prop :=
  read room text = .error .tooDeep ∨ ∃ digits, read room text = .error (.hugeInteger digits)

namespace Reader

variable {cs rest : List Char}

/-- What is left of a text after something has been taken off its front. -/
structure Takes (cs rest : List Char) : Prop where
  suffix : rest <:+ cs
  shorter : rest.length < cs.length

theorem Takes.of_suffix {less : List Char} (h : Takes cs rest) (hLess : less <:+ rest) :
    Takes cs less :=
  ⟨hLess.trans h.suffix, Nat.lt_of_le_of_lt hLess.length_le h.shorter⟩

theorem takes_cons (c : Char) (cs : List Char) : Takes (c :: cs) cs :=
  ⟨List.suffix_cons c cs, Nat.lt_succ_self _⟩

theorem Takes.of_cons {c : Char} (h : rest <:+ cs) : Takes (c :: cs) rest :=
  (takes_cons c cs).of_suffix h

theorem skipBlanks_suffix (cs : List Char) : skipBlanks cs <:+ cs := List.dropWhile_suffix _

theorem takes_drop {n : Nat} (hPos : 0 < n) (hCs : cs ≠ []) : Takes cs (cs.drop n) where
  suffix := List.drop_suffix n cs
  shorter := by
    have hLength := List.length_pos_iff.mpr hCs
    rw [List.length_drop]
    omega

theorem suffix_of_stringBody {start done : List Char} {escaped : Nat} {s : String}
    (h : stringBody start escaped done cs = .ok (s, rest)) : rest <:+ cs := by
  fun_induction stringBody start escaped done cs with
  | case1 => cases h
  | case2 escaped done c cs ih => exact (ih h).trans (List.suffix_cons c cs)
  | case3 =>
    cases h
    exact List.suffix_cons _ _
  | case4 => cases h
  | case5 done c cs hQuote hEscape hHead ih =>
    obtain ⟨⟨plain, size⟩, -, hRest⟩ := bind_eq_ok_iff.mp h
    exact (ih plain size hRest).trans (List.suffix_cons c cs)
  | case6 done c cs hQuote hEscape letter hHead hNotU plain hShort ih =>
    exact (ih h).trans (List.suffix_cons c cs)
  | case7 => cases h
  | case8 => cases h
  | case9 done c cs hQuote hEscape hControl ih => exact (ih h).trans (List.suffix_cons c cs)

theorem takes_of_string {s : String} (h : string ('"' :: cs) = .ok (s, rest)) :
    Takes ('"' :: cs) rest := .of_cons (suffix_of_stringBody h)

theorem takes_of_word? {v : Json} (h : word? cs = some (v, rest)) : Takes cs rest := by
  obtain ⟨⟨word, w⟩, hMem, hWord⟩ := List.exists_of_findSome?_eq_some h
  have hWords : ∀ entry ∈ words, 0 < entry.1.length := by
    decide
  dsimp only at hWord
  split at hWord
  · rename_i hStart
    cases hWord
    have hPos := hWords _ hMem
    refine takes_drop hPos ?_
    rintro rfl
    have hNil : word.toList = [] := List.prefix_nil.mp (List.isPrefixOf_iff_prefix.mp hStart)
    rw [← String.length_toList, hNil] at hPos
    cases hPos
  · cases hWord

theorem of_wholeDigits? {whole : List Char} (h : wholeDigits? cs = some whole) :
    whole ≠ [] ∧ whole <+: cs ∧ ∀ c ∈ whole, isDigit c = true := by
  unfold wholeDigits? at h
  split at h
  · cases h
    refine ⟨by simp, ⟨_, rfl⟩, ?_⟩
    simp [isDigit]
  · split at h
    · rename_i hDigit
      cases h
      exact ⟨by simp [hDigit], List.takeWhile_prefix _, fun _ => List.mem_takeWhile_imp⟩
    · cases h
  · cases h

theorem suffix_of_fraction? {digits : List Char} (h : fraction? cs = some (digits, rest)) :
    rest <:+ cs := by
  unfold fraction? at h
  split at h
  · dsimp only at h
    split at h
    · cases h
    · cases h
      exact (List.drop_suffix _ _).trans (List.suffix_cons _ _)
  · cases h

theorem suffix_of_exponent? {power : Int} (h : exponent? cs = some (power, rest)) :
    rest <:+ cs := by
  unfold exponent? at h
  split at h
  · rename_i mark signed
    dsimp only at h
    split at h
    · -- With a plus, with a minus, or without a sign.
      split at h <;> dsimp only at h <;> split at h <;> cases h
      · exact (List.drop_suffix _ _).trans ((List.suffix_cons _ _).trans (List.suffix_cons _ _))
      · exact (List.drop_suffix _ _).trans ((List.suffix_cons _ _).trans (List.suffix_cons _ _))
      · exact (List.drop_suffix _ _).trans (List.suffix_cons _ _)
    · cases h
  · cases h

/-- Everything that reading a number can come to. -/
theorem number_cases (cs : List Char) :
    number cs = fail .value cs ∨
    (∃ whole, whole <:+: cs ∧ (∀ c ∈ whole, isDigit c = true) ∧ Text.digitLimit < whole.length ∧
      number cs = .error (.hugeInteger whole.length)) ∨
    ∃ v rest, number cs = .ok (v, rest) ∧ Takes cs rest := by
  unfold number
  split
  rename_i negative unsigned hSign
  have hUnsigned : unsigned <:+ cs := by
    split at hSign <;> cases hSign
    · exact List.suffix_cons _ _
    · exact List.suffix_refl _
  cases hWhole : wholeDigits? unsigned with
  | none => exact .inl rfl
  | some whole =>
    obtain ⟨hNonempty, hStart, hDigits⟩ := of_wholeDigits? hWhole
    have hPos := List.length_pos_iff.mpr hNonempty
    have hWholeTaken : Takes cs (unsigned.drop whole.length) := by
      refine ⟨(List.drop_suffix _ _).trans hUnsigned, ?_⟩
      have hLe := hUnsigned.length_le
      have hStartLe := hStart.length_le
      rw [List.length_drop]
      omega
    dsimp only
    generalize hPlaces : (fraction? (unsigned.drop whole.length)).getD
      ([], unsigned.drop whole.length) = found
    obtain ⟨places, rest⟩ := found
    have hTaken : Takes cs rest := by
      cases hFraction : fraction? (unsigned.drop whole.length) with
      | none =>
        rw [hFraction] at hPlaces
        cases hPlaces
        exact hWholeTaken
      | some found =>
        rw [hFraction] at hPlaces
        cases hPlaces
        exact hWholeTaken.of_suffix (suffix_of_fraction? hFraction)
    dsimp only
    cases hExponent : exponent? rest with
    | some found =>
      obtain ⟨power, rest⟩ := found
      exact .inr (.inr ⟨_, _, rfl, hTaken.of_suffix (suffix_of_exponent? hExponent)⟩)
    | none =>
      dsimp only
      split
      · exact .inr (.inr ⟨_, _, rfl, hTaken⟩)
      · split
        · rename_i hHuge
          have hInfix := hStart.isInfix.trans hUnsigned.isInfix
          exact .inr (.inl ⟨whole, hInfix, hDigits, hHuge, rfl⟩)
        · exact .inr (.inr ⟨_, _, rfl, hTaken⟩)

/-- What is read with some fuel is taken off the text, in each of the three ways of reading. -/
structure Taking (fuel : Nat) : Prop where
  value : ∀ {room cs v rest}, value fuel room cs = .ok (v, rest) → Takes cs rest
  items : ∀ {room done cs items rest}, itemsFrom fuel room done cs = .ok (items, rest) →
    Takes cs rest
  pairs : ∀ {room done cs pairs rest}, pairsFrom fuel room done cs = .ok (pairs, rest) →
    Takes cs rest

variable {fuel room : Nat}

/-- What follows a mark, behind the blanks before it. -/
theorem Takes.of_skipBlanks {mark : Char} {less : List Char} (h : Takes cs rest)
    (hMark : skipBlanks rest = mark :: less) : Takes cs less := by
  have hSuffix := skipBlanks_suffix rest
  rw [hMark] at hSuffix
  exact h.of_suffix ((List.suffix_cons mark less).trans hSuffix)

theorem Taking.value_succ {v : Json} (h : Taking fuel)
    (hValue : Reader.value (fuel + 1) room cs = .ok (v, rest)) : Takes cs rest := by
  unfold Reader.value at hValue
  split at hValue
  · obtain ⟨⟨s, rest⟩, hString, hValue⟩ := bind_eq_ok_iff.mp hValue
    cases hValue
    exact takes_of_string hString
  · split at hValue
    · cases hValue
    · split at hValue
      · rename_i hEnd
        cases hValue
        exact (takes_cons _ _).of_skipBlanks hEnd
      · obtain ⟨⟨items, rest⟩, hItems, hValue⟩ := bind_eq_ok_iff.mp hValue
        cases hValue
        exact .of_cons ((h.items hItems).suffix.trans (skipBlanks_suffix _))
  · split at hValue
    · cases hValue
    · split at hValue
      · rename_i hEnd
        cases hValue
        exact (takes_cons _ _).of_skipBlanks hEnd
      · obtain ⟨⟨pairs, rest⟩, hPairs, hValue⟩ := bind_eq_ok_iff.mp hValue
        cases hValue
        exact .of_cons ((h.pairs hPairs).suffix.trans (skipBlanks_suffix _))
  · split at hValue
    · rename_i hWord
      cases hValue
      exact takes_of_word? hWord
    · obtain hFail | ⟨_, -, -, -, hHuge⟩ | ⟨_, _, hNumber, hTakes⟩ := number_cases cs
      · rw [hFail] at hValue
        cases hValue
      · rw [hHuge] at hValue
        cases hValue
      · rw [hNumber] at hValue
        cases hValue
        exact hTakes

theorem Taking.items_succ {done items : List Json} (h : Taking fuel)
    (hItems : itemsFrom (fuel + 1) room done cs = .ok (items, rest)) : Takes cs rest := by
  unfold itemsFrom at hItems
  obtain ⟨⟨v, after⟩, hValue, hItems⟩ := bind_eq_ok_iff.mp hItems
  have hTaken := h.value hValue
  dsimp only at hItems
  split at hItems
  · rename_i hMark
    cases hItems
    exact hTaken.of_skipBlanks hMark
  · rename_i hMark
    have hMore := (h.items hItems).suffix.trans (skipBlanks_suffix _)
    exact (hTaken.of_skipBlanks hMark).of_suffix hMore
  · cases hItems

theorem Taking.pairs_succ {done pairs : List (String × Json)} (h : Taking fuel)
    (hPairs : pairsFrom (fuel + 1) room done cs = .ok (pairs, rest)) : Takes cs rest := by
  unfold pairsFrom at hPairs
  split at hPairs
  · obtain ⟨⟨name, after⟩, hName, hPairs⟩ := bind_eq_ok_iff.mp hPairs
    have hTaken := takes_of_string hName
    dsimp only at hPairs
    split at hPairs
    · rename_i hColon
      obtain ⟨⟨v, behind⟩, hValue, hPairs⟩ := bind_eq_ok_iff.mp hPairs
      have hBehind := (hTaken.of_skipBlanks hColon).of_suffix
        ((h.value hValue).suffix.trans (skipBlanks_suffix _))
      dsimp only at hPairs
      split at hPairs
      · rename_i hMark
        cases hPairs
        exact hBehind.of_skipBlanks hMark
      · rename_i hMark
        have hMore := (h.pairs hPairs).suffix.trans (skipBlanks_suffix _)
        exact (hBehind.of_skipBlanks hMark).of_suffix hMore
      · cases hPairs
    · cases hPairs
  · cases hPairs

theorem taking (fuel : Nat) : Taking fuel := by
  induction fuel with
  | zero =>
    refine ⟨fun h => ?_, fun h => ?_, fun h => ?_⟩
    · cases h
    · cases h
    · cases h
  | succ fuel ih => exact ⟨ih.value_succ, ih.items_succ, ih.pairs_succ⟩

def isOpening (c : Char) : Bool := c == '[' || c == '\x7b'

/-- The reason of a fault is in the text: too many opening brackets, or too many digits in a row. -/
def Explained (room : Nat) (cs : List Char) : ReadFault → Prop
  | .syntaxFault _ => True
  | .tooDeep => room < cs.countP isOpening
  | .hugeInteger digits => Text.digitLimit < digits ∧
      ∃ run, run <:+: cs ∧ run.length = digits ∧ ∀ c ∈ run, isDigit c = true

variable {fault : ReadFault}

theorem Explained.of_suffix (h : Explained room rest fault) (hSuffix : rest <:+ cs) :
    Explained room cs fault := by
  cases fault with
  | syntaxFault fault => trivial
  | tooDeep => exact Nat.lt_of_lt_of_le h hSuffix.sublist.countP_le
  | hugeInteger digits =>
    obtain ⟨hHuge, run, hRun, hLength, hDigits⟩ := h
    exact ⟨hHuge, run, hRun.trans hSuffix.isInfix, hLength, hDigits⟩

/-- A container takes up room, and has an opening bracket. -/
theorem Explained.of_container {c : Char} (hOpening : isOpening c = true)
    (h : Explained room rest fault) (hSuffix : rest <:+ cs) :
    Explained (room + 1) (c :: cs) fault := by
  have hBelow := h.of_suffix hSuffix
  cases fault with
  | syntaxFault fault => trivial
  | tooDeep =>
    rw [Explained, List.countP_cons_of_pos hOpening]
    exact Nat.succ_lt_succ hBelow
  | hugeInteger digits =>
    obtain ⟨hHuge, run, hRun, hLength, hDigits⟩ := hBelow
    exact ⟨hHuge, run, hRun.trans (List.suffix_cons c cs).isInfix, hLength, hDigits⟩

theorem explained_of_fail {α : Type} {cause : SyntaxCause}
    (h : (fail cause rest : Except ReadFault α) = .error fault) : Explained room cs fault := by
  cases h
  trivial

theorem explained_of_unicodeChar (h : unicodeChar rest = .error fault) :
    Explained room cs fault := by
  unfold unicodeChar at h
  split at h
  · exact explained_of_fail h
  · dsimp only at h
    split at h
    · split at h
      · exact explained_of_fail h
      · split at h <;> cases h
    · cases h

theorem explained_of_stringBody {start done less : List Char} {escaped : Nat}
    (h : stringBody start escaped done less = .error fault) : Explained room cs fault := by
  fun_induction stringBody start escaped done less with
  | case1 => exact explained_of_fail h
  | case2 escaped done c less ih => exact ih h
  | case3 => cases h
  | case4 => exact explained_of_fail h
  | case5 done c less hQuote hEscape hHead ih =>
    obtain hUnicode | ⟨⟨plain, size⟩, -, hRest⟩ := bind_eq_error_iff.mp h
    · exact explained_of_unicodeChar hUnicode
    · exact ih plain size hRest
  | case6 done c less hQuote hEscape letter hHead hNotU plain hShort ih => exact ih h
  | case7 => exact explained_of_fail h
  | case8 => exact explained_of_fail h
  | case9 done c less hQuote hEscape hControl ih => exact ih h

theorem explained_of_number (h : number cs = .error fault) : Explained room cs fault := by
  obtain hFail | ⟨whole, hInfix, hDigits, hLong, hHuge⟩ | ⟨_, _, hNumber, -⟩ := number_cases cs
  · rw [hFail] at h
    exact explained_of_fail h
  · rw [hHuge] at h
    cases h
    exact ⟨hLong, whole, hInfix, rfl, hDigits⟩
  · rw [hNumber] at h
    cases h

/-- With fuel enough for the length of the text every fault has its reason in the text. -/
structure Explaining (fuel : Nat) : Prop where
  value : ∀ {room cs fault}, 2 * cs.length + 1 ≤ fuel → value fuel room cs = .error fault →
    Explained room cs fault
  items : ∀ {room done cs fault}, 2 * cs.length + 2 ≤ fuel →
    itemsFrom fuel room done cs = .error fault → Explained room cs fault
  pairs : ∀ {room done cs fault}, 2 * cs.length + 2 ≤ fuel →
    pairsFrom fuel room done cs = .error fault → Explained room cs fault

theorem Explaining.value_succ (h : Explaining fuel) (hFuel : 2 * cs.length + 1 ≤ fuel + 1)
    (hValue : Reader.value (fuel + 1) room cs = .error fault) : Explained room cs fault := by
  unfold Reader.value at hValue
  split at hValue
  · obtain hString | ⟨_, -, hValue⟩ := bind_eq_error_iff.mp hValue
    · exact explained_of_stringBody hString
    · cases hValue
  · rename_i rest
    rw [List.length_cons] at hFuel
    have hLe := (skipBlanks_suffix rest).length_le
    split at hValue
    · cases hValue
      simp [Explained, isOpening]
    · split at hValue
      · cases hValue
      · obtain hItems | ⟨_, -, hValue⟩ := bind_eq_error_iff.mp hValue
        · have hInner := h.items (by omega) hItems
          exact hInner.of_container rfl (skipBlanks_suffix rest)
        · cases hValue
  · rename_i rest
    rw [List.length_cons] at hFuel
    have hLe := (skipBlanks_suffix rest).length_le
    split at hValue
    · cases hValue
      simp [Explained, isOpening]
    · split at hValue
      · cases hValue
      · obtain hPairs | ⟨_, -, hValue⟩ := bind_eq_error_iff.mp hValue
        · have hInner := h.pairs (by omega) hPairs
          exact hInner.of_container rfl (skipBlanks_suffix rest)
        · cases hValue
  · split at hValue
    · cases hValue
    · exact explained_of_number hValue

theorem Explaining.items_succ {done : List Json} (h : Explaining fuel)
    (hFuel : 2 * cs.length + 2 ≤ fuel + 1)
    (hItems : itemsFrom (fuel + 1) room done cs = .error fault) : Explained room cs fault := by
  unfold itemsFrom at hItems
  obtain hValue | ⟨⟨v, after⟩, hValue, hItems⟩ := bind_eq_error_iff.mp hItems
  · exact h.value (by omega) hValue
  · have hTaken := (taking fuel).value hValue
    dsimp only at hItems
    split at hItems
    · cases hItems
    · rename_i rest hMark
      have hBehind := hTaken.of_skipBlanks hMark
      have hLe := (skipBlanks_suffix rest).length_le
      have hLt := hBehind.shorter
      exact (h.items (by omega) hItems).of_suffix
        ((skipBlanks_suffix rest).trans hBehind.suffix)
    · exact explained_of_fail hItems

theorem Explaining.pairs_succ {done : List (String × Json)} (h : Explaining fuel)
    (hFuel : 2 * cs.length + 2 ≤ fuel + 1)
    (hPairs : pairsFrom (fuel + 1) room done cs = .error fault) : Explained room cs fault := by
  unfold pairsFrom at hPairs
  split at hPairs
  · obtain hName | ⟨⟨name, after⟩, hName, hPairs⟩ := bind_eq_error_iff.mp hPairs
    · exact explained_of_stringBody hName
    dsimp only at hPairs
    split at hPairs
    · rename_i colonRest hColon
      have hValueText := ((takes_of_string hName).of_skipBlanks hColon).of_suffix
        (skipBlanks_suffix colonRest)
      have hValueLt := hValueText.shorter
      obtain hValue | ⟨⟨v, behind⟩, hValue, hPairs⟩ := bind_eq_error_iff.mp hPairs
      · exact (h.value (by omega) hValue).of_suffix hValueText.suffix
      have hBehind := hValueText.of_suffix ((taking fuel).value hValue).suffix
      dsimp only at hPairs
      split at hPairs
      · cases hPairs
      · rename_i rest hMark
        have hMore := (hBehind.of_skipBlanks hMark).of_suffix (skipBlanks_suffix rest)
        have hLt := hMore.shorter
        exact (h.pairs (by omega) hPairs).of_suffix hMore.suffix
      · exact explained_of_fail hPairs
    · exact explained_of_fail hPairs
  · exact explained_of_fail hPairs

theorem explaining (fuel : Nat) : Explaining fuel := by
  induction fuel with
  | zero =>
    refine ⟨fun h _ => ?_, fun h _ => ?_, fun h _ => ?_⟩
    · cases h
    · cases h
    · cases h
  | succ fuel ih => exact ⟨ih.value_succ, ih.items_succ, ih.pairs_succ⟩

end Reader

variable {room : Nat} {text : String}

theorem explained_of_read {fault : ReadFault} (h : read room text = .error fault) :
    Reader.Explained room text.toList fault := by
  simp only [read] at h
  split at h
  · exact Reader.explained_of_fail h
  · obtain hValue | ⟨⟨v, rest⟩, -, h⟩ := bind_eq_error_iff.mp h
    · have hSuffix := Reader.skipBlanks_suffix text.toList
      have hLe := hSuffix.length_le
      exact ((Reader.explaining _).value (by omega) hValue).of_suffix hSuffix
    · dsimp only at h
      split at h
      · cases h
      · exact Reader.explained_of_fail h

/-- A text without too many opening brackets and without too many digits in a row is not given
up. -/
theorem not_givenUp (hNesting : text.toList.countP Reader.isOpening ≤ room)
    (hDigits : ∀ run, run <:+: text.toList → (∀ c ∈ run, Reader.isDigit c = true) →
      run.length ≤ Text.digitLimit) : ¬ GivenUp room text := by
  rintro (hDeep | ⟨digits, hHuge⟩)
  · exact Nat.lt_irrefl _ (Nat.lt_of_lt_of_le (explained_of_read hDeep) hNesting)
  · obtain ⟨hLong, run, hInfix, rfl, hRun⟩ := explained_of_read hHuge
    exact Nat.lt_irrefl _ (Nat.lt_of_lt_of_le hLong (hDigits run hInfix hRun))

end SchemaOutline.Json
