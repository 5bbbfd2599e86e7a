import Mathlib.Data.List.Forall2
import SchemaOutline.Proofs.Success
import SchemaOutline.Text.Utf8

/-!
# What the decoder accepts

The other side of the decoder is the standard encoding of a character: bytes are decoded exactly if
they are the characters that come out, encoded one after the other (`decode_eq_ok_iff`). The table
of leading bytes is compared with the encoding once, for one character, in each direction; what
stands before that is about the state of the decoder.
-/

set_option autoImplicit false

namespace SchemaOutline.Text.Utf8

variable {b : UInt8} {bytes : List UInt8} {cs : List Char} {position : Nat}

theorem contains_iff {range : ByteRange} :
    range.contains b = true ↔ range.low.toNat ≤ b.toNat ∧ b.toNat ≤ range.high.toNat := by
  simp [ByteRange.contains, UInt8.le_iff_toNat_le]

/-- A code with six more bits from a byte behind the first one. -/
def shifted (code byte : Nat) : Nat := code * 64 + (byte - 0x80)

/-- The code of a character from what its leading byte says and from the bytes behind it. -/
def codeOf (code : Nat) (tail : List UInt8) : Nat :=
  tail.foldl (fun code b => shifted code b.toNat) code

theorem codeOf_nil (code : Nat) : codeOf code [] = code := rfl

theorem codeOf_cons (code : Nat) (b : UInt8) (tail : List UInt8) :
    codeOf code (b :: tail) = codeOf (shifted code b.toNat) tail := by
  simp only [codeOf, List.foldl_cons]

theorem decodeFrom_awaited (lead : UInt8) (start count code : Nat) (range : ByteRange)
    (awaited : List ByteRange) (rest : List UInt8) :
    decodeFrom position (some ⟨lead, start, count, code, range :: awaited⟩) (b :: rest) =
      if !range.contains b then .error ⟨start, count, lead, .invalidContinuation⟩
      else if awaited.isEmpty then
        (decodeFrom (position + 1) none rest).map (Char.ofNat (shifted code b.toNat) :: ·)
      else
        decodeFrom (position + 1) (some ⟨lead, start, count + 1, shifted code b.toNat, awaited⟩)
          rest := by
  rw [decodeFrom]
  dsimp only [Begun.fault, shifted]

/-- A character that has been begun is read to its end if the awaited bytes follow. -/
theorem decodeFrom_begun_iff {begun : Begun} (hAwaited : begun.awaited ≠ []) :
    decodeFrom position (some begun) bytes = .ok cs ↔
      ∃ tail rest others, bytes = tail ++ rest ∧
        List.Forall₂ (fun range b => range.contains b = true) begun.awaited tail ∧
        cs = Char.ofNat (codeOf begun.code tail) :: others ∧
        decodeFrom (position + tail.length) none rest = .ok others := by
  obtain ⟨lead, start, count, code, awaited⟩ := begun
  dsimp only at hAwaited ⊢
  induction awaited generalizing position bytes count code with
  | nil => exact absurd rfl hAwaited
  | cons range awaited ih =>
    cases bytes with
    | nil => simp [decodeFrom]
    | cons b rest =>
      rw [decodeFrom_awaited]
      cases hRange : range.contains b with
      | false =>
        simp only [Bool.not_false, if_true, reduceCtorEq, false_iff]
        rintro ⟨tail, _, _, hBytes, hTail, -⟩
        cases hTail with
        | cons hHere _ =>
          cases hBytes
          rw [hRange] at hHere
          cases hHere
      | true =>
        cases awaited with
        | nil =>
          simp only [Bool.not_true, Bool.false_eq_true, if_false, List.isEmpty_nil, if_true,
            map_eq_ok_iff, List.forall₂_cons_left_iff, List.forall₂_nil_left_iff]
          constructor
          · rintro ⟨others, hRest, rfl⟩
            refine ⟨[b], rest, others, rfl, ⟨b, [], hRange, rfl, rfl⟩, ?_, hRest⟩
            rw [codeOf_cons, codeOf, List.foldl_nil]
          · rintro ⟨_, _, others, hBytes, ⟨_, _, -, rfl, rfl⟩, rfl, hRest⟩
            cases hBytes
            refine ⟨others, hRest, ?_⟩
            rw [codeOf_cons, codeOf, List.foldl_nil]
        | cons next awaited =>
          simp only [Bool.not_true, Bool.false_eq_true, if_false, List.isEmpty_cons]
          rw [ih _ _ (by simp)]
          constructor
          · rintro ⟨tail, rest, others, rfl, hTail, rfl, hRest⟩
            refine ⟨b :: tail, rest, others, rfl, .cons hRange hTail, by rw [codeOf_cons], ?_⟩
            rwa [List.length_cons, Nat.add_comm tail.length, ← Nat.add_assoc]
          · rintro ⟨_, _, others, hBytes, hTail, rfl, hRest⟩
            cases hTail with
            | @cons _ _ _ tail _ hTail =>
              cases hBytes
              refine ⟨tail, _, others, rfl, hTail, by rw [codeOf_cons], ?_⟩
              rwa [List.length_cons, Nat.add_comm tail.length, ← Nat.add_assoc] at hRest

/-- A character, as its first byte and the bytes behind it, before the rest. -/
theorem decodeFrom_cons_iff :
    decodeFrom position none (b :: bytes) = .ok cs ↔
      ∃ code awaited tail rest others, announced? b = some (code, awaited) ∧ bytes = tail ++ rest ∧
        List.Forall₂ (fun range b => range.contains b = true) awaited tail ∧
        cs = Char.ofNat (codeOf code tail) :: others ∧
        decodeFrom (position + 1 + tail.length) none rest = .ok others := by
  rw [decodeFrom]
  cases hLead : announced? b with
  | none => simp
  | some announced =>
    obtain ⟨code, awaited⟩ := announced
    cases awaited with
    | nil =>
      simp only [map_eq_ok_iff]
      constructor
      · rintro ⟨others, hRest, rfl⟩
        exact ⟨code, [], [], bytes, others, rfl, rfl, .nil, rfl, hRest⟩
      · rintro ⟨_, _, _, _, others, ⟨⟩, hBytes, ⟨⟩, rfl, hRest⟩
        cases hBytes
        exact ⟨others, hRest, rfl⟩
    | cons range awaited =>
      dsimp only
      rw [decodeFrom_begun_iff (by simp)]
      constructor
      · rintro ⟨tail, rest, others, hBytes, hTail, hCs, hRest⟩
        exact ⟨_, _, tail, rest, others, rfl, hBytes, hTail, hCs, hRest⟩
      · rintro ⟨_, _, tail, rest, others, ⟨⟩, hBytes, hTail, hCs, hRest⟩
        exact ⟨tail, rest, others, hBytes, hTail, hCs, hRest⟩

/-- The range of the second of three bytes; overlong forms and surrogates are left out. -/
def secondOfThree (lead : Nat) : ByteRange :=
  if lead = 0xe0 then ⟨0xa0, 0xbf⟩ else if lead = 0xed then ⟨0x80, 0x9f⟩ else continuation

/-- The range of the second of four bytes; overlong forms and codes that are too large are left
out. -/
def secondOfFour (lead : Nat) : ByteRange :=
  if lead = 0xf0 then ⟨0x90, 0xbf⟩ else if lead = 0xf4 then ⟨0x80, 0x8f⟩ else continuation

theorem announced?_eq (b : UInt8) : announced? b =
    if b.toNat < 0x80 then some (b.toNat, [])
    else if b.toNat < 0xc2 then none
    else if b.toNat < 0xe0 then some (b.toNat - 0xc0, [continuation])
    else if b.toNat < 0xf0 then some (b.toNat - 0xe0, [secondOfThree b.toNat, continuation])
    else if b.toNat < 0xf5 then
      some (b.toNat - 0xf0, [secondOfFour b.toNat, continuation, continuation])
    else none := by
  simp [announced?, secondOfThree, secondOfFour, UInt8.lt_iff_toNat_lt, ← UInt8.toNat_inj]

theorem contains_continuation_iff :
    continuation.contains b = true ↔ 0x80 ≤ b.toNat ∧ b.toNat ≤ 0xbf := contains_iff

theorem contains_secondOfThree_iff {lead : Nat} :
    (secondOfThree lead).contains b = true ↔
      0x80 ≤ b.toNat ∧ b.toNat ≤ 0xbf ∧ (lead = 0xe0 → 0xa0 ≤ b.toNat) ∧
        (lead = 0xed → b.toNat ≤ 0x9f) := by
  unfold secondOfThree continuation
  split_ifs <;> simp only [contains_iff, UInt8.reduceToNat] <;> omega

theorem contains_secondOfFour_iff {lead : Nat} :
    (secondOfFour lead).contains b = true ↔
      0x80 ≤ b.toNat ∧ b.toNat ≤ 0xbf ∧ (lead = 0xf0 → 0x90 ≤ b.toNat) ∧
        (lead = 0xf4 → b.toNat ≤ 0x8f) := by
  unfold secondOfFour continuation
  split_ifs <;> simp only [contains_iff, UInt8.reduceToNat] <;> omega

/-- The bytes of a character are a leading byte and what it announces. -/
theorem announced?_of_utf8EncodeChar {c : Char} {tail : List UInt8}
    (h : String.utf8EncodeChar c = b :: tail) :
    ∃ code awaited, announced? b = some (code, awaited) ∧
      List.Forall₂ (fun range b => range.contains b = true) awaited tail ∧
      codeOf code tail = c.toNat := by
  have hValid : c.val.toNat.isValidChar := c.valid
  have hByte {n : Nat} (hLt : n < 256) : (UInt8.ofNat n).toNat = n := UInt8.toNat_ofNat_of_lt' hLt
  have hTail (m : Nat) : continuation.contains (UInt8.ofNat (m % 64 + 128)) = true := by
    rw [contains_continuation_iff, hByte (by omega)]
    omega
  unfold Nat.isValidChar at hValid
  unfold String.utf8EncodeChar at h
  rw [Char.toNat]
  generalize c.val.toNat = n at *
  dsimp only at h
  split at h
  · cases h
    refine ⟨n, [], ?_, .nil, rfl⟩
    rw [announced?_eq, hByte (by omega), if_pos (by omega)]
  split at h
  · cases h
    refine ⟨n / 64 % 32 + 192 - 0xc0, _, ?_, .cons (hTail n) .nil, ?_⟩
    · rw [announced?_eq, hByte (by omega), if_neg (by omega), if_neg (by omega), if_pos (by omega)]
    · rw [codeOf_cons, codeOf_nil, hByte (by omega)]
      unfold shifted
      omega
  split at h
  · cases h
    have hSecond : (secondOfThree (n / 4096 % 16 + 224)).contains
        (UInt8.ofNat (n / 64 % 64 + 128)) = true := by
      rw [contains_secondOfThree_iff, hByte (by omega)]
      omega
    refine ⟨n / 4096 % 16 + 224 - 0xe0, _, ?_, .cons hSecond (.cons (hTail n) .nil), ?_⟩
    · rw [announced?_eq, hByte (by omega), if_neg (by omega), if_neg (by omega), if_neg (by omega),
        if_pos (by omega)]
    · rw [codeOf_cons, codeOf_cons, codeOf_nil, hByte (by omega), hByte (by omega)]
      unfold shifted
      omega
  · cases h
    have hSecond : (secondOfFour (n / 262144 % 8 + 240)).contains
        (UInt8.ofNat (n / 4096 % 64 + 128)) = true := by
      rw [contains_secondOfFour_iff, hByte (by omega)]
      omega
    refine ⟨n / 262144 % 8 + 240 - 0xf0, _, ?_,
      .cons hSecond (.cons (hTail (n / 64)) (.cons (hTail n) .nil)), ?_⟩
    · rw [announced?_eq, hByte (by omega), if_neg (by omega), if_neg (by omega), if_neg (by omega),
        if_neg (by omega), if_pos (by omega)]
    · rw [codeOf_cons, codeOf_cons, codeOf_cons, codeOf_nil, hByte (by omega), hByte (by omega),
        hByte (by omega)]
      unfold shifted
      omega

theorem utf8EncodeChar_ofNat {n : Nat} (h : n.isValidChar) :
    String.utf8EncodeChar (Char.ofNat n) =
      if n ≤ 0x7f then [UInt8.ofNat n]
      else if n ≤ 0x7ff then [UInt8.ofNat (n / 64 % 32 + 192), UInt8.ofNat (n % 64 + 128)]
      else if n ≤ 0xffff then
        [UInt8.ofNat (n / 4096 % 16 + 224), UInt8.ofNat (n / 64 % 64 + 128),
          UInt8.ofNat (n % 64 + 128)]
      else
        [UInt8.ofNat (n / 262144 % 8 + 240), UInt8.ofNat (n / 4096 % 64 + 128),
          UInt8.ofNat (n / 64 % 64 + 128), UInt8.ofNat (n % 64 + 128)] := by
  have hVal : (Char.ofNat n).val.toNat = n := by
    rw [Char.ofNat, dif_pos h]
    rfl
  unfold String.utf8EncodeChar
  dsimp only
  rw [hVal]

/-- A leading byte and what it announces are the bytes of a character. -/
theorem utf8EncodeChar_of_announced? {tail : List UInt8} {code : Nat} {awaited : List ByteRange}
    (hLead : announced? b = some (code, awaited))
    (hTail : List.Forall₂ (fun range b => range.contains b = true) awaited tail) :
    String.utf8EncodeChar (Char.ofNat (codeOf code tail)) = b :: tail := by
  have hByte (b : UInt8) (n : Nat) (h : n = b.toNat) : UInt8.ofNat n = b := by
    rw [h, UInt8.ofNat_toNat]
  rw [announced?_eq] at hLead
  split_ifs at hLead with hOne hNone hTwo hThree hFour
  · obtain ⟨rfl, rfl⟩ := Prod.mk.inj (Option.some.inj hLead)
    cases hTail
    rw [codeOf_nil, utf8EncodeChar_ofNat (.inl (by omega)), if_pos (by omega),
      hByte b _ rfl]
  · obtain ⟨rfl, rfl⟩ := Prod.mk.inj (Option.some.inj hLead)
    obtain ⟨a, _, hA, ⟨⟩, rfl⟩ := List.forall₂_cons_left_iff.mp hTail
    rw [contains_continuation_iff] at hA
    rw [codeOf_cons, codeOf_nil]
    unfold shifted
    generalize hCode : (b.toNat - 0xc0) * 64 + (a.toNat - 0x80) = n
    rw [utf8EncodeChar_ofNat (.inl (by omega)), if_neg (by omega), if_pos (by omega),
      hByte b _ (by omega), hByte a _ (by omega)]
  · obtain ⟨rfl, rfl⟩ := Prod.mk.inj (Option.some.inj hLead)
    obtain ⟨a, _, hA, hThird, rfl⟩ := List.forall₂_cons_left_iff.mp hTail
    obtain ⟨a', _, hA', ⟨⟩, rfl⟩ := List.forall₂_cons_left_iff.mp hThird
    rw [contains_secondOfThree_iff] at hA
    rw [contains_continuation_iff] at hA'
    rw [codeOf_cons, codeOf_cons, codeOf_nil]
    unfold shifted
    generalize hCode :
      ((b.toNat - 0xe0) * 64 + (a.toNat - 0x80)) * 64 + (a'.toNat - 0x80) = n
    have hValid : n.isValidChar := by
      unfold Nat.isValidChar
      omega
    rw [utf8EncodeChar_ofNat hValid, if_neg (by omega), if_neg (by omega), if_pos (by omega),
      hByte b _ (by omega), hByte a _ (by omega), hByte a' _ (by omega)]
  · obtain ⟨rfl, rfl⟩ := Prod.mk.inj (Option.some.inj hLead)
    obtain ⟨a, _, hA, hThird, rfl⟩ := List.forall₂_cons_left_iff.mp hTail
    obtain ⟨a', _, hA', hFourth, rfl⟩ := List.forall₂_cons_left_iff.mp hThird
    obtain ⟨a'', _, hA'', ⟨⟩, rfl⟩ := List.forall₂_cons_left_iff.mp hFourth
    rw [contains_secondOfFour_iff] at hA
    rw [contains_continuation_iff] at hA' hA''
    rw [codeOf_cons, codeOf_cons, codeOf_cons, codeOf_nil]
    unfold shifted
    generalize hCode : (((b.toNat - 0xf0) * 64 + (a.toNat - 0x80)) * 64 + (a'.toNat - 0x80)) * 64 +
      (a''.toNat - 0x80) = n
    have hValid : n.isValidChar := .inr (by omega)
    rw [utf8EncodeChar_ofNat hValid, if_neg (by omega), if_neg (by omega), if_neg (by omega),
      hByte b _ (by omega), hByte a _ (by omega), hByte a' _ (by omega), hByte a'' _ (by omega)]

theorem decodeFrom_eq_ok_iff :
    decodeFrom position none bytes = .ok cs ↔ bytes = cs.flatMap String.utf8EncodeChar := by
  induction cs generalizing position bytes with
  | nil =>
    cases bytes with
    | nil => simp [decodeFrom]
    | cons b bytes => simp [decodeFrom_cons_iff]
  | cons c others ih =>
    rw [List.flatMap_cons]
    cases bytes with
    | nil => simp [decodeFrom, String.utf8EncodeChar_ne_nil]
    | cons b bytes =>
      rw [decodeFrom_cons_iff]
      constructor
      · rintro ⟨code, awaited, tail, rest, _, hLead, rfl, hTail, hCs, hRest⟩
        obtain ⟨rfl, rfl⟩ := List.cons.inj hCs
        rw [utf8EncodeChar_of_announced? hLead hTail, ih.mp hRest, List.cons_append]
      · intro h
        obtain ⟨lead, tail, hChar⟩ :=
          List.exists_cons_of_ne_nil (@String.utf8EncodeChar_ne_nil c)
        rw [hChar, List.cons_append] at h
        obtain ⟨rfl, rfl⟩ := List.cons.inj h
        obtain ⟨code, awaited, hLead, hTail, hCode⟩ := announced?_of_utf8EncodeChar hChar
        exact ⟨code, awaited, tail, _, others, hLead, rfl, hTail,
          by rw [hCode, Char.ofNat_toNat], ih.mpr rfl⟩

/-- Bytes are decoded exactly if they encode the characters that come out. -/
theorem decode_eq_ok_iff : decode bytes = .ok cs ↔ bytes = cs.flatMap String.utf8EncodeChar :=
  decodeFrom_eq_ok_iff

end SchemaOutline.Text.Utf8
