import SchemaOutline.Proofs.Outline.Shallow

/-!
# Counting up to a limit

Counting that stops beyond a limit passes over everything that is left, and it never goes further
than one beyond the limit. So it counts the entries up to there: from the capped total of what has
been counted before (`Estimate.countFrom_capped`), and in the end the capped number of all entries.
-/

set_option autoImplicit false

namespace SchemaOutline.Estimate

/-- A count as far as it shows when the counting stops beyond a limit. -/
def capped (limit count : Nat) : Nat := min count (limit + 1)

variable {limit room total count : Nat} {v document : Json} {values : List Json}

theorem capped_succ (h : total ≤ limit) : capped limit total + 1 = capped limit (total + 1) := by
  unfold capped
  omega

theorem exceeds_capped : exceeds (some limit) (capped limit total) = decide (limit < total) := by
  unfold exceeds capped
  apply decide_eq_decide.mpr
  omega

variable (limit) in
/-- Counting several values up to a limit, if it does so for each of them, counts them all up to the
limit. -/
theorem foldlM_capped
    (hEach : ∀ m n v, countFrom none room m v = .ok n →
      m ≤ n ∧ countFrom (some limit) room (capped limit m) v = .ok (capped limit n))
    (h : values.foldlM (countFrom none room) total = .ok count) :
    total ≤ count ∧
      values.foldlM (countFrom (some limit) room) (capped limit total) =
        .ok (capped limit count) := by
  induction values generalizing total with
  | nil =>
    cases h
    exact ⟨Nat.le_refl _, rfl⟩
  | cons v rest ih =>
    rw [List.foldlM_cons] at h ⊢
    obtain ⟨next, hFirst, h⟩ := bind_eq_ok_iff.mp h
    obtain ⟨hLe, hCapped⟩ := hEach total next v hFirst
    obtain ⟨hRestLe, hRest⟩ := ih h
    exact ⟨Nat.le_trans hLe hRestLe, bind_eq_ok_iff.mpr ⟨_, hCapped, hRest⟩⟩

variable (limit) in
/-- Counting on from a capped total gives the capped count. -/
theorem countFrom_capped (h : countFrom none room total v = .ok count) :
    total ≤ count ∧
      countFrom (some limit) room (capped limit total) v = .ok (capped limit count) := by
  induction room using Nat.strongRecOn generalizing total count v with
  | ind room ih =>
    cases v with
    | obj fragment =>
      rw [countFrom, if_neg (by simp [exceeds])] at h
      rw [countFrom, exceeds_capped]
      by_cases hRoom : room < callsPerCount
      · rw [if_pos hRoom] at h
        cases h
      rw [if_neg hRoom] at h ⊢
      by_cases hExceeds : limit < total
      · -- Beyond the limit nothing is counted any more, and what would be makes no difference.
        have hLe : total ≤ count := by
          split at h
          · cases h
            omega
          · obtain ⟨found, -, h⟩ := bind_eq_ok_iff.mp h
            obtain ⟨hLe, -⟩ := foldlM_capped limit (fun _ _ _ => ih _ (found.roomBelow_lt hRoom)) h
            omega
        refine ⟨hLe, ?_⟩
        rw [if_pos (decide_eq_true hExceeds)]
        unfold capped
        congr 1
        omega
      · rw [if_neg (by simpa using hExceeds), capped_succ (Nat.le_of_not_lt hExceeds)]
        split at h
        · rename_i hReference
          cases h
          rw [if_pos hReference]
          exact ⟨Nat.le_succ _, rfl⟩
        · rename_i hReference
          rw [if_neg hReference]
          obtain ⟨found, hHeld, h⟩ := bind_eq_ok_iff.mp h
          obtain ⟨hLe, hCapped⟩ :=
            foldlM_capped limit (fun _ _ _ => ih _ (found.roomBelow_lt hRoom)) h
          exact ⟨by omega, bind_eq_ok_iff.mpr ⟨found, hHeld, hCapped⟩⟩
    | _ =>
      rw [countFrom_of_members?_eq_none _ _ _ rfl] at h ⊢
      cases h
      exact ⟨Nat.le_refl _, rfl⟩

theorem entryCount_capped (h : entryCount document none = .ok count) (limit : Nat) :
    entryCount document (some limit) = .ok (capped limit count) := by
  obtain ⟨-, hCapped⟩ := countFrom_capped limit (mapError_eq_ok_iff.mp h)
  exact mapError_eq_ok_iff.mpr hCapped

/-- Below a negative limit nothing is counted at all. -/
theorem entryCount_of_neg {limit : Int} (hLimit : limit < 0) :
    entryCount document (some limit) = .ok 0 := by
  apply mapError_eq_ok_iff.mpr
  cases document with
  | obj fragment =>
    have hExceeds : exceeds (some limit) 0 = true := decide_eq_true hLimit
    rw [countFrom, if_pos hExceeds]
  | _ => exact countFrom_of_members?_eq_none _ _ _ rfl

/-- Whether a limit is exceeded can be told from the count that stops beyond it. -/
theorem exists_entryCount_iff (h : entryCount document none = .ok count) (limit : Int) :
    ∃ shown : Nat, entryCount document (some limit) = .ok shown ∧
      (limit < shown ↔ limit < count) := by
  by_cases hLimit : limit < 0
  · exact ⟨0, entryCount_of_neg hLimit, by omega⟩
  · obtain ⟨bound, rfl⟩ := Int.eq_ofNat_of_zero_le (Int.not_lt.mp hLimit)
    refine ⟨capped bound count, entryCount_capped h bound, ?_⟩
    unfold capped
    omega

end SchemaOutline.Estimate
