import Mathlib.Data.List.Forall2
import SchemaOutline.Failure

/-!
# When what can fail succeeds

A computation that can fail succeeds exactly if each of its steps does. These lemmas take a success
apart into those of the steps, so that no proof has to go through the failures.
-/

set_option autoImplicit false

namespace SchemaOutline

theorem bind_eq_ok_iff {ε α β : Type} {x : Except ε α} {f : α → Except ε β} {b : β} :
    (x >>= f) = .ok b ↔ ∃ a, x = .ok a ∧ f a = .ok b := by
  cases x with
  | error failure => simp [bind, Except.bind]
  | ok a => simp [bind, Except.bind]

theorem bind_eq_error_iff {ε α β : Type} {x : Except ε α} {f : α → Except ε β} {failure : ε} :
    (x >>= f) = .error failure ↔ x = .error failure ∨ ∃ a, x = .ok a ∧ f a = .error failure := by
  cases x with
  | error failure => simp [bind, Except.bind]
  | ok a => simp [bind, Except.bind]

theorem map_eq_ok_iff {ε α β : Type} {x : Except ε α} {f : α → β} {b : β} :
    x.map f = .ok b ↔ ∃ a, x = .ok a ∧ f a = b := by
  cases x with
  | error failure => simp [Except.map]
  | ok a => simp [Except.map]

@[simp]
theorem mapError_eq_ok_iff {ε δ α : Type} {x : Except ε α} {f : ε → δ} {a : α} :
    x.mapError f = .ok a ↔ x = .ok a := by
  cases x with
  | error failure => constructor <;> nofun
  | ok a =>
    -- The two equations are about different types of failures.
    constructor <;>
    · rintro ⟨⟩
      rfl

theorem anyM_eq_ok_false_iff {α : Type} {f : α → Except Failure Bool} {l : List α} :
    l.anyM f = .ok false ↔ ∀ a ∈ l, f a = .ok false := by
  induction l with
  | nil => simp [pure, Except.pure]
  | cons a rest ih =>
    rw [List.anyM_cons]
    cases hFirst : f a with
    | error failure => simp [bind, Except.bind, hFirst]
    | ok found => cases found <;> simp [bind, Except.bind, pure, Except.pure, hFirst, ih]

theorem mapM_eq_ok_iff {ε α β : Type} {f : α → Except ε β} {l : List α} {results : List β} :
    l.mapM f = .ok results ↔ List.Forall₂ (fun a b => f a = .ok b) l results := by
  induction l generalizing results with
  | nil =>
    rw [List.mapM_nil, List.forall₂_nil_left_iff]
    constructor
    · rintro ⟨⟩
      rfl
    · rintro rfl
      rfl
  | cons a rest ih =>
    simp only [List.mapM_cons, bind_eq_ok_iff, ih, List.forall₂_cons_left_iff]
    constructor
    · rintro ⟨b, hFirst, others, hRest, ⟨⟩⟩
      exact ⟨b, others, hFirst, hRest, rfl⟩
    · rintro ⟨b, others, hFirst, hRest, rfl⟩
      exact ⟨b, hFirst, others, hRest, rfl⟩

theorem mapM_eq_none_iff {α β : Type} {f : α → Option β} {l : List α} :
    l.mapM f = none ↔ ∃ a ∈ l, f a = none := by
  induction l with
  | nil => simp
  | cons a rest ih =>
    rw [List.mapM_cons]
    cases hFirst : f a with
    | none => simp [hFirst]
    | some b =>
      simp only [Option.bind_eq_bind, Option.bind_some, List.mem_cons, exists_eq_or_imp, hFirst,
        reduceCtorEq, false_or, ← ih]
      cases rest.mapM f <;> simp

theorem mapM_map_eq_some {α β γ : Type} {f : β → Option γ} {g : α → β} {k : α → γ} {l : List α}
    (h : ∀ a ∈ l, f (g a) = some (k a)) : (l.map g).mapM f = some (l.map k) := by
  induction l with
  | nil => rfl
  | cons a rest ih =>
    rw [List.map_cons, List.mapM_cons, h a List.mem_cons_self,
      ih fun b hMem => h b (List.mem_cons_of_mem _ hMem)]
    rfl

theorem exists_result_of_mem {ε α β : Type} {f : α → Except ε β} {l : List α} {results : List β}
    (h : l.mapM f = .ok results) {a : α} (hMem : a ∈ l) : ∃ b ∈ results, f a = .ok b := by
  induction mapM_eq_ok_iff.mp h with
  | nil => cases hMem
  | cons hFirst hRest ih =>
    rcases List.mem_cons.mp hMem with rfl | hMem
    · exact ⟨_, List.mem_cons_self, hFirst⟩
    · obtain ⟨b, hResult, hOk⟩ := ih (mapM_eq_ok_iff.mpr hRest) hMem
      exact ⟨b, List.mem_cons_of_mem _ hResult, hOk⟩

theorem exists_of_mem_results {ε α β : Type} {f : α → Except ε β} {l : List α} {results : List β}
    (h : l.mapM f = .ok results) {b : β} (hMem : b ∈ results) : ∃ a ∈ l, f a = .ok b := by
  induction mapM_eq_ok_iff.mp h with
  | nil => cases hMem
  | cons hFirst hRest ih =>
    rcases List.mem_cons.mp hMem with rfl | hMem
    · exact ⟨_, List.mem_cons_self, hFirst⟩
    · obtain ⟨a, hItem, hOk⟩ := ih (mapM_eq_ok_iff.mpr hRest) hMem
      exact ⟨a, List.mem_cons_of_mem _ hItem, hOk⟩

theorem exists_mem_of_mapM_eq_error {ε α β : Type} {f : α → Except ε β} {l : List α} {failure : ε}
    (h : l.mapM f = .error failure) : ∃ a ∈ l, f a = .error failure := by
  induction l with
  | nil => cases h
  | cons a rest ih =>
    rw [List.mapM_cons, bind_eq_error_iff] at h
    obtain hFirst | ⟨b, -, h⟩ := h
    · exact ⟨a, List.mem_cons_self, hFirst⟩
    · obtain hRest | ⟨_, -, ⟨⟩⟩ := bind_eq_error_iff.mp h
      obtain ⟨c, hMem, hFailure⟩ := ih hRest
      exact ⟨c, List.mem_cons_of_mem a hMem, hFailure⟩

/-- A fold of steps that all succeed, whatever they start from, succeeds. -/
theorem exists_foldlM {α β : Type} {f : β → α → Except Failure β} {l : List α}
    (h : ∀ a ∈ l, ∀ b, ∃ next, f b a = .ok next) (start : β) :
    ∃ result, l.foldlM f start = .ok result := by
  induction l generalizing start with
  | nil => exact ⟨start, rfl⟩
  | cons a rest ih =>
    obtain ⟨next, hFirst⟩ := h a List.mem_cons_self start
    rw [List.foldlM_cons, hFirst]
    exact ih (fun b hMem => h b (List.mem_cons_of_mem _ hMem)) next

theorem exists_anyM {α : Type} {f : α → Except Failure Bool} {l : List α}
    (h : ∀ a ∈ l, ∃ found, f a = .ok found) : ∃ found, l.anyM f = .ok found := by
  induction l with
  | nil => exact ⟨false, rfl⟩
  | cons a rest ih =>
    obtain ⟨first, hFirst⟩ := h a List.mem_cons_self
    obtain ⟨found, hRest⟩ := ih fun b hMem => h b (List.mem_cons_of_mem _ hMem)
    rw [List.anyM_cons, hFirst]
    cases first with
    | true => exact ⟨true, rfl⟩
    | false => exact ⟨found, hRest⟩

/-- If all that can be found out fails in one way at most, so does finding out about a list. -/
theorem anyM_cases {α : Type} {f : α → Except Failure Bool} {l : List α} {failure : Failure}
    (h : ∀ a ∈ l, (∃ found, f a = .ok found) ∨ f a = .error failure) :
    (∃ found, l.anyM f = .ok found) ∨ l.anyM f = .error failure := by
  induction l with
  | nil => exact .inl ⟨false, rfl⟩
  | cons a rest ih =>
    rw [List.anyM_cons]
    obtain ⟨first, hFirst⟩ | hFirst := h a List.mem_cons_self
    · rw [hFirst]
      cases first with
      | true => exact .inl ⟨true, rfl⟩
      | false => exact ih fun b hMem => h b (List.mem_cons_of_mem _ hMem)
    · rw [hFirst]
      exact .inr rfl

/-- A result that shows something of its value is a success. -/
theorem exists_ok_of_map_toOption {α β : Type} {x : Except Failure α} {f : α → β} {b : β}
    (h : x.toOption.map f = some b) : ∃ a, x = .ok a ∧ f a = b := by
  cases x with
  | error failure => cases h
  | ok a => exact ⟨a, rfl, Option.some.inj h⟩

end SchemaOutline
