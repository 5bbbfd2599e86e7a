import Mathlib.Data.List.Forall2
import SchemaOutline.AllOf
import SchemaOutline.Outline.Estimate
import SchemaOutline.Proofs.Fragment.Inheritance

/-!
# Keywords in another order

Two values are rearranged into each other if they differ at most in the order of the keywords in the
fragments they hold (`Json.Rearranged`). Lists keep their order, and so do the entries in maps of
named schemas; plain data stays as it is. Fragments that are rearranged into each other have
matching values under every keyword (`Members.Matches`), and this is all that classifying a fragment
and inheriting a type depend on.
-/

set_option autoImplicit false

namespace SchemaOutline

/-- What stands under a keyword: a schema or a list of schemas, a map of named schemas, or plain
data. -/
inductive Place where
  | schema
  | named
  | plain
deriving Repr, DecidableEq

namespace Fragment

def plainKeywords : List String := Estimate.dataKeywords ++ ["type", "required", "$ref"]

def placeUnder (keyword : String) : Place :=
  if plainKeywords.contains keyword then .plain
  else if Estimate.namedSchemaKeywords.contains keyword then .named
  else .schema

theorem placeUnder_plain : ∀ keyword ∈ plainKeywords, placeUnder keyword = .plain := by decide

theorem placeUnder_named : ∀ keyword ∈ Estimate.namedSchemaKeywords,
    placeUnder keyword = .named := by decide

end Fragment

open Fragment

/-- The second value is the first one with the keywords of its fragments in another order. -/
inductive Json.Rearranged : Place → Json → Json → Prop where
  | same {place : Place} (v : Json) : Rearranged place v v
  | items {place : Place} {xs ys : List Json} (hPlace : place ≠ .plain)
      (hLength : xs.length = ys.length)
      (hItems : ∀ (i : Nat) v w, xs[i]? = some v → ys[i]? = some w → Rearranged .schema v w) :
      Rearranged place (.arr xs) (.arr ys)
  | named {xs ys : Members} (hNames : xs.names = ys.names)
      (hValues : ∀ (i : Nat) v w, xs.values[i]? = some v → ys.values[i]? = some w →
        Rearranged .schema v w) :
      Rearranged .named (.obj xs) (.obj ys)
  | fragment {first second : Members}
      (hKeywords : ∀ keyword, first.has keyword = second.has keyword)
      (hValues : ∀ keyword v w, first.get? keyword = some v → second.get? keyword = some w →
        Rearranged (placeUnder keyword) v w) :
      Rearranged .schema (.obj first) (.obj second)

theorem forall₂_iff_getElem? {α β : Type} {R : α → β → Prop} {xs : List α} {ys : List β} :
    List.Forall₂ R xs ys ↔
      xs.length = ys.length ∧ ∀ (i : Nat) a b, xs[i]? = some a → ys[i]? = some b → R a b := by
  rw [List.forall₂_iff_get]
  refine and_congr_right fun _ => ?_
  constructor
  · intro h i a b hFirst hSecond
    obtain ⟨hLt, rfl⟩ := List.getElem?_eq_some_iff.mp hFirst
    obtain ⟨hLt', rfl⟩ := List.getElem?_eq_some_iff.mp hSecond
    exact h i hLt hLt'
  · intro h i hLt hLt'
    exact h i _ _ (List.getElem?_eq_getElem hLt) (List.getElem?_eq_getElem hLt')

theorem exists_of_mem_right {α β : Type} {R : α → β → Prop} {xs : List α} {ys : List β} {b : β}
    (h : List.Forall₂ R xs ys) (hMem : b ∈ ys) : ∃ a ∈ xs, R a b := by
  induction h with
  | nil => cases hMem
  | cons hFirst _ ih =>
    rcases List.mem_cons.mp hMem with rfl | hMem
    · exact ⟨_, List.mem_cons_self, hFirst⟩
    · obtain ⟨a, hLeft, hRel⟩ := ih hMem
      exact ⟨a, List.mem_cons_of_mem _ hLeft, hRel⟩

theorem exists_getElem? {α β : Type} {xs : List α} {ys : List β} (hLength : xs.length = ys.length)
    {b : β} (h : b ∈ ys) : ∃ (i : Nat) (a : α), xs[i]? = some a ∧ ys[i]? = some b := by
  obtain ⟨i, hRight⟩ := List.getElem?_of_mem h
  obtain ⟨hLt, -⟩ := List.getElem?_eq_some_iff.mp hRight
  exact ⟨i, xs[i], List.getElem?_eq_getElem (hLength ▸ hLt), hRight⟩

section

variable {α β γ δ : Type} {R : α → β → Prop} {S : γ → δ → Prop} {x : Option α} {y : Option β}

theorem rel_cases (h : Option.Rel R x y) :
    x = none ∧ y = none ∨ ∃ a b, x = some a ∧ y = some b ∧ R a b := by
  cases h with
  | none => exact .inl ⟨rfl, rfl⟩
  | some hRel => exact .inr ⟨_, _, rfl, rfl, hRel⟩

theorem isSome_eq_of_rel (h : Option.Rel R x y) : x.isSome = y.isSome := by
  cases h <;> rfl

theorem eq_none_of_rel (h : Option.Rel R x y) (hNone : x = none) : y = none := by
  subst hNone
  cases h
  rfl

theorem exists_of_rel_some {a : α} (h : Option.Rel R x y) (hSome : x = some a) :
    ∃ b, y = some b ∧ R a b := by
  subst hSome
  cases h with
  | some hRel => exact ⟨_, rfl, hRel⟩

theorem rel_bind {f : α → Option γ} {g : β → Option δ} (h : Option.Rel R x y)
    (hStep : ∀ a b, R a b → Option.Rel S (f a) (g b)) : Option.Rel S (x.bind f) (y.bind g) := by
  cases h with
  | none => exact .none
  | some hRel => exact hStep _ _ hRel

theorem rel_getD {a : α} {b : β} (h : Option.Rel R x y) (hDefault : R a b) :
    R (x.getD a) (y.getD b) := by
  cases h with
  | none => exact hDefault
  | some hRel => exact hRel

end

namespace Members

open Json

/-- Under every keyword both fragments have values that are rearranged into each other, or neither
has any. -/
def Matches (first second : Members) : Prop :=
  ∀ keyword, Option.Rel (Rearranged (placeUnder keyword)) (first.get? keyword)
    (second.get? keyword)

/-- Two maps have the same names in the same order, and under them schemas that are rearranged into
each other. -/
def Aligned (xs ys : Members) : Prop :=
  List.Forall₂ (fun x y => x.1 = y.1 ∧ Rearranged .schema x.2 y.2) xs ys

theorem exists_get?_of_mem {first second : Members} {keyword : String} {w : Json}
    (hKeywords : ∀ keyword, first.has keyword = second.has keyword)
    (hNames : (obj second).NoDuplicates) (h : (keyword, w) ∈ second) :
    ∃ v, first.get? keyword = some v ∧ second.get? keyword = some w := by
  have hRight := get?_of_mem hNames.names h
  have hHas := hKeywords keyword
  unfold has at hHas
  rw [hRight] at hHas
  obtain ⟨v, hLeft⟩ := Option.isSome_iff_exists.mp hHas
  exact ⟨v, hLeft, hRight⟩

theorem length_values_eq {xs ys : Members} (h : xs.names = ys.names) :
    xs.values.length = ys.values.length := by
  have hLength := congrArg List.length h
  simpa [names, values] using hLength

theorem aligned_iff {xs ys : Members} :
    xs.Aligned ys ↔ xs.names = ys.names ∧
      List.Forall₂ (Rearranged .schema) xs.values ys.values := by
  unfold Aligned names values
  induction xs generalizing ys with
  | nil => cases ys <;> simp
  | cons x rest ih =>
    cases ys with
    | nil => simp
    | cons y others =>
      simp only [List.forall₂_cons, List.map_cons, List.cons.injEq, ih]
      tauto

end Members

namespace Json.Rearranged

open Members

variable {place : Place} {v w : Json} {first second : Members}

theorem symm (h : Rearranged place v w) : Rearranged place w v := by
  induction h with
  | same v => exact .same v
  | items hPlace hLength _ ih =>
    exact .items hPlace hLength.symm fun i v w hFirst hSecond => ih i w v hSecond hFirst
  | named hNames _ ih =>
    exact .named hNames.symm fun i v w hFirst hSecond => ih i w v hSecond hFirst
  | fragment hKeywords _ ih =>
    exact .fragment (fun keyword => (hKeywords keyword).symm)
      fun keyword v w hFirst hSecond => ih keyword w v hSecond hFirst

/-! ### What values that are rearranged into each other have in common -/

theorem items? (h : Rearranged place v w) (hPlace : place ≠ .plain) :
    Option.Rel (List.Forall₂ (Rearranged .schema)) v.items? w.items? := by
  cases h with
  | same =>
    cases v.items? with
    | none => exact .none
    | some items => exact .some (List.forall₂_same.mpr fun item _ => .same item)
  | items _ hLength hItems => exact .some (forall₂_iff_getElem?.mpr ⟨hLength, hItems⟩)
  | named | fragment => exact .none

theorem members? (h : Rearranged .schema v w) :
    Option.Rel Members.Matches v.members? w.members? := by
  cases h with
  | same =>
    cases v.members? with
    | none => exact .none
    | some fragment =>
      refine .some fun keyword => ?_
      cases fragment.get? keyword with
      | none => exact .none
      | some v => exact .some (.same v)
  | items => exact .none
  | @fragment first second hKeywords hValues =>
    refine .some fun keyword => ?_
    have hHas := hKeywords keyword
    unfold has at hHas
    cases hFirst : first.get? keyword with
    | none =>
      cases hSecond : second.get? keyword with
      | none => exact .none
      | some w => simp [hFirst, hSecond] at hHas
    | some v =>
      cases hSecond : second.get? keyword with
      | none => simp [hFirst, hSecond] at hHas
      | some w => exact .some (hValues keyword v w hFirst hSecond)

theorem named? (h : Rearranged .named v w) : Option.Rel Members.Aligned v.members? w.members? := by
  cases h with
  | same =>
    cases v.members? with
    | none => exact .none
    | some xs => exact .some (List.forall₂_same.mpr fun x _ => ⟨rfl, .same x.2⟩)
  | items => exact .none
  | @named xs ys hNames hValues =>
    have hAligned := forall₂_iff_getElem?.mpr ⟨length_values_eq hNames, hValues⟩
    exact .some (aligned_iff.mpr ⟨hNames, hAligned⟩)

theorem eq_of_plain (h : Rearranged .plain v w) : v = w := by
  cases h with
  | same => rfl
  | items hPlace => exact absurd rfl hPlace

theorem to_schema (h : Rearranged place v w) (hPlace : place ≠ .plain)
    (hMembers : v.members? = none) : Rearranged .schema v w := by
  cases h with
  | same => exact .same _
  | items _ hLength hItems => exact .items (by decide) hLength hItems
  | named | fragment => cases hMembers

/-- Values that are rearranged into each other are both fragments or both lists, or they are the
same. -/
theorem cases (h : Rearranged .schema v w) :
    (∃ first second : Members, v = .obj first ∧ w = .obj second ∧ first.Matches second) ∨
    (∃ xs ys, v = .arr xs ∧ w = .arr ys ∧ List.Forall₂ (Rearranged .schema) xs ys) ∨
    v = w ∧ v.members? = none ∧ v.items? = none := by
  obtain ⟨hNone, -⟩ | ⟨first, second, hFirst, hSecond, hMatches⟩ := rel_cases h.members?
  · obtain ⟨hNone', -⟩ | ⟨xs, ys, hLeft, hRight, hItems⟩ := rel_cases (h.items? (by decide))
    · cases h with
      | same => exact .inr (.inr ⟨rfl, hNone, hNone'⟩)
      | items => cases hNone'
      | fragment => cases hNone
    · exact .inr (.inl ⟨xs, ys, items?_eq_some_iff.mp hLeft, items?_eq_some_iff.mp hRight, hItems⟩)
  · exact .inl ⟨first, second, members?_eq_some_iff.mp hFirst, members?_eq_some_iff.mp hSecond,
      hMatches⟩

theorem of_matches (h : first.Matches second) : Rearranged .schema (.obj first) (.obj second) := by
  apply fragment
  · exact fun keyword => isSome_eq_of_rel (h keyword)
  · intro keyword v w hFirst hSecond
    obtain ⟨_, hOther, hRel⟩ := exists_of_rel_some (h keyword) hFirst
    rw [hSecond] at hOther
    cases hOther
    exact hRel

theorem of_forall₂ {xs ys : List Json} (hPlace : place ≠ .plain)
    (h : List.Forall₂ (Rearranged .schema) xs ys) : Rearranged place (.arr xs) (.arr ys) :=
  .items hPlace h.length_eq (forall₂_iff_getElem?.mp h).2

theorem of_aligned {xs ys : Members} (h : xs.Aligned ys) :
    Rearranged .named (.obj xs) (.obj ys) := by
  obtain ⟨hNames, hValues⟩ := aligned_iff.mp h
  exact .named hNames (forall₂_iff_getElem?.mp hValues).2

/-- Two fragments are rearranged into each other if they have the same keywords, and under each
keyword values that are. -/
theorem of_members (hNames : first.names.Perm second.names)
    (hValues : ∀ member ∈ first, ∀ other ∈ second, other.1 = member.1 →
      Rearranged (placeUnder member.1) member.2 other.2) :
    Rearranged .schema (.obj first) (.obj second) := by
  apply fragment
  · intro keyword
    rw [Bool.eq_iff_iff, has_iff, has_iff, hNames.mem_iff]
  · intro keyword v w hLeft hRight
    exact hValues _ (mem_of_get? hLeft) _ (mem_of_get? hRight) rfl

/-- The members of a fragment may be written in any order. -/
theorem of_perm (hNames : first.names.Nodup) (h : first.Perm second) :
    Rearranged .schema (.obj first) (.obj second) := by
  apply of_members (h.map Prod.fst)
  rintro ⟨keyword, v⟩ hMem ⟨_, w⟩ hOther ⟨⟩
  have hLeft := get?_of_mem hNames hMem
  have hRight := get?_of_mem hNames (h.mem_iff.mpr hOther)
  rw [hLeft] at hRight
  cases hRight
  exact .same v

/-- Two members may change places, and their values may be rearranged as well. -/
theorem of_swapped {keyword name : String} {v' w' : Json} (hNe : keyword ≠ name)
    (hValue : Rearranged (placeUnder keyword) v v') (hOther : Rearranged (placeUnder name) w w') :
    Rearranged .schema (.obj [(keyword, v), (name, w)]) (.obj [(name, w'), (keyword, v')]) := by
  have hNames : (Members.names [(keyword, v), (name, w)]).Perm
      (Members.names [(name, w'), (keyword, v')]) := .swap ..
  apply of_members hNames
  simp only [List.mem_cons, List.not_mem_nil, or_false]
  rintro _ (rfl | rfl) _ (rfl | rfl) hName
  · exact absurd hName.symm hNe
  · exact hValue
  · exact hOther
  · exact absurd hName hNe

end Json.Rearranged

namespace Members.Matches

open Json

variable {first second : Members} {keyword : String}

theorem refl (fragment : Members) : fragment.Matches fragment := by
  intro keyword
  cases fragment.get? keyword with
  | none => exact .none
  | some v => exact .some (.same v)

theorem has_eq (h : first.Matches second) (keyword : String) :
    first.has keyword = second.has keyword :=
  isSome_eq_of_rel (h keyword)

theorem get (h : first.Matches second) (keyword : String) :
    Rearranged (placeUnder keyword) (first.get keyword) (second.get keyword) :=
  rel_getD (h keyword) (.same .null)

theorem get_eq (h : first.Matches second) (hPlain : keyword ∈ plainKeywords) :
    first.get keyword = second.get keyword := by
  have hRel := h.get keyword
  rw [placeUnder_plain keyword hPlain] at hRel
  exact hRel.eq_of_plain

theorem set (h : first.Matches second) {v w : Json} (hValue : Rearranged (placeUnder keyword) v w) :
    (first.set keyword v).Matches (second.set keyword w) := by
  intro name
  rw [get?_set, get?_set]
  split
  · rename_i hName
    exact .some (hName ▸ hValue)
  · exact h name

theorem erase (h : first.Matches second) (keyword : String) :
    (first.erase keyword).Matches (second.erase keyword) := by
  intro name
  rw [get?_erase, get?_erase]
  split
  · exact .none
  · exact h name

end Members.Matches

/-! ### Classifying fragments -/

namespace Fragment

open Json

variable {first second : Members}

theorem combiner?_eq (h : first.Matches second) : combiner? first = combiner? second := by
  simp only [combiner?, h.has_eq]

theorem declaresType_eq (h : first.Matches second) (name : String) :
    declaresType first name = declaresType second name := by
  rw [declaresType, h.get_eq (by decide), declaresType]

theorem structuralKind_eq (h : first.Matches second) :
    structuralKind first = structuralKind second := by
  simp only [structuralKind, combiner?_eq h, declaresType_eq h, h.has_eq]

theorem isReference_eq (h : first.Matches second) : isReference first = isReference second := by
  rw [isReference, h.get_eq (by decide), h.has_eq, isReference]

theorem branches_rearranged (h : first.Matches second) (c : Combiner) :
    List.Forall₂ (Rearranged .schema) ((first.get c.keyword).items?.getD [])
      ((second.get c.keyword).items?.getD []) :=
  rel_getD ((h.get c.keyword).items? (by cases c <;> decide)) .nil

theorem items_rearranged (h : first.Matches second) :
    Rearranged .schema (first.get "items") (second.get "items") := h.get "items"

theorem named_aligned (h : first.Matches second) {keyword : String}
    (hKeyword : keyword ∈ Estimate.namedSchemaKeywords) :
    Option.Rel Members.Aligned (first.get keyword).members? (second.get keyword).members? := by
  have hRel := h.get keyword
  rw [placeUnder_named keyword hKeyword] at hRel
  exact hRel.named?

end Fragment

/-- A type is plain data, and a branch takes it over whatever the order of its keywords. -/
theorem Json.Rearranged.inheriting {v w : Json} (h : Rearranged .schema v w) (inherited : Json) :
    Rearranged .schema (v.inheriting inherited) (w.inheriting inherited) := by
  obtain ⟨first, second, rfl, rfl, hMatches⟩ | ⟨xs, ys, rfl, rfl, -⟩ | ⟨rfl, -⟩ := h.cases
  · have hType : (first.set "type" inherited).Matches (second.set "type" inherited) :=
      hMatches.set (.same inherited)
    simp only [Json.inheriting, inheriting?, Json.members?, Option.bind_some, withInherited?,
      hMatches.get_eq (show "type" ∈ plainKeywords by decide), isReference_eq hMatches]
    split
    · exact h
    · exact .of_matches hType
  · exact h
  · exact .same _

end SchemaOutline
