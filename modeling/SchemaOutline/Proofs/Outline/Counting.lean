import Mathlib.Data.List.Forall2
import SchemaOutline.Proofs.Outline.Held
import SchemaOutline.Proofs.Outline.Sketch

/-!
# Counted and drawn entries

The entries of a document are counted on the raw fragments and drawn from their summaries. The two
differ where a combiner declares a type that is no name: its branches are counted with that type and
drawn without it (`CountsFor`), and such a type can hide what is below a branch but adds nothing. So
no more entries are counted than drawn, and equally many where all types of combiners are names
(`exists_count_of_draw`).
-/

set_option autoImplicit false

namespace SchemaOutline

namespace Fragment

variable {fragment counted drawn : Members}

theorem isReference_eq_false_of_has (h : fragment.has "type" = true) :
    isReference fragment = false := by
  simp [isReference, h]

theorem declaresType_eq_false (h : (fragment.get "type").isTruthy = false) {name : String}
    (hName : name ≠ "") : declaresType fragment name = false := by
  unfold declaresType
  cases hType : fragment.get "type" with
  | arr names =>
    rw [hType] at h
    simp_all [Json.isTruthy]
  | str other =>
    rw [hType] at h
    simp_all [Json.isTruthy]
  | _ => rfl

/-- The counted fragment has a type that is no name where the drawn one has none or an empty one. -/
structure Overtyped (counted drawn : Members) : Prop where
  members : ∀ name ≠ "type", counted.get? name = drawn.get? name
  nameless : Nameless (counted.get "type")
  isTruthy : (drawn.get "type").isTruthy = false
  isReference : isReference drawn = false

namespace Overtyped

variable (h : Overtyped counted drawn)
include h

theorem isReference_counted : Fragment.isReference counted = false := by
  apply isReference_eq_false_of_has
  unfold Members.has
  cases hType : counted.get? "type" with
  | some type => rfl
  | none => exact absurd (by simp [Members.get, hType]) h.nameless.1

theorem get {name : String} (hName : name ≠ "type") : counted.get name = drawn.get name :=
  get_congr h.members hName

theorem has {name : String} (hName : name ≠ "type") : counted.has name = drawn.has name := by
  unfold Members.has
  rw [h.members name hName]

theorem combiner? : combiner? counted = combiner? drawn := by
  have hHas : (fun c : Combiner => counted.has c.keyword) = fun c => drawn.has c.keyword := by
    funext c
    exact h.has (by cases c <;> decide)
  unfold Fragment.combiner?
  rw [hHas]

/-- Without a combiner the type of the counted fragment can hide what the drawn one holds, but it
never adds to it. -/
theorem held_cases (room : Nat) (hCombiner : Fragment.combiner? drawn = none) :
    held room counted = .ok ⟨[], 0⟩ ∨ held room counted = held room drawn := by
  have hCounted : Fragment.combiner? counted = none := h.combiner?.trans hCombiner
  have hItems : counted.has "items" = drawn.has "items" := h.has (by decide)
  have hProperties : counted.has "properties" = drawn.has "properties" := h.has (by decide)
  have hPatterns : counted.has "patternProperties" = drawn.has "patternProperties" :=
    h.has (by decide)
  have hArray : declaresType drawn "array" = false := declaresType_eq_false h.isTruthy (by decide)
  cases hKind : structuralKind counted with
  | array =>
    cases hHas : counted.has "items" with
    | true =>
      have hDrawn : structuralKind drawn = .array := by
        simp [structuralKind, hCombiner, ← hItems, hHas]
      exact .inr (held_congr_of_array hKind hDrawn (h.get (by decide)))
    | false =>
      have hNone := Members.get_of_has_eq_false hHas
      rw [held_of_parts fun _ => by rw [hNone]; rfl, Expansion.ofParts_of_array _ _ hKind, hNone]
      exact .inl rfl
  | object =>
    rw [held_of_object hKind]
    cases hHas : counted.has "properties" || counted.has "patternProperties" with
    | true =>
      have hNoItems : counted.has "items" = false := by
        cases hOther : counted.has "items" with
        | false => rfl
        | true => simp [structuralKind, hCounted, hOther] at hKind
      have hDrawn : structuralKind drawn = .object := by
        simp [structuralKind, hCombiner, ← hItems, hNoItems, hArray, ← hProperties, ← hPatterns,
          hHas]
      rw [held_of_object hDrawn, h.get (by decide), h.get (by decide)]
      exact .inr rfl
    | false =>
      rw [Bool.or_eq_false_iff] at hHas
      rw [Members.get_of_has_eq_false hHas.1, Members.get_of_has_eq_false hHas.2]
      exact .inl rfl
  | combiner =>
    obtain ⟨c, hSome⟩ := exists_combiner_of_kind hKind
    rw [hSome] at hCounted
    cases hCounted
  | reference | scalar =>
    rw [held_of_scalar (by rw [hKind]; decide) (by rw [hKind]; decide) (by rw [hKind]; decide)]
    exact .inl rfl

end Overtyped

end Fragment

/-- What is counted where a value is drawn. -/
inductive CountsFor : Json → Json → Prop where
  | same (v : Json) : CountsFor v v
  | overtyped {counted drawn : Members} (h : Fragment.Overtyped counted drawn) :
      CountsFor (.obj counted) (.obj drawn)

namespace CountsFor

open Fragment Expansion

variable {raw shown inherited : Json} {counted drawn : Members} {room : Nat} {id : String}
  {summary : Summary} {expansion : Expansion}

theorem inheriting (h : raw = shown ∨ Nameless raw ∧ shown.isTruthy = false) (v : Json) :
    CountsFor (v.inheriting raw) (v.inheriting shown) := by
  obtain rfl | ⟨hRaw, hShown⟩ := h
  · exact .same _
  cases hMembers : v.members? with
  | none =>
    rw [Json.inheriting_of_members?_eq_none hMembers, Json.inheriting_of_members?_eq_none hMembers]
    exact .same v
  | some fragment =>
    obtain rfl := Json.members?_eq_some_iff.mp hMembers
    cases hType : (fragment.get "type").isTruthy with
    | true =>
      rw [Json.inheriting_of_declines (.inl hType), Json.inheriting_of_declines (.inl hType)]
      exact .same _
    | false =>
      cases hReference : Fragment.isReference fragment with
      | true =>
        rw [Json.inheriting_of_declines (.inr hReference),
          Json.inheriting_of_declines (.inr hReference)]
        exact .same _
      | false =>
        rw [Json.inheriting_of_takes hRaw.1 hType hReference]
        obtain hSame | hSet := Json.inheriting_obj fragment shown
        · rw [hSame]
          refine .overtyped ⟨fun name hName => ?_, ?_, hType, hReference⟩
          · rw [Members.get?_set, if_neg hName]
          · rwa [Members.get_set]
        · rw [hSet]
          refine .overtyped ⟨fun name hName => ?_, ?_, ?_, ?_⟩
          · rw [Members.get?_set, Members.get?_set, if_neg hName, if_neg hName]
          · rwa [Members.get_set]
          · rwa [Members.get_set]
          · apply isReference_eq_false_of_has
            rw [Members.has, Members.get?_set, if_pos rfl, Option.isSome_some]

/-- The types that branches inherit where they are counted and where they are drawn. -/
theorem types_of_combiner {c : Combiner} (h : CountsFor (.obj counted) (.obj drawn))
    (hCombiner : combiner? drawn = some c)
    (hSummary : Summary.ofFragment id drawn inherited = .ok summary) :
    counted.get "type" = summary.typeValue ∨
      Nameless (counted.get "type") ∧ summary.typeValue.isTruthy = false := by
  obtain hType | ⟨hNone, hType⟩ := type_of_combiner hCombiner hSummary
  · cases h with
    | same => exact .inl hType.symm
    | overtyped h => exact .inr ⟨h.nameless, hType ▸ h.isTruthy⟩
  · cases h with
    | same =>
      by_cases hNull : counted.get "type" = .null
      · exact .inl (hNull.trans hType.symm)
      · exact .inr ⟨⟨hNull, hNone⟩, hType ▸ rfl⟩
    | overtyped h => exact .inr ⟨h.nameless, hType ▸ rfl⟩

/-- What the counted fragment holds is nothing at all or counts for what the drawn one lists. -/
theorem exists_held (h : CountsFor (.obj counted) (.obj drawn))
    (hReference : combiner? drawn = none → isReference drawn = false)
    (hSummary : Summary.ofFragment id drawn inherited = .ok summary)
    (hExpansion : ofSummary room summary = .ok expansion) :
    ∃ found, held room counted = .ok found ∧ (found.values = [] ∨
      found.arrays = expansion.arrays ∧ List.Forall₂ CountsFor found.values expansion.values) := by
  cases hCombiner : combiner? drawn with
  | some c =>
    have hCounted : combiner? counted = some c := by
      cases h with
      | same => exact hCombiner
      | overtyped h => exact h.combiner?.trans hCombiner
    have hBranches : counted.get c.keyword = drawn.get c.keyword := by
      cases h with
      | same => rfl
      | overtyped h => exact h.get (by cases c <;> decide)
    have hListed := held_of_branches hCombiner hSummary hExpansion
    refine ⟨_, held_of_combiner hCounted, .inr ⟨(congrArg Held.arrays hListed).symm, ?_⟩⟩
    rw [show expansion.values = _ from congrArg Held.values hListed, hBranches,
      List.forall₂_map_left_iff, List.forall₂_map_right_iff, List.forall₂_same]
    exact fun branch _ => .inheriting (h.types_of_combiner hCombiner hSummary) branch
  | none =>
    have hDrawn := held_of_summary hSummary hExpansion hCombiner (hReference hCombiner)
    have hSame : List.Forall₂ CountsFor expansion.values expansion.values :=
      List.forall₂_same.mpr fun v _ => .same v
    cases h with
    | same => exact ⟨_, hDrawn, .inr ⟨rfl, hSame⟩⟩
    | overtyped h =>
      obtain hHidden | hHeld := h.held_cases room hCombiner
      · exact ⟨_, hHidden, .inl rfl⟩
      · exact ⟨_, hHeld.trans hDrawn, .inr ⟨rfl, hSame⟩⟩

end CountsFor

namespace Estimate

open Fragment

variable {room m n : Nat} {fragment : Members} {v : Json} {values rest : List Json} {p q : Prop}

/-- Counting the values adds as much as `size` at most, and exactly that much if `exact` holds. -/
def AddsUpTo (room : Nat) (values : List Json) (size : Nat) (exact : Prop) : Prop :=
  ∀ total, ∃ count, values.foldlM (countFrom none room) total = .ok (total + count) ∧
    count ≤ size ∧ (exact → count = size)

namespace AddsUpTo

theorem nil : AddsUpTo room [] 0 p := fun _ => ⟨0, rfl, Nat.le_refl 0, fun _ => rfl⟩

theorem mono (h : AddsUpTo room values m p) (hLe : m ≤ n) (hExact : q → p ∧ m = n) :
    AddsUpTo room values n q := by
  intro total
  obtain ⟨count, hCount, hCountLe, hEq⟩ := h total
  refine ⟨count, hCount, Nat.le_trans hCountLe hLe, fun hq => ?_⟩
  obtain ⟨hp, rfl⟩ := hExact hq
  exact hEq hp

theorem cons (hFirst : AddsUpTo room [v] m p) (hRest : AddsUpTo room rest n q) :
    AddsUpTo room (v :: rest) (m + n) (p ∧ q) := by
  intro total
  obtain ⟨first, hFirst, hFirstLe, hFirstEq⟩ := hFirst total
  obtain ⟨others, hRest, hRestLe, hRestEq⟩ := hRest (total + first)
  refine ⟨first + others, ?_, Nat.add_le_add hFirstLe hRestLe, fun ⟨hp, hq⟩ => ?_⟩
  · rw [← List.singleton_append, List.foldlM_append, hFirst, ← Nat.add_assoc]
    exact hRest
  · rw [hFirstEq hp, hRestEq hq]

theorem singleton_iff : AddsUpTo room [v] m p ↔ ∀ total, ∃ count,
    countFrom none room total v = .ok (total + count) ∧ count ≤ m ∧ (p → count = m) := by
  simp [AddsUpTo]

theorem leftOut (h : v.members? = none) : AddsUpTo room [v] 0 p := by
  refine singleton_iff.mpr fun total => ⟨0, ?_, Nat.le_refl 0, fun _ => rfl⟩
  exact countFrom_of_members?_eq_none none room total h

theorem reference (hRoom : callsPerCount ≤ room) (hCombiner : combiner? fragment = none)
    (hReference : isReference fragment = true) :
    AddsUpTo room [.obj fragment] 1 p := by
  refine singleton_iff.mpr fun total => ⟨1, ?_, Nat.le_refl 1, fun _ => rfl⟩
  rw [countFrom, if_neg (Nat.not_lt.mpr hRoom), hCombiner, hReference]
  rfl

theorem ofHeld {found : Held} (hRoom : callsPerCount ≤ room)
    (hReference : combiner? fragment = none → isReference fragment = false)
    (hHeld : held (room - callsPerCount) fragment = .ok found)
    (h : AddsUpTo (found.roomBelow (room - callsPerCount)) found.values n p) :
    AddsUpTo room [.obj fragment] (n + 1) p := by
  refine singleton_iff.mpr fun total => ?_
  obtain ⟨count, hCount, hLe, hEq⟩ := h (total + 1)
  refine ⟨count + 1, ?_, Nat.succ_le_succ hLe, fun hp => by rw [hEq hp]⟩
  have hNoLeaf : ((combiner? fragment).isNone && isReference fragment) = false := by
    cases hCombiner : combiner? fragment with
    | none => simp [hReference hCombiner]
    | some c => rfl
  rw [countFrom, if_neg (Nat.not_lt.mpr hRoom), hNoLeaf, hHeld]
  refine hCount.trans (congrArg Except.ok ?_)
  omega

end AddsUpTo

end Estimate

namespace Yields

open Estimate Fragment

variable {room : Nat} {above : Option String} {level : Int} {location : Location}
  {descents : List Descent} {stock stock' : Stock Unit} {forest : Forest}

theorem size_of_values_eq_nil
    (h : Yields .unlimited room above level location descents stock forest stock')
    (hNil : descents.map Descent.value = []) : forest.size = 0 := by
  obtain rfl := List.map_eq_nil_iff.mp hNil
  cases h
  rfl

/-- One entry and what is below it are counted when all that it lists is, with at least the room
that it is drawn in. -/
theorem addsUpTo_drawn {id : String} {fragment counted : Members} {inherited : Json}
    {summary : Summary} {expansion : Expansion} {below : Forest} {more : Nat}
    (hMore : room + callsPerEntry ≤ more)
    (hCounts : CountsFor (.obj counted) (.obj fragment))
    (hSummary : Summary.ofFragment id fragment inherited = .ok summary)
    (hExpansion : Expansion.ofSummary room summary = .ok expansion)
    (hBelow : Yields .unlimited (expansion.roomBelow room) above level location expansion.descents
      stock below stock')
    (hValues : ∀ left values, expansion.roomBelow room ≤ left →
      List.Forall₂ CountsFor values expansion.values →
      AddsUpTo left values below.size (values = expansion.values ∧ ∀ v ∈ values, v.LendsNames)) :
    AddsUpTo more [.obj counted] (below.size + 1)
      (counted = fragment ∧ (Json.obj counted).LendsNames) := by
  have hFewer : callsPerCount ≤ callsPerEntry := by decide
  have hRoom : callsPerCount ≤ more := by omega
  have hLess : room ≤ more - callsPerCount := by omega
  by_cases hLeaf : combiner? fragment = none ∧ isReference fragment = true
  · obtain ⟨hCombiner, hReference⟩ := hLeaf
    cases hCounts with
    | overtyped h =>
      rw [h.isReference] at hReference
      cases hReference
    | same =>
      have hNil := Expansion.values_eq_nil_of_reference hCombiner hReference hSummary hExpansion
      rw [hBelow.size_of_values_eq_nil hNil]
      exact .reference hRoom hCombiner hReference
  · have hReference : combiner? fragment = none → isReference fragment = false := by
      intro hCombiner
      exact Bool.eq_false_iff.mpr fun hTrue => hLeaf ⟨hCombiner, hTrue⟩
    have hCounted : combiner? counted = none → isReference counted = false := by
      cases hCounts with
      | same => exact hReference
      | overtyped h => exact fun _ => h.isReference_counted
    obtain ⟨found, hHeld, hCases⟩ := hCounts.exists_held hReference hSummary hExpansion
    have hAdds : AddsUpTo (found.roomBelow (more - callsPerCount)) found.values below.size
        (found.values = expansion.values ∧ ∀ v ∈ found.values, v.LendsNames) := by
      obtain hNone | ⟨hArrays, hValuesFor⟩ := hCases
      · rw [hNone]
        refine AddsUpTo.nil.mono (Nat.zero_le _) fun ⟨hNil, _⟩ => ⟨trivial, ?_⟩
        exact (hBelow.size_of_values_eq_nil hNil.symm).symm
      · refine hValues _ _ ?_ hValuesFor
        rw [Expansion.roomBelow, Held.roomBelow, hArrays]
        exact Nat.sub_le_sub_right hLess _
    refine (AddsUpTo.ofHeld hRoom hCounted (held_mono hHeld hLess) hAdds).mono (Nat.le_refl _) ?_
    rintro ⟨rfl, hTypes⟩
    rw [Expansion.held_of_lendsNames hTypes hReference hSummary hExpansion] at hHeld
    cases hHeld
    have hHeld := Expansion.held_of_lendsNames hTypes hReference hSummary hExpansion
    exact ⟨⟨rfl, fun v hMem => hTypes.of_mem_held hHeld hMem⟩, rfl⟩

/-- Whatever counts for the descents that are visited adds up to what they yield. -/
theorem addsUpTo (h : Yields .unlimited room above level location descents stock forest stock')
    {more : Nat} (hMore : room ≤ more) {values : List Json}
    (hValues : List.Forall₂ CountsFor values (descents.map Descent.value)) :
    AddsUpTo more values forest.size
      (values = descents.map Descent.value ∧ ∀ v ∈ values, v.LendsNames) := by
  induction h generalizing more values with
  | done =>
    cases hValues
    exact AddsUpTo.nil
  | @passed room _ _ _ descent _ _ _ _ hValue _ ih =>
    obtain ⟨v, rest, hFirst, hRest, rfl⟩ := List.forall₂_cons_right_iff.mp hValues
    have hLeft : v.members? = none := by
      generalize descent.value = drawn at hFirst hValue
      cases hFirst with
      | same => exact hValue
      | overtyped => cases hValue
    have hNothing : AddsUpTo more [v] 0 True := .leftOut hLeft
    refine (hNothing.cons (ih hMore hRest)).mono (by omega) ?_
    rintro ⟨hEq, hTypes⟩
    rw [List.map_cons, List.cons.injEq] at hEq
    exact ⟨⟨trivial, hEq.2, fun v hMem => hTypes v (List.mem_cons_of_mem _ hMem)⟩, by omega⟩
  | keptOut _ _ _ hJudge => cases hJudge
  | drawn hValue hSummary _ _ hExpansion hBelow _ ihBelow ihRest =>
    obtain ⟨v, rest, hFirst, hRest, rfl⟩ := List.forall₂_cons_right_iff.mp hValues
    rw [hValue] at hFirst
    obtain ⟨counted, rfl⟩ : ∃ counted, v = .obj counted := by
      cases hFirst <;> exact ⟨_, rfl⟩
    have hEntry :=
      addsUpTo_drawn hMore hFirst hSummary hExpansion hBelow fun _ _ hLeft => ihBelow hLeft
    refine (hEntry.cons (ihRest hMore hRest)).mono (Nat.le_of_eq (by rw [Forest.size])) ?_
    rintro ⟨hEq, hTypes⟩
    rw [List.map_cons, List.cons.injEq, hValue, Json.obj.injEq] at hEq
    refine ⟨⟨⟨hEq.1, hTypes _ List.mem_cons_self⟩, hEq.2, ?_⟩, by rw [Forest.size]⟩
    exact fun v hMem => hTypes v (List.mem_cons_of_mem _ hMem)

end Yields

namespace Outline

variable {ids : IdSource} {document : Json} {outline : Outline}

theorem exists_count_of_draw (hDraw : (draw .unlimited () ids document).1 = .ok outline) :
    ∃ count, Estimate.countFrom none callLimit 0 document = .ok count ∧ count ≤ outline.size ∧
      (document.LendsNames → count = outline.size) := by
  obtain ⟨forest, hYields, -, rfl⟩ := exists_forest_of_draw (Prod.ext hDraw rfl)
  have hSize := size_ofForest forest
  have hAdds := hYields.addsUpTo (Nat.le_refl _) (.cons (.same document) .nil)
  obtain ⟨count, hCount, hLe, hEq⟩ := Estimate.AddsUpTo.singleton_iff.mp hAdds 0
  rw [Nat.zero_add] at hCount
  refine ⟨count, hCount, hSize ▸ hLe, fun hLends => ?_⟩
  rw [hSize]
  exact hEq ⟨rfl, by simpa using hLends⟩

/-- The entries of a document that can be drawn can be counted. There are never fewer entries drawn
than counted, and equally many where all types are names. -/
theorem estimate_of_draw (hDraw : (draw .unlimited () ids document).1 = .ok outline) :
    ∃ count, Estimate.entryCount document none = .ok count ∧ count ≤ outline.size ∧
      (document.NamesTypes → count = outline.size) := by
  obtain ⟨count, hCount, hLe, hEq⟩ := exists_count_of_draw hDraw
  refine ⟨count, ?_, hLe, fun hTypes => hEq hTypes.lendsNames⟩
  rw [Estimate.entryCount, hCount]
  rfl

def typedBranches : List Json :=
  [.obj [("properties", .obj [("a", .obj [])])], .obj [("$ref", .str "#")]]

/-- An array whose items are looked through to a combiner with a list of types. -/
def typedItems : Json :=
  .obj [("type", .str "array"),
    ("items", .obj [("type", .arr [.str "object", .str "null"]), ("anyOf", .arr typedBranches)])]

theorem namesTypes_typedItems : typedItems.NamesTypes := by
  have hNull : Json.null.Throughout Fragment.NamesType := .of_members?_eq_none rfl
  have hEmpty : (Json.obj []).Throughout Fragment.NamesType :=
    .of_parts (by rintro _ ⟨⟩) (List.forall_mem_singleton.mpr hNull)
  have hBranches : ∀ branch ∈ typedBranches, branch.Throughout Fragment.NamesType := by
    refine List.forall_mem_cons.mpr
      ⟨.of_parts (by rintro _ ⟨⟩) ?_, List.forall_mem_singleton.mpr ?_⟩
    · exact List.forall_mem_cons.mpr ⟨hNull, List.forall_mem_singleton.mpr hEmpty⟩
    · exact .of_parts (by rintro _ ⟨⟩) (List.forall_mem_singleton.mpr hNull)
  have hItems : ∀ v ∈ typedBranches ++ [.null], v.Throughout Fragment.NamesType :=
    List.forall_mem_append.mpr ⟨hBranches, List.forall_mem_singleton.mpr hNull⟩
  refine Json.Throughout.of_parts (by rintro _ ⟨⟩; rfl) (List.forall_mem_singleton.mpr ?_)
  exact Json.Throughout.of_parts (by rintro _ ⟨⟩; rfl) hItems

theorem estimate_of_draw_typedItems :
    typedItems.NamesTypes ∧ Estimate.entryCount typedItems none = .ok 4 ∧
      ∃ outline, (draw .unlimited () (.numbered "n") typedItems).1 = .ok outline ∧
        outline.size = 4 := by
  have hSize : (draw .unlimited () (.numbered "n") typedItems).1.toOption.map size = some 4 := by
    decide +kernel
  obtain ⟨outline, hDraw, hSize⟩ := exists_ok_of_map_toOption hSize
  obtain ⟨count, hCount, -, hExact⟩ := estimate_of_draw hDraw
  rw [hExact namesTypes_typedItems, hSize] at hCount
  exact ⟨namesTypes_typedItems, hCount, outline, hDraw, hSize⟩

/-- A branch that inherits a type which is no name is counted as an array without items and drawn
with its properties. -/
example :
    let document : Json := .obj [("type", .arr [.str "array", .int 5]),
      ("anyOf", .arr [.obj [("properties", .obj [("a", .obj [])])]])]
    (Estimate.entryCount document none).toOption = some 2 ∧
      (draw .unlimited () (.numbered "n") document).1.toOption.map size = some 3 := by
  decide +kernel

end Outline

end SchemaOutline
