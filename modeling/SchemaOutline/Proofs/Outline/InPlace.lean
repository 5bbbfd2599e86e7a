import SchemaOutline.Proofs.Fragment.Typing
import SchemaOutline.Proofs.Identifier
import SchemaOutline.Proofs.Outline.Relocation
import SchemaOutline.Proofs.Outline.Room

/-!
# Items expanded in place

An array with a single schema for its items is drawn like that schema itself: the same entries, but
at locations that lead through `items`. The schema is read again from its keywords there, and its
own entry would be read from its summary; the two agree on everything but a type of a combiner that
is no name. The array itself takes up room while all that is below it is drawn
(`Expansion.ofSummary_arrayOf`), and so it may be one too many wherever in the schema the room runs
out (`Outline.draw_arrayOf`).
-/

set_option autoImplicit false

namespace SchemaOutline

namespace Fragment

/-- The schema of an array whose items all have a given schema. -/
def arrayOf (fragment : Members) : Members := [("items", .obj fragment)]

variable {fragment : Members}

theorem get?_arrayOf (name : String) :
    (arrayOf fragment).get? name = if name = "items" then some (.obj fragment) else none := by
  rw [arrayOf, Members.get?_cons]
  rfl

theorem get_arrayOf (name : String) :
    (arrayOf fragment).get name = if name = "items" then .obj fragment else .null := by
  rw [Members.get, get?_arrayOf]
  split <;> rfl

theorem combiner?_arrayOf : combiner? (arrayOf fragment) = none := by
  simp [combiner?, Combiner.all, Combiner.keyword, Members.has, get?_arrayOf]

theorem structuralKind_arrayOf : structuralKind (arrayOf fragment) = .array := by
  simp [structuralKind, combiner?_arrayOf, Members.has, get?_arrayOf]

theorem isReference_arrayOf : isReference (arrayOf fragment) = false := by
  simp [isReference, get_arrayOf, Json.text?]

theorem target_arrayOf :
    target (arrayOf fragment) = ((target fragment).1 + 1, (target fragment).2) :=
  target_of_items structuralKind_arrayOf (get_arrayOf "items")

end Fragment

namespace Summary

def ofArrayOf (id : String) (fragment : Members) : Summary :=
  ⟨id, some (.one "array"), none, [], [], .array (.obj fragment) .null⟩

theorem ofFragment_arrayOf (id : String) (fragment : Members) (inherited : Json) :
    ofFragment id (Fragment.arrayOf fragment) inherited = .ok (ofArrayOf id fragment) := by
  have hAnnotations : annotationsOf (Fragment.arrayOf fragment) = [] := by
    have hExtension : isExtension "items" = false := by decide
    simp [annotationsOf, pick, annotationKeywords, Fragment.get?_arrayOf]
    simp [Fragment.arrayOf, hExtension]
  have hValidations : validationsOf (Fragment.arrayOf fragment) = [] := by
    simp [validationsOf, pick, validationKeywords, Fragment.get?_arrayOf]
  simp [ofFragment, Fragment.combiner?_arrayOf, Fragment.isReference_arrayOf,
    Fragment.structuralKind_arrayOf, Fragment.get_arrayOf, hAnnotations, hValidations, ofArrayOf,
    typeOf, TypeName.ofJson?, Json.items?]

end Summary

namespace Expansion

open Fragment

variable {room more : Nat} {fragment : Members} {id : String} {inherited : Json}
  {summary : Summary} {expansion : Expansion}

theorem ofSummary_ofArrayOf (room : Nat) (id : String) (fragment : Members) :
    ofSummary room (Summary.ofArrayOf id fragment) =
      ofItems room [] ((arrayOf fragment).get "items") := rfl

/-- A summary that keeps the type of a combiner is expanded into the parts of the target, whose
branches inherit the type that is written there. -/
theorem ofSummary_eq_ofParts (hReference : combiner? fragment = none → isReference fragment = false)
    (hLends : LendsName fragment)
    (hSummary : Summary.ofFragment id fragment inherited = .ok summary)
    (h : ofSummary room summary = .ok expansion) :
    expansion = ofParts (throughItems (target fragment).1) (target fragment).2
      ((target fragment).2.get "type") := by
  have hKind : summary.kind ≠ .reference := by
    rw [Ne, Summary.kind_eq_reference_iff hSummary]
    rintro ⟨hNone, hTrue⟩
    rw [hReference hNone] at hTrue
    cases hTrue
  obtain ⟨reference, hShape, -⟩ | ⟨-, hParts⟩ := ofSummary_cases hSummary h
  · exact absurd (by rw [Summary.kind, hShape]; rfl) hKind
  rw [hParts, typeBelow]
  split
  · rename_i hCount
    rw [target_eq_self hCount]
    obtain ⟨c, hCombiner, -, hType⟩ | ⟨hNone, -⟩ | ⟨hNone, -⟩ :=
      Summary.shape_of_ofFragment hSummary
    · obtain hSame | ⟨hNameless, hNull⟩ := Summary.typeValue_cases hType
      · rw [hSame]
      · obtain hDeclared | hNames := hLends.of_get_type (by rw [hCombiner]; rfl)
        · rw [hNull, hDeclared]
        · rw [hNameless] at hNames
          cases hNames
    · exact ofParts_of_combiner?_eq_none _ _ hNone _
    · exact ofParts_of_combiner?_eq_none _ _ hNone _
  · rfl

/-- An array of what a fragment describes is expanded like the fragment in less room, through one
more `items`. -/
theorem ofSummary_arrayOf (hReference : combiner? fragment = none → isReference fragment = false)
    (hLends : LendsName fragment)
    (hSummary : Summary.ofFragment id fragment inherited = .ok summary)
    (h : ofSummary more summary = .ok expansion) (room : Nat) (other : String) :
    ofSummary (room + callsInPlace) (Summary.ofArrayOf other fragment) =
      (ofSummary room summary).map (under [.key "items"]) := by
  have hParts := ofSummary_eq_ofParts hReference hLends hSummary h
  have hArrays : expansion.arrays = (target fragment).1 := by
    rw [hParts, arrays_ofParts, throughItems, List.length_replicate]
  rw [ofSummary_ofArrayOf, ofItems_eq_ite structuralKind_arrayOf, target_arrayOf, Nat.mul_succ,
    ofSummary_eq_ite hSummary h, hArrays]
  simp only [Nat.add_le_add_iff_right]
  split
  · rw [Except.map, hParts, ← ofParts_under]
    rfl
  · rfl

theorem le_room_of_ofArrayOf {other : String}
    (h : ofSummary room (Summary.ofArrayOf other fragment) = .ok expansion) :
    callsInPlace ≤ room := by
  refine Nat.le_of_not_lt fun hLt => ?_
  rw [ofSummary_ofArrayOf, get_arrayOf, if_pos rfl, ofItems_of_lt hLt] at h
  cases h

end Expansion

theorem Yields.of_obj {room : Nat} {above : Option String} {level : Int} {location : Location}
    {fragment : Members} {inherited : Json} {stock stock' : Stock Unit} {forest : Forest}
    (h : Yields .unlimited room above level location [⟨[], .obj fragment, inherited⟩] stock
      forest stock') :
    ∃ left summary expansion below, room = left + callsPerEntry ∧
      Summary.ofFragment stock.ids.peek fragment inherited = .ok summary ∧
      Expansion.ofSummary left summary = .ok expansion ∧
      Yields .unlimited (expansion.roomBelow left) (some summary.id) (level + 1) location
        expansion.descents ⟨stock.ids.next, ()⟩ below stock' ∧
      forest = .tree ⟨summary, location⟩ expansion.expandable below .bare := by
  cases h with
  | passed hValue => cases hValue
  | keptOut _ _ _ hJudge => cases hJudge
  | drawn hValue hSummary _ hJudge hExpansion hBelow hRest =>
    cases hValue
    cases hRest
    rw [List.append_nil] at hBelow ⊢
    exact ⟨_, _, _, _, rfl, hSummary, hExpansion, hBelow, rfl⟩

namespace Outline

open Fragment

/-- An outline of an array has the entries that an outline of a fragment has, and the same records
below the root but for locations through `items`. -/
structure IsOfArrayOf (fragment : Members) (id : String) (second outline : Outline) : Prop where
  entries : second.entries = outline.entries
  roots : second.roots = outline.roots
  records : ∃ root inner, outline.records = (id, root) :: inner ∧
    second.records = (id, ⟨Summary.ofArrayOf id fragment, []⟩) ::
      inner.map fun (id, record) => (id, record.under [.key "items"])

section

variable {room more : Nat} {ids : IdSource} {fragment : Members} {forest other : Forest}
  {stock stock' : Stock Unit} {outline : Outline}

variable (hReference : combiner? fragment = none → isReference fragment = false)
  (hLends : LendsName fragment)

include hReference hLends

theorem YieldedWithin.ofArrayOf
    (h : YieldedWithin room .unlimited (.obj fragment) ⟨ids, ()⟩ forest stock') :
    ∃ summary expandable below, summary.id = ids.peek ∧
      forest = .tree ⟨summary, []⟩ expandable below .bare ∧
      YieldedWithin (room + callsInPlace) .unlimited (.obj (arrayOf fragment)) ⟨ids, ()⟩
        (.tree ⟨Summary.ofArrayOf ids.peek fragment, []⟩ expandable
          (below.under [.key "items"]) .bare) stock' := by
  obtain ⟨left, summary, expansion, below, rfl, hSummary, hExpansion, hBelow, rfl⟩ :=
    Yields.of_obj h
  have hInPlace : Expansion.ofSummary (left + callsInPlace) (Summary.ofArrayOf ids.peek fragment) =
      .ok (expansion.under [.key "items"]) := by
    rw [Expansion.ofSummary_arrayOf hReference hLends hSummary hExpansion, hExpansion]
    rfl
  have hId : summary.id = ids.peek := Summary.id_of_ofFragment hSummary
  have hUnder := hBelow.under [.key "items"]
  rw [← Expansion.roomBelow_under (.key "items"), hId] at hUnder
  refine ⟨summary, (expansion.under [.key "items"]).expandable, below, hId, rfl, ?_⟩
  rw [YieldedWithin, Nat.add_right_comm]
  exact .drawn rfl (Summary.ofFragment_arrayOf ids.peek fragment .null) (Option.map_none ..) rfl
    hInPlace hUnder .done

/-- Where an array of what a fragment describes is drawn, there is room enough below it for the
fragment. -/
theorem YieldedWithin.of_arrayOf
    (hMore : YieldedWithin more .unlimited (.obj fragment) ⟨ids, ()⟩ forest stock)
    (h : YieldedWithin room .unlimited (.obj (arrayOf fragment)) ⟨ids, ()⟩ other stock') :
    ∃ second, YieldedWithin (room - callsInPlace) .unlimited (.obj fragment) ⟨ids, ()⟩ second
      stock' ∧ second.ids = other.ids := by
  obtain ⟨_, summary, expansion, _, -, hSummary, hExpansion, -, -⟩ := Yields.of_obj hMore
  obtain ⟨left, array, inPlace, below, rfl, hArray, hInPlace, hBelow, rfl⟩ := Yields.of_obj h
  rw [Summary.ofFragment_arrayOf] at hArray
  cases hArray
  obtain ⟨left, rfl⟩ := Nat.exists_eq_add_of_le' (Expansion.le_room_of_ofArrayOf hInPlace)
  rw [Expansion.ofSummary_arrayOf hReference hLends hSummary hExpansion] at hInPlace
  cases hLeft : Expansion.ofSummary left summary with
  | error failure =>
    rw [hLeft] at hInPlace
    cases hInPlace
  | ok expansion =>
    rw [hLeft] at hInPlace
    cases hInPlace
    rw [Expansion.roomBelow_under] at hBelow
    obtain ⟨second, hSecond, hIds⟩ := Yields.exists_of_under hBelow
    have hId : summary.id = ids.peek := Summary.id_of_ofFragment hSummary
    replace hSecond : Yields .unlimited (expansion.roomBelow left) (some ids.peek) 1 []
        expansion.descents ⟨ids.next, ()⟩ second stock' := hSecond
    rw [← hId] at hSecond
    refine ⟨.tree ⟨summary, []⟩ expansion.expandable second .bare, ?_, ?_⟩
    · rw [YieldedWithin, Nat.add_right_comm, Nat.add_sub_cancel]
      exact .drawn rfl hSummary (Option.map_none ..) rfl hLeft hSecond .done
    · rw [Forest.ids_tree, Forest.ids_tree, hIds, hId]
      rfl

/-- An array of what a fragment describes is drawn like the fragment, in as much more room as the
array takes up. -/
theorem exists_draw_arrayOf
    (hDraw : (drawWithin room .unlimited () ids (.obj fragment)).1 = .ok outline) :
    ∃ second,
      (drawWithin (room + callsInPlace) .unlimited () ids (.obj (arrayOf fragment))).1 =
        .ok second ∧
      second.IsOfArrayOf fragment ids.peek outline := by
  obtain ⟨forest, hYields, hIds, rfl⟩ := exists_forest_of_drawWithin (Prod.ext hDraw rfl)
  obtain ⟨summary, expandable, below, hId, rfl, hArray⟩ := hYields.ofArrayOf hReference hLends
  have hArrayIds : (Forest.tree ⟨Summary.ofArrayOf ids.peek fragment, []⟩ expandable
      (below.under [.key "items"]) .bare).ids.Nodup := by
    rw [Forest.ids_tree, Forest.ids_under]
    rw [Forest.ids_tree, hId] at hIds
    exact hIds
  refine ⟨_, congrArg Prod.fst
    (drawWithin_of_yieldedWithin Gate.unlimited_ignoresAbove hArray hArrayIds), ?_, ?_,
    ⟨summary, []⟩, below.records.map fun record => (record.summary.id, record), ?_, ?_⟩
  · rw [entries_ofForest, entries_ofForest]
    simp only [Forest.rows, Forest.rows_under, Forest.tops_under, List.map_append, List.map_cons,
      List.map_map, hId]
    rfl
  · rw [roots_ofForest, roots_ofForest]
    rfl
  · rw [records_ofForest, ← hId]
    simp [Forest.records]
  · rw [records_ofForest]
    simp [Forest.records, Forest.records_under, Summary.ofArrayOf, Record.under,
      Function.comp_def]

end

/-- What a fragment is drawn as, an array of what it describes is drawn as too, with the same
entries and at locations through `items`, if the fragment is drawn in the room that the array leaves
to it. Otherwise both are too deep: the fragment there, and the array in the whole room. -/
theorem draw_arrayOf (room : Nat) (fragment : Members) (ids : IdSource) (outline : Outline)
    (hReference : ¬ (combiner? fragment = none ∧ isReference fragment = true))
    (hLends : LendsName fragment)
    (hDraw : (drawWithin room .unlimited () ids (.obj fragment)).1 = .ok outline) :
    ((drawWithin (room - callsInPlace) .unlimited () ids (.obj fragment)).1 = .ok outline ∧
      ∃ second, (drawWithin room .unlimited () ids (.obj (arrayOf fragment))).1 = .ok second ∧
        second.IsOfArrayOf fragment ids.peek outline) ∨
    ((drawWithin (room - callsInPlace) .unlimited () ids (.obj fragment)).1 =
        .error .tooDeepToDraw ∧
      (drawWithin room .unlimited () ids (.obj (arrayOf fragment))).1 = .error .tooDeepToDraw) := by
  have hNoReference : combiner? fragment = none → isReference fragment = false := by
    intro hCombiner
    exact Bool.eq_false_iff.mpr fun hTrue => hReference ⟨hCombiner, hTrue⟩
  obtain ⟨forest, hYields, -⟩ := exists_forest_of_drawWithin (Prod.ext hDraw rfl)
  obtain hLess | hDeep := drawWithin_of_le Gate.unlimited_ignoresAbove (Prod.ext hDraw rfl)
    (Nat.sub_le room callsInPlace)
  · left
    have hOk : (drawWithin (room - callsInPlace) .unlimited () ids (.obj fragment)).1 =
        .ok outline := congrArg Prod.fst hLess
    obtain ⟨_, hLessYields, -⟩ := exists_forest_of_drawWithin hLess
    obtain ⟨left, _, _, _, hLeft, -⟩ := Yields.of_obj hLessYields
    have hRoom : callsInPlace ≤ room := by
      simp only [callsInPlace, callsPerEntry] at *
      omega
    have hArray := exists_draw_arrayOf hNoReference hLends hOk
    rw [Nat.sub_add_cancel hRoom] at hArray
    exact ⟨hOk, hArray⟩
  · right
    refine ⟨hDeep, ?_⟩
    -- In enough room the array is drawn, and so it is drawn in this room too or it is too deep.
    obtain ⟨second, hSecond, -⟩ := exists_draw_arrayOf hNoReference hLends hDraw
    obtain hArray | hArrayDeep := drawWithin_of_le Gate.unlimited_ignoresAbove
      (Prod.ext hSecond rfl) (Nat.le_add_right room callsInPlace)
    · obtain ⟨_, hArrayYields, hIds, -⟩ := exists_forest_of_drawWithin hArray
      obtain ⟨less, hLess, hLessIds⟩ :=
        YieldedWithin.of_arrayOf hNoReference hLends hYields hArrayYields
      rw [drawWithin_of_yieldedWithin Gate.unlimited_ignoresAbove hLess (hLessIds ▸ hIds)] at hDeep
      cases hDeep
    · exact hArrayDeep

/-- A list of types on a combiner, of whose branches the first takes it over. -/
def nullableBranches : Members :=
  [("type", .arr [.str "object", .str "null"]),
    ("anyOf", .arr [.obj [("properties", .obj [("a", .obj [])])], .obj [("$ref", .str "#/a")]])]

theorem draw_arrayOf_nullableBranches :
    ∃ outline second,
      (draw .unlimited () (.numbered "n") (.obj nullableBranches)).1 = .ok outline ∧
      (draw .unlimited () (.numbered "n") (.obj (arrayOf nullableBranches))).1 = .ok second ∧
      outline.size = 4 ∧ second.entries = outline.entries := by
  have hSize : (draw .unlimited () (.numbered "n") (.obj nullableBranches)).1.toOption.map size =
      some 4 := by
    decide +kernel
  have hReference :
      ¬ (combiner? nullableBranches = none ∧ isReference nullableBranches = true) := by
    decide
  have hLends : LendsName nullableBranches := by
    rintro - _ ⟨⟩
    rfl
  have hLess : (drawWithin (callLimit - callsInPlace) .unlimited () (.numbered "n")
      (.obj nullableBranches)).1.toOption.isSome = true := by
    decide +kernel
  obtain ⟨outline, hDraw, hSize⟩ := exists_ok_of_map_toOption hSize
  obtain ⟨-, second, hSecond, hSame⟩ | ⟨hError, -⟩ :=
    draw_arrayOf callLimit nullableBranches (.numbered "n") outline hReference hLends hDraw
  · exact ⟨outline, second, hDraw, hSecond, hSize, hSame.entries⟩
  · rw [hError] at hLess
    cases hLess

/-- An array of arrays of arrays and so on. -/
def nestedArrays : Nat → Members
  | 0 => []
  | count + 1 => arrayOf (nestedArrays count)

theorem target_nestedArrays (count : Nat) : target (nestedArrays count) = (count, []) := by
  induction count with
  | zero => exact target_of_items_ne rfl
  | succ count ih => rw [nestedArrays, target_arrayOf, ih]

theorem combiner?_nestedArrays (count : Nat) : combiner? (nestedArrays count) = none := by
  cases count with
  | zero => decide
  | succ count => exact combiner?_arrayOf

theorem isReference_nestedArrays (count : Nat) : isReference (nestedArrays count) = false := by
  cases count with
  | zero => decide
  | succ count => exact isReference_arrayOf

theorem lendsName_nestedArrays (count : Nat) : LendsName (nestedArrays count) := by
  intro hCombiner
  rw [combiner?_nestedArrays] at hCombiner
  cases hCombiner

/-- For a fragment without keywords room for one entry is enough. -/
theorem exists_draw_empty (ids : IdSource) :
    ∃ outline, (drawWithin callsPerEntry .unlimited () ids (.obj [])).1 = .ok outline := by
  have hSummary : Summary.ofFragment ids.peek [] .null =
      .ok ⟨ids.peek, none, none, [], [], .scalar⟩ := rfl
  have hExpansion : Expansion.ofSummary 0 ⟨ids.peek, none, none, [], [], .scalar⟩ =
      .ok (Expansion.leaf []) := rfl
  have hYields : YieldedWithin callsPerEntry .unlimited (.obj []) ⟨ids, ()⟩
      (.tree ⟨⟨ids.peek, none, none, [], [], .scalar⟩, []⟩ false .bare .bare) ⟨ids.next, ()⟩ :=
    .drawn rfl hSummary (Option.map_none ..) rfl hExpansion .done .done
  have hIds : [ids.peek].Nodup := by simp
  exact ⟨_, congrArg Prod.fst
    (drawWithin_of_yieldedWithin Gate.unlimited_ignoresAbove hYields hIds)⟩

/-- Arrays in arrays are drawn in room for one entry and for each of them. -/
theorem draw_nestedArrays_iff (room count : Nat) (ids : IdSource) :
    (∃ outline, (drawWithin room .unlimited () ids (.obj (nestedArrays count))).1 = .ok outline) ↔
      callsInPlace * count + callsPerEntry ≤ room := by
  constructor
  · rintro ⟨outline, hDraw⟩
    obtain ⟨_, hYields, -⟩ := exists_forest_of_drawWithin (Prod.ext hDraw rfl)
    obtain ⟨left, summary, expansion, _, rfl, hSummary, hExpansion, -⟩ := Yields.of_obj hYields
    cases count with
    | zero => exact Nat.le_add_left _ _
    | succ count =>
      rw [nestedArrays, Summary.ofFragment_arrayOf] at hSummary
      cases hSummary
      rw [Expansion.ofSummary_ofArrayOf, Expansion.ofItems_eq_ite structuralKind_arrayOf,
        target_arrayOf, target_nestedArrays] at hExpansion
      split at hExpansion
      · rename_i hRoom
        exact Nat.add_le_add_right hRoom _
      · cases hExpansion
  · intro hRoom
    have hDraw : ∃ outline, (drawWithin (callsInPlace * count + callsPerEntry) .unlimited () ids
        (.obj (nestedArrays count))).1 = .ok outline := by
      clear hRoom
      induction count with
      | zero => exact exists_draw_empty ids
      | succ count ih =>
        obtain ⟨outline, hOutline⟩ := ih
        obtain ⟨second, hSecond, -⟩ := exists_draw_arrayOf
          (fun _ => isReference_nestedArrays count) (lendsName_nestedArrays count) hOutline
        rw [Nat.mul_succ, Nat.add_right_comm]
        exact ⟨second, hSecond⟩
    obtain ⟨outline, hOutline⟩ := hDraw
    exact ⟨outline, congrArg Prod.fst
      (drawWithin_in_more Gate.unlimited_ignoresAbove (Prod.ext hOutline rfl) hRoom)⟩

/-- In any room for an entry, as many arrays in arrays as fit are drawn, and an array of them is
not. -/
theorem exists_tooDeepToDraw_arrayOf {room : Nat} (hRoom : callsPerEntry ≤ room)
    (ids : IdSource) :
    ∃ count < room,
      (∃ outline, (drawWithin room .unlimited () ids (.obj (nestedArrays count))).1 =
        .ok outline) ∧
      (drawWithin room .unlimited () ids (.obj (arrayOf (nestedArrays count)))).1 =
        .error .tooDeepToDraw := by
  obtain ⟨count, hFits, hLast⟩ : ∃ count, callsInPlace * count + callsPerEntry ≤ room ∧
      room < callsInPlace * (count + 1) + callsPerEntry := by
    refine ⟨(room - callsPerEntry) / callsInPlace, ?_⟩
    simp only [callsInPlace, callsPerEntry] at *
    omega
  have hCount : count < room := by
    simp only [callsInPlace, callsPerEntry] at hFits
    omega
  refine ⟨count, hCount, (draw_nestedArrays_iff room count ids).mpr hFits, ?_⟩
  obtain ⟨outline, hOutline⟩ := (draw_nestedArrays_iff _ (count + 1) ids).mpr (Nat.le_refl _)
  obtain hDrawn | hDeep := drawWithin_of_le Gate.unlimited_ignoresAbove (Prod.ext hOutline rfl)
    (Nat.le_of_lt hLast)
  · have hMore := (draw_nestedArrays_iff room (count + 1) ids).mp
      ⟨outline, congrArg Prod.fst hDrawn⟩
    exact absurd hMore (Nat.not_le_of_lt hLast)
  · exact hDeep

theorem tooDeepToDraw_arrayOf_nestedArrays :
    ∃ count < 4000,
      ¬ (combiner? (nestedArrays count) = none ∧ isReference (nestedArrays count) = true) ∧
      LendsName (nestedArrays count) ∧
      (∃ outline, (draw .unlimited () (.numbered "n") (.obj (nestedArrays count))).1 =
        .ok outline) ∧
      (draw .unlimited () (.numbered "n") (.obj (arrayOf (nestedArrays count)))).1 =
        .error .tooDeepToDraw := by
  have hRoom : callsPerEntry ≤ callLimit := by decide
  obtain ⟨count, hCount, hDrawn, hDeep⟩ :=
    exists_tooDeepToDraw_arrayOf hRoom (.numbered "n")
  refine ⟨count, Nat.lt_trans hCount (by decide), ?_, lendsName_nestedArrays count, hDrawn, hDeep⟩
  rw [isReference_nestedArrays]
  exact fun h => Bool.false_ne_true h.2

end Outline

end SchemaOutline
