import Mathlib.Data.List.Nodup
import SchemaOutline.Proofs.Json.Reading
import SchemaOutline.Proofs.Outline.Children
import SchemaOutline.Text.Split

/-!
# Pointers

A pointer is read back by taking what follows each slash and undoing the escapes, first those of
slashes and then those of tildes; this gives the steps of the location as texts
(`decodePointer?_pointer`). Inside one outline nothing is lost by writing positions like names. The
parts of a fragment differ in what is written of the passages that lead to them, and everything
below a part is located behind it, so no two entries have the same pointer
(`Yields.nodup_texts`).
-/

set_option autoImplicit false

namespace SchemaOutline

/-! ### Reading a pointer -/

/-- Puts a character in the place of each `~` that has a certain digit behind it. -/
def restorePairs (digit plain : Char) : List Char → List Char
  | '~' :: c :: rest =>
    if c = digit then plain :: restorePairs digit plain rest
    else '~' :: restorePairs digit plain (c :: rest)
  | c :: rest => c :: restorePairs digit plain rest
  | [] => []

def unescapePointer (cs : List Char) : List Char :=
  restorePairs '0' '~' (restorePairs '1' '/' cs)

/-- The segments of a pointer: one follows each slash. -/
def decodePointer? (pointer : String) : Option (List String) :=
  match Text.splitWhere (· == '/') pointer.toList with
  | ['#'] :: segments => some (segments.map fun segment => String.ofList (unescapePointer segment))
  | _ => none

theorem restorePairs_cons {c : Char} (h : c ≠ '~') (digit plain : Char) (rest : List Char) :
    restorePairs digit plain (c :: rest) = c :: restorePairs digit plain rest := by
  rw [restorePairs.eq_def]
  split
  · rename_i hCons
    exact absurd (List.cons.inj hCons).1 h
  · rename_i hCons
    rw [(List.cons.inj hCons).1, (List.cons.inj hCons).2]
  · rename_i hCons
    cases hCons

theorem unescapePointer_escapePointer (cs : List Char) :
    unescapePointer (escapePointer cs) = cs := by
  unfold unescapePointer
  induction cs with
  | nil => rfl
  | cons c rest ih =>
    by_cases hTilde : c = '~'
    · subst hTilde
      rw [escapePointer, restorePairs, if_neg (by decide), restorePairs_cons (c := '0') (by decide),
        restorePairs, if_pos rfl, ih]
    · by_cases hSlash : c = '/'
      · subst hSlash
        rw [escapePointer, restorePairs, if_pos rfl, restorePairs_cons (by decide), ih]
      · rw [escapePointer, restorePairs_cons hTilde, restorePairs_cons hTilde, ih]
        · exact hTilde
        · exact hSlash

theorem slash_notMem_escapePointer (cs : List Char) : '/' ∉ escapePointer cs := by
  induction cs with
  | nil => nofun
  | cons c rest ih =>
    rw [escapePointer.eq_def]
    split
    · rename_i hCons
      cases hCons
    · rename_i hCons
      cases hCons
      simpa using ih
    · rename_i hCons
      cases hCons
      simpa using ih
    · rename_i other _ _ hSlash hCons
      cases hCons
      intro hMem
      rcases List.mem_cons.mp hMem with hSame | hRest
      · exact hSlash hSame.symm
      · exact ih hRest

theorem splitWhere_pointerChars (location : Location) {piece : List Char} (h : '/' ∉ piece) :
    Text.splitWhere (· == '/') (piece ++ location.flatMap Step.pointerChars) =
      piece :: location.map fun step => escapePointer step.text.toList := by
  induction location generalizing piece with
  | nil => rw [List.flatMap_nil, List.append_nil, Text.splitWhere_of_notMem h, List.map_nil]
  | cons step rest ih =>
    rw [List.flatMap_cons, Step.pointerChars, List.cons_append, Text.splitWhere_append h,
      ih (slash_notMem_escapePointer _), List.map_cons]

theorem decodePointer?_pointer (location : Location) :
    decodePointer? location.pointer = some (location.map Step.text) := by
  have hSplit := @splitWhere_pointerChars location ['#'] (by decide)
  rw [List.singleton_append] at hSplit
  rw [decodePointer?, Location.pointer, String.toList_ofList, hSplit]
  simp [Function.comp_def, unescapePointer_escapePointer]

/-- Two locations have one pointer exactly if their steps are written alike. -/
theorem pointer_eq_iff {location other : Location} :
    location.pointer = other.pointer ↔ location.map Step.text = other.map Step.text := by
  constructor
  · intro h
    have hDecoded := decodePointer?_pointer location
    rw [h, decodePointer?_pointer] at hDecoded
    exact (Option.some.inj hDecoded).symm
  · intro h
    have hChars (l : Location) : l.flatMap Step.pointerChars =
        (l.map Step.text).flatMap fun text => '/' :: escapePointer text.toList := by
      rw [List.flatMap_map]
      rfl
    rw [Location.pointer, Location.pointer, hChars, hChars, h]

/-! ### What is written of a passage -/

theorem Step.text_index_injective {i j : Nat} (h : (Step.index i).text = (Step.index j).text) :
    i = j := by
  have hRepr : i.repr = j.repr := h
  have hDigits : Nat.toDigits 10 i = Nat.toDigits 10 j := by
    rw [← Nat.toList_repr, hRepr, Nat.toList_repr]
  have hValue := congrArg (Nat.ofDigitChars 10 · 0) hDigits
  simpa [Nat.ofDigitChars_toDigits] using hValue

/-- Passages that are written alike are the same: the keyword tells whether a position or a name
follows. -/
theorem Passage.texts_injective :
    Function.Injective fun passage : Passage => passage.steps.map Step.text := by
  intro passage other h
  cases passage <;> cases other <;>
    simp only [steps, List.map_cons, List.map_nil, List.cons.injEq, and_true] at h
  case branch.branch c i d j =>
    have hCombiner : c = d := by
      revert h
      cases c <;> cases d <;> simp [Combiner.keyword, Step.text]
    rw [hCombiner, Step.text_index_injective h.2]
  case item.item i j => rw [Step.text_index_injective h.2]
  case property.property name other => exact congrArg _ h.2
  case patternProperty.patternProperty name other => exact congrArg _ h.2
  case branch.item c i j | branch.property c i name | branch.patternProperty c i name =>
    cases c <;> exact absurd h.1 (by decide)
  case item.branch i c j | property.branch name c j | patternProperty.branch name c j =>
    cases c <;> exact absurd h.1 (by decide)
  all_goals exact absurd h.1 (by decide)

namespace Fragment

variable {fragment : Members}

theorem nodup_positions (items : List Json) : (positions items).Nodup := by
  have hAll : (items.zipIdx.map Prod.snd).Nodup := by
    rw [List.zipIdx_map_snd]
    exact List.nodup_range'
  exact hAll.sublist (List.filter_sublist.map _)

theorem nodup_fragmentNames {v : Json} (h : v.NoDuplicates) :
    (fragmentNames (v.members?.getD [])).Nodup :=
  h.members?_getD.names.sublist (List.filter_sublist.map _)

theorem nodup_listed (h : (Json.obj fragment).NoDuplicates) :
    ((listed? fragment).getD []).Nodup := by
  unfold listed?
  cases combiner? fragment with
  | some c => exact (nodup_positions _).map fun _ _ h => (Passage.branch.inj h).2
  | none =>
    cases structuralKind fragment with
    | array =>
      cases (fragment.get "items").items? with
      | none => exact List.nodup_nil
      | some items => exact (nodup_positions _).map fun _ _ h => Passage.item.inj h
    | object =>
      simp only
      split
      · refine List.Nodup.append ?_ ?_ ?_
        · exact (nodup_fragmentNames (h.get _)).map fun _ _ h => Passage.property.inj h
        · exact (nodup_fragmentNames (h.get _)).map fun _ _ h => Passage.patternProperty.inj h
        · intro passage hProperty hPattern
          obtain ⟨_, -, rfl⟩ := List.mem_map.mp hProperty
          obtain ⟨_, -, hSame⟩ := List.mem_map.mp hPattern
          cases hSame
      · exact List.nodup_nil
    | combiner | reference | scalar => exact List.nodup_nil

end Fragment

/-! ### Entries are told apart by their pointers -/

def Location.texts (location : Location) : List String := location.map Step.text

/-- Descents that can be told apart by what is written of them: all are of one length, and no two of
those that lead to fragments are written alike. -/
structure ToldApart (count : Nat) (descents : List Descent) : Prop where
  length : ∀ descent ∈ descents, descent.steps.length = count
  texts : ((descents.filter (·.value.members?.isSome)).map fun descent =>
    Location.texts descent.steps).Nodup
  names : ∀ descent ∈ descents, descent.value.NoDuplicates

theorem Json.NoDuplicates.inheriting {v inherited : Json} (h : v.NoDuplicates)
    (hInherited : inherited.NoDuplicates) : (v.inheriting inherited).NoDuplicates := by
  cases v with
  | obj fragment =>
    obtain hSame | hSet := Json.inheriting_obj fragment inherited
    · rwa [hSame]
    · rw [hSet]
      exact h.set hInherited
  | _ => exact h

theorem TypeName.noDuplicates_toJson (type : TypeName) : type.toJson.NoDuplicates := by
  cases type with
  | one name => simp [toJson, Json.NoDuplicates]
  | several names =>
    rw [toJson, Json.NoDuplicates, Json.noDuplicatesInItems_iff]
    intro v hMem
    obtain ⟨name, -, rfl⟩ := List.mem_map.mp hMem
    simp [Json.NoDuplicates]

theorem Summary.noDuplicates_typeValue (summary : Summary) : summary.typeValue.NoDuplicates := by
  unfold typeValue
  cases summary.type with
  | none => simp [Json.NoDuplicates]
  | some type => exact type.noDuplicates_toJson

/-- What a fragment is expanded into can be told apart. -/
theorem Expansion.toldApart_of_ofSummary {room : Nat} {id : String} {fragment : Members}
    {inherited : Json} {summary : Summary} {expansion : Expansion}
    (hNames : (Json.obj fragment).NoDuplicates)
    (hSummary : Summary.ofFragment id fragment inherited = .ok summary)
    (h : ofSummary room summary = .ok expansion) :
    ToldApart ((Fragment.target fragment).1 + 2) expansion.descents := by
  obtain ⟨_, -, rfl⟩ | ⟨-, rfl⟩ := ofSummary_cases hSummary h
  · exact ⟨nofun, List.nodup_nil, nofun⟩
  have hTarget : (Json.obj (Fragment.target fragment).2).NoDuplicates :=
    hNames.at? (Fragment.at?_target fragment)
  refine ⟨?length, ?texts, ?names⟩
  case length =>
    intro descent hMem
    obtain ⟨passage, _, hSteps, -⟩ := exists_passage_of_mem (fun _ _ => hTarget.get _) hMem
    have hPassage : passage.steps.length = 2 := by cases passage <;> rfl
    rw [hSteps, List.length_append, hPassage, throughItems, List.length_replicate]
  case texts =>
    have hTexts := congrArg (List.map Location.texts)
      (steps_ofParts (throughItems (Fragment.target fragment).1) (Fragment.target fragment).2
        (typeBelow summary (Fragment.target fragment).1 (Fragment.target fragment).2))
    rw [List.map_map, List.map_map] at hTexts
    have hInjective : Function.Injective fun passage : Passage =>
        Location.texts (throughItems (Fragment.target fragment).1 ++ passage.steps) := by
      intro passage other hSame
      simp only [Location.texts, List.map_append] at hSame
      exact Passage.texts_injective (List.append_cancel_left hSame)
    exact hTexts ▸ (Fragment.nodup_listed hTarget).map hInjective
  case names =>
    intro descent hMem
    obtain ⟨passage, v, -, hAt, hValue, hInherits⟩ :=
      exists_passage_of_mem (fun _ _ => hTarget.get _) hMem
    have hInherited : descent.inherited.NoDuplicates := by
      cases passage with
      | branch c position =>
        rw [hInherits.2, typeBelow]
        split
        · exact summary.noDuplicates_typeValue
        · exact hTarget.get _
      | _ =>
        rw [hInherits]
        simp [Json.NoDuplicates]
    rw [hValue]
    exact (hTarget.at? hAt).inheriting hInherited

namespace ToldApart

variable {count : Nat} {descent : Descent} {rest : List Descent}

theorem tail (h : ToldApart count (descent :: rest)) : ToldApart count rest := by
  refine ⟨fun other hMem => h.length other (List.mem_cons_of_mem _ hMem), ?_,
    fun other hMem => h.names other (List.mem_cons_of_mem _ hMem)⟩
  exact h.texts.sublist ((List.Sublist.filter _ (List.sublist_cons_self _ _)).map _)

theorem texts_ne (h : ToldApart count (descent :: rest)) {other : Descent} (hMem : other ∈ rest)
    (hFirst : descent.value.members?.isSome) (hOther : other.value.members?.isSome) :
    Location.texts descent.steps ≠ Location.texts other.steps := by
  have hTexts := h.texts
  rw [List.filter_cons_of_pos (by exact hFirst), List.map_cons, List.nodup_cons] at hTexts
  intro hSame
  apply hTexts.1
  rw [hSame]
  exact List.mem_map_of_mem (List.mem_filter.mpr ⟨hMem, hOther⟩)

/-- Locations behind two descents differ in what is written of the steps to the descents. -/
theorem locations_ne (h : ToldApart count (descent :: rest)) {other : Descent} (hMem : other ∈ rest)
    (hFirst : descent.value.members?.isSome) (hOther : other.value.members?.isSome)
    {location first second : Location} (hBehind : location ++ descent.steps <+: first)
    (hBehindOther : location ++ other.steps <+: second) : first.texts ≠ second.texts := by
  intro hSame
  apply h.texts_ne hMem hFirst hOther
  have hLength := h.length descent List.mem_cons_self
  have hOtherLength := h.length other (List.mem_cons_of_mem _ hMem)
  have hPrefix : (location ++ descent.steps).map Step.text <+: second.texts :=
    hSame ▸ hBehind.map Step.text
  have hEqual := (List.prefix_of_prefix_length_le hPrefix (hBehindOther.map Step.text)
    (by simp [hLength, hOtherLength])).eq_of_length (by simp [hLength, hOtherLength])
  rw [List.map_append, List.map_append] at hEqual
  exact List.append_cancel_left hEqual

end ToldApart

namespace Yields

variable {σ : Type} {gate : Gate σ} {room : Nat} {above : Option String} {level : Int}
  {location : Location} {descents : List Descent} {stock stock' : Stock σ} {forest : Forest}

/-- Everything that is yielded is located on or behind one of the descents. -/
theorem exists_prefix (h : Yields gate room above level location descents stock forest stock')
    {record : Record} (hMem : record ∈ forest.records) :
    ∃ descent ∈ descents, descent.value.members?.isSome ∧
      location ++ descent.steps <+: record.location := by
  induction h with
  | done => cases hMem
  | passed _ _ ih | keptOut _ _ _ _ _ ih =>
    obtain ⟨descent, hDescent, hRest⟩ := ih hMem
    exact ⟨descent, List.mem_cons_of_mem _ hDescent, hRest⟩
  | @drawn _ _ _ location descent _ _ _ _ _ _ _ _ _ _ _ hValue _ _ _ _ _ _ ihBelow ihRest =>
    have hFragment : descent.value.members?.isSome := by
      rw [hValue]
      rfl
    rw [Forest.records, List.cons_append, List.mem_cons, List.mem_append] at hMem
    rcases hMem with rfl | hBelow | hBeside
    · exact ⟨descent, List.mem_cons_self, hFragment, List.prefix_rfl⟩
    · obtain ⟨inner, -, -, hPrefix⟩ := ihBelow hBelow
      refine ⟨descent, List.mem_cons_self, hFragment, ?_⟩
      exact (List.prefix_append _ _).trans hPrefix
    · obtain ⟨other, hOther, hRest⟩ := ihRest hBeside
      exact ⟨other, List.mem_cons_of_mem _ hOther, hRest⟩

/-- No two locations that are yielded are written alike. -/
theorem nodup_texts (h : Yields gate room above level location descents stock forest stock')
    {count : Nat} (hApart : ToldApart count descents) :
    (forest.records.map (·.location.texts)).Nodup := by
  induction h generalizing count with
  | done => exact List.nodup_nil
  | passed _ _ ih | keptOut _ _ _ _ _ ih => exact ih hApart.tail
  | @drawn _ _ _ location descent _ _ _ _ below beside fragment summary _ _ expansion hValue
      hSummary _ _ hExpansion hBelowYields hRestYields ihBelow ihRest =>
    have hNames := hApart.names descent List.mem_cons_self
    rw [hValue] at hNames
    have hBelowApart := Expansion.toldApart_of_ofSummary hNames hSummary hExpansion
    -- The new entry is located at its descent and all that is below it further on.
    have hTree : ∀ record ∈ (⟨summary, location ++ descent.steps⟩ : Record) :: below.records,
        location ++ descent.steps <+: record.location := by
      intro record hMem
      rcases List.mem_cons.mp hMem with rfl | hBelow
      · exact List.prefix_rfl
      · obtain ⟨inner, -, -, hPrefix⟩ := hBelowYields.exists_prefix hBelow
        exact (List.prefix_append _ _).trans hPrefix
    rw [Forest.records, List.map_append, List.nodup_append, List.map_cons, List.nodup_cons]
    refine ⟨⟨?own, ihBelow hBelowApart⟩, ihRest hApart.tail, ?apart⟩
    case own =>
      intro hMem
      obtain ⟨record, hBelow, hSame⟩ := List.mem_map.mp hMem
      obtain ⟨inner, hInner, -, hPrefix⟩ := hBelowYields.exists_prefix hBelow
      have hLength := congrArg List.length hSame
      have hLonger := hPrefix.length_le
      simp only [Location.texts, List.length_map, List.length_append,
        hBelowApart.length inner hInner] at hLength hLonger
      omega
    case apart =>
      intro texts hFirst other hSecond hSame
      subst hSame
      rw [← List.map_cons (f := fun record : Record => record.location.texts)] at hFirst
      obtain ⟨record, hRecord, rfl⟩ := List.mem_map.mp hFirst
      obtain ⟨second, hBeside, hTexts⟩ := List.mem_map.mp hSecond
      obtain ⟨other, hOther, hFragment, hPrefix⟩ := hRestYields.exists_prefix hBeside
      have hDescent : descent.value.members?.isSome := by
        rw [hValue]
        rfl
      exact hApart.locations_ne hOther hDescent hFragment (hTree record hRecord) hPrefix hTexts.symm

end Yields

namespace Outline

variable {σ : Type} {gate : Gate σ} {start : σ} {ids : IdSource} {document : Json}
  {outline : Outline}

theorem locationOf?_ofForest {forest : Forest} (hIds : forest.ids.Nodup) {p : Nat}
    (hLt : p < forest.size) :
    ∃ record, forest.records[p]? = some record ∧
      (ofForest forest).locationOf? p = some record.location := by
  have hRows : p < (forest.rows 0 none 0).length := by rwa [Forest.length_rows]
  obtain ⟨⟨entry, record⟩, hRow⟩ : ∃ row, (forest.rows 0 none 0)[p]? = some row :=
    ⟨_, List.getElem?_eq_getElem hRows⟩
  have hHas := hasForest_ofForest hIds p entry record hRow
  rw [Nat.zero_add] at hHas
  refine ⟨record, ?_, locationOf?_of_has hHas⟩
  rw [← forest.map_snd_rows 0 none 0, List.getElem?_map, hRow]
  rfl

theorem texts_ne_of_draw (hDocument : document.NoDuplicates)
    (hDraw : (draw gate start ids document).1 = .ok outline) {p q : Nat} (hp : p < outline.size)
    (hq : q < outline.size) (hNe : p ≠ q) :
    ∃ first second, outline.locationOf? p = some first ∧ outline.locationOf? q = some second ∧
      first.texts ≠ second.texts := by
  obtain ⟨forest, hYields, hIds, rfl⟩ := exists_forest_of_draw (Prod.ext hDraw rfl)
  rw [size_ofForest] at hp hq
  have hApart : ToldApart 0 [(⟨[], document, .null⟩ : Descent)] := by
    refine ⟨?_, ?_, ?_⟩
    · simp
    · exact List.Nodup.sublist (List.filter_sublist.map _) (List.nodup_singleton _)
    · simpa using hDocument
  have hTexts := hYields.nodup_texts hApart
  obtain ⟨first, hFirst, hFirstAt⟩ := locationOf?_ofForest hIds hp
  obtain ⟨second, hSecond, hSecondAt⟩ := locationOf?_ofForest hIds hq
  refine ⟨first.location, second.location, hFirstAt, hSecondAt, ?_⟩
  intro hSame
  obtain ⟨hp', rfl⟩ := List.getElem?_eq_some_iff.mp hFirst
  obtain ⟨hq', rfl⟩ := List.getElem?_eq_some_iff.mp hSecond
  apply hNe
  have hFirstLt : p < (forest.records.map (·.location.texts)).length := by simpa using hp'
  have hSecondLt : q < (forest.records.map (·.location.texts)).length := by simpa using hq'
  apply (@List.Nodup.getElem_inj_iff _ _ hTexts p hFirstLt q hSecondLt).mp
  simpa using hSame

/-- No two entries of a drawn outline have the same pointer, whatever the gate keeps out; and
pointers in general are read back, so that they tell locations apart as far as their steps are
written differently. -/
theorem pointers_of_draw (hDocument : document.NoDuplicates)
    (hDraw : (draw gate start ids document).1 = .ok outline) :
    (∀ p q, p < outline.size → q < outline.size → p ≠ q → ∃ first second,
      outline.locationOf? p = some first ∧ outline.locationOf? q = some second ∧
      first.pointer ≠ second.pointer) ∧
    ∀ location : Location, decodePointer? location.pointer = some (location.map Step.text) ∧
      ∀ other : Location, location.pointer = other.pointer ↔
        location.map Step.text = other.map Step.text := by
  constructor
  · intro p q hp hq hNe
    obtain ⟨first, second, hFirst, hSecond, hTexts⟩ := texts_ne_of_draw hDocument hDraw hp hq hNe
    refine ⟨first, second, hFirst, hSecond, ?_⟩
    intro hSame
    exact hTexts (pointer_eq_iff.mp hSame)
  · intro location
    exact ⟨decodePointer?_pointer location, fun other => pointer_eq_iff⟩

/-- Names with slashes and tildes in them, the empty name and a name that reads like a position. -/
def awkwardNames : Json :=
  .obj [("properties", .obj [("a/b", .obj []), ("a~1b", .obj []), ("", .obj []),
    ("0", .obj [("items", .arr [.obj [("properties", .obj [("0", .obj [])])], .obj []])])])]

theorem pointers_of_draw_awkwardNames :
    awkwardNames.NoDuplicates ∧ ∃ outline,
      (draw .unlimited () (.numbered "n") awkwardNames).1 = .ok outline ∧
      outline.entries.toList.map
          (fun entry => (outline.record? entry.id).map (·.location.pointer)) =
        [some "#", some "#/properties/a~1b", some "#/properties/a~01b", some "#/properties/",
          some "#/properties/0", some "#/properties/0/items/0",
          some "#/properties/0/items/0/properties/0", some "#/properties/0/items/1"] ∧
      (∀ p q, p < outline.size → q < outline.size → p ≠ q → ∃ first second,
        outline.locationOf? p = some first ∧ outline.locationOf? q = some second ∧
        first.pointer ≠ second.pointer) ∧
      ∀ location : Location, decodePointer? location.pointer = some (location.map Step.text) ∧
        ∀ other : Location, location.pointer = other.pointer ↔
          location.map Step.text = other.map Step.text := by
  have hNames : awkwardNames.NoDuplicates := by
    simp [awkwardNames, Json.NoDuplicates, Json.NoDuplicatesInMembers, Json.NoDuplicatesInItems]
  have hPointers : (draw .unlimited () (.numbered "n") awkwardNames).1.toOption.map
      (fun outline => outline.entries.toList.map fun entry =>
        (outline.record? entry.id).map (·.location.pointer)) =
        some [some "#", some "#/properties/a~1b", some "#/properties/a~01b", some "#/properties/",
          some "#/properties/0", some "#/properties/0/items/0",
          some "#/properties/0/items/0/properties/0", some "#/properties/0/items/1"] := by
    decide +kernel
  obtain ⟨outline, hDraw, hEntries⟩ := exists_ok_of_map_toOption hPointers
  exact ⟨hNames, outline, hDraw, hEntries, pointers_of_draw hNames hDraw⟩

end Outline

end SchemaOutline
