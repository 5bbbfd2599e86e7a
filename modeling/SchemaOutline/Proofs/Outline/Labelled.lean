import SchemaOutline.Outline.Display
import SchemaOutline.Proofs.Outline.Placement
import SchemaOutline.Proofs.Outline.Sketch

/-!
# Which outlines have lines

Every row that was drawn has a line, except that no label can be given for some arrays. The label of
an array joins the types of its items as they are written, and an item that is shown by its type and
declares one that is no text has none to join (`Label.IsImpossible`). Without such an array an
outline is listed line by line in display order, and with one it is not listed at all
(`Outline.lines_of_draw`).
-/

set_option autoImplicit false

namespace SchemaOutline

namespace Fragment

/-- An item schema is shown by the type that it declares: it names no target, is no combiner, and
has neither items nor properties. -/
structure ShownByType (fragment : Members) : Prop where
  target : (fragment.get "$ref").text? = none
  combiner : combiner? fragment = none
  items : fragment.has "items" = false
  properties : fragment.has "properties" = false
  patternProperties : fragment.has "patternProperties" = false

/-- An item schema is shown by its type, but that is neither a name nor a list of names. Types that
count as absent are not shown. -/
structure ShowsNameless (fragment : Members) : Prop where
  shown : ShownByType fragment
  truthy : (fragment.get "type").isTruthy = true
  nameless : TypeName.ofJson? (fragment.get "type") = none

end Fragment

namespace Label

open Fragment

/-- The label of an array with these items cannot be given. -/
def IsImpossible (items : Json) : Prop :=
  (∃ fragment : Members, items = .obj fragment ∧ ShowsNameless fragment ∧
    ∃ names, fragment.get "type" = .arr names) ∨
  ∃ list fragment, items = .arr list ∧ .obj fragment ∈ list ∧ ShowsNameless fragment

/-- One item of a list that is to consist of texts, with its position. -/
def textAt (item : Json × Nat) : Except Failure String :=
  match item.1 with
  | .str s => .ok s
  | other => .error (.labelNotText item.2 other)

theorem mapM_textAt_cases (items : List Json) (n : Nat) :
    (∃ names, items.mapM Json.text? = some names ∧ (items.zipIdx n).mapM textAt = .ok names) ∨
    items.mapM Json.text? = none ∧
      ∃ i found, (items.zipIdx n).mapM textAt = .error (.labelNotText i found) := by
  induction items generalizing n with
  | nil => exact .inl ⟨[], rfl, rfl⟩
  | cons item rest ih =>
    rw [List.zipIdx_cons, List.mapM_cons, List.mapM_cons]
    cases item with
    | str s =>
      obtain ⟨names, hNames, hTexts⟩ | ⟨hNone, i, found, hTexts⟩ := ih (n + 1)
      · rw [hNames, hTexts]
        exact .inl ⟨s :: names, rfl, rfl⟩
      · rw [hNone, hTexts]
        exact .inr ⟨rfl, i, found, rfl⟩
    | _ => exact .inr ⟨rfl, n, _, rfl⟩

theorem texts_cases (items : List Json) :
    (∃ names, items.mapM Json.text? = some names ∧ texts items = .ok names) ∨
    items.mapM Json.text? = none ∧ ∃ i found, texts items = .error (.labelNotText i found) :=
  mapM_textAt_cases items 0

variable {fragment : Members}

/-- What is shown for an item by the type that it declares. -/
def ofDeclared (declared : Json) : Except Failure Json :=
  match declared with
  | .arr [] => .ok (.str "any")
  | .arr names => (texts names).map fun names => .str ("|".intercalate names)
  | declared => .ok (if declared.isTruthy then declared else .str "any")

theorem ofItem_of_shownByType (h : ShownByType fragment) :
    ofItem (.obj fragment) = ofDeclared (fragment.get "type") := by
  rw [ofItem]
  split
  · rename_i target hTarget
    have hNone := h.target
    rw [hTarget] at hNone
    cases hNone
  · rw [h.combiner, h.items, h.properties, h.patternProperties]
    rfl

/-- What is not shown by its type is shown by a word. -/
theorem exists_ofItem_of_not_shownByType (h : ¬ ShownByType fragment) :
    ∃ s, ofItem (.obj fragment) = .ok (.str s) := by
  rw [ofItem]
  split
  · exact ⟨_, rfl⟩
  · rename_i hTarget
    split
    · exact ⟨_, rfl⟩
    · rename_i hCombiner
      split
      · exact ⟨_, rfl⟩
      · rename_i hItems
        split
        · exact ⟨_, rfl⟩
        · rename_i hProperties
          simp only [Bool.or_eq_true, not_or, Bool.not_eq_true] at hItems hProperties
          refine absurd ⟨?_, hCombiner, hItems, hProperties.1, hProperties.2⟩ h
          cases hRef : fragment.get "$ref" with
          | str target => exact absurd hRef (hTarget target)
          | _ => rfl

theorem ofDeclared_of_truthy {declared : Json} (hTruthy : declared.isTruthy = true)
    (hItems : declared.items? = none) : ofDeclared declared = .ok declared := by
  cases declared with
  | arr names => cases hItems
  | _ => exact congrArg Except.ok (if_pos hTruthy)

theorem ofDeclared_of_not_truthy {declared : Json} (h : declared.isTruthy = false) :
    ofDeclared declared = .ok (.str "any") := by
  cases declared with
  | arr names =>
    cases names with
    | nil => rfl
    | cons name rest => cases h
  | _ => exact congrArg Except.ok (if_neg (by simp [h]))

/-- A type that is shown is shown as a word if it is a name or a list of names, and otherwise as it
is written, or not at all if it is a list. -/
theorem ofDeclared_cases {declared : Json} (hTruthy : declared.isTruthy = true) :
    (∃ type s, TypeName.ofJson? declared = some type ∧ ofDeclared declared = .ok (.str s)) ∨
    TypeName.ofJson? declared = none ∧
      ((∃ names i found, declared = .arr names ∧
        ofDeclared declared = .error (.labelNotText i found)) ∨
      (declared.items? = none ∧ declared.text? = none ∧ ofDeclared declared = .ok declared)) := by
  cases declared with
  | str name => exact .inl ⟨_, _, rfl, ofDeclared_of_truthy hTruthy rfl⟩
  | arr names =>
    have hShown : ofDeclared (.arr names) =
        (texts names).map fun names => .str ("|".intercalate names) := by
      cases names with
      | nil => cases hTruthy
      | cons name rest => rfl
    rw [hShown, TypeName.ofJson?]
    obtain ⟨words, hNames, hTexts⟩ | ⟨hNames, i, found, hTexts⟩ := texts_cases names
    · rw [hNames, hTexts]
      exact .inl ⟨_, _, rfl, rfl⟩
    · rw [hNames, hTexts]
      exact .inr ⟨rfl, .inl ⟨names, i, found, rfl, rfl⟩⟩
  | _ => exact .inr ⟨rfl, .inr ⟨rfl, rfl, ofDeclared_of_truthy hTruthy rfl⟩⟩

/-- Everything that an item of an array can be shown as. -/
theorem ofItem_cases (item : Json) :
    (∃ s, ofItem item = .ok (.str s) ∧
      ∀ fragment, item = .obj fragment → ¬ ShowsNameless fragment) ∨
    ∃ fragment : Members, item = .obj fragment ∧ ShowsNameless fragment ∧
      ((∃ names i found, fragment.get "type" = .arr names ∧
        ofItem item = .error (.labelNotText i found)) ∨
      ((fragment.get "type").items? = none ∧ (fragment.get "type").text? = none ∧
        ofItem item = .ok (fragment.get "type"))) := by
  cases item with
  | obj fragment =>
    by_cases hShown : ShownByType fragment
    · rw [ofItem_of_shownByType hShown]
      cases hTruthy : (Members.get fragment "type").isTruthy with
      | false =>
        refine .inl ⟨_, ofDeclared_of_not_truthy hTruthy, ?_⟩
        rintro _ ⟨⟩ hNameless
        rw [hNameless.truthy] at hTruthy
        cases hTruthy
      | true =>
        obtain ⟨type, s, hType, hWord⟩ | ⟨hNone, hShows⟩ := ofDeclared_cases hTruthy
        · refine .inl ⟨s, hWord, ?_⟩
          rintro _ ⟨⟩ hNameless
          rw [hNameless.nameless] at hType
          cases hType
        · exact .inr ⟨fragment, rfl, ⟨hShown, hTruthy, hNone⟩, hShows⟩
    · obtain ⟨s, hItem⟩ := exists_ofItem_of_not_shownByType hShown
      refine .inl ⟨s, hItem, ?_⟩
      rintro _ ⟨⟩ hNameless
      exact hShown hNameless.shown
  | _ => exact .inl ⟨"any", rfl, nofun⟩

theorem labelNotText_of_ofItem {item : Json} {failure : Failure}
    (h : ofItem item = .error failure) :
    (∃ fragment, item = .obj fragment ∧ ShowsNameless fragment) ∧
      ∃ i found, failure = .labelNotText i found := by
  obtain ⟨s, hItem, -⟩ | ⟨fragment, rfl, hNameless, hShows⟩ := ofItem_cases item
  · rw [hItem] at h
    cases h
  · obtain ⟨_, i, found, -, hItem⟩ | ⟨-, -, hItem⟩ := hShows
    · rw [hItem] at h
      cases h
      exact ⟨⟨fragment, rfl, hNameless⟩, i, found, rfl⟩
    · rw [hItem] at h
      cases h

/-- What is shown for an item is text unless the item shows a type that is no name. -/
theorem text?_eq_none_iff_of_ofItem {item label : Json} (h : ofItem item = .ok label) :
    label.text? = none ↔ ∃ fragment, item = .obj fragment ∧ ShowsNameless fragment := by
  obtain ⟨s, hItem, hNot⟩ | ⟨fragment, rfl, hNameless, hShows⟩ := ofItem_cases item
  · rw [hItem] at h
    cases h
    constructor
    · nofun
    · rintro ⟨fragment, hFragment, hNameless⟩
      exact absurd hNameless (hNot fragment hFragment)
  · obtain ⟨_, _, _, -, hItem⟩ | ⟨-, hText, hItem⟩ := hShows
    · rw [hItem] at h
      cases h
    · rw [hItem] at h
      cases h
      exact ⟨fun _ => ⟨fragment, rfl, hNameless⟩, fun _ => hText⟩

/-- The label of an array either can be given, or its items make it impossible. -/
theorem ofArray_cases (items : Json) (type : Option TypeName) :
    (¬ IsImpossible items ∧ ∃ label, ofArray items type = .ok label) ∨
    IsImpossible items ∧ ∃ i found, ofArray items type = .error (.labelNotText i found) := by
  cases items with
  | obj fragment =>
    rw [ofArray]
    obtain ⟨s, hItem, hNot⟩ | ⟨_, ⟨⟩, hNameless, hShows⟩ := ofItem_cases (.obj fragment)
    · rw [hItem]
      refine .inl ⟨?_, _, rfl⟩
      rintro (⟨_, ⟨⟩, hNameless, -⟩ | ⟨_, _, ⟨⟩, -⟩)
      exact hNot fragment rfl hNameless
    · obtain ⟨names, i, found, hType, hItem⟩ | ⟨hItems, -, hItem⟩ := hShows
      · rw [hItem]
        exact .inr ⟨.inl ⟨fragment, rfl, hNameless, names, hType⟩, i, found, rfl⟩
      · rw [hItem]
        refine .inl ⟨?_, _, rfl⟩
        rintro (⟨_, ⟨⟩, -, names, hType⟩ | ⟨_, _, ⟨⟩, -⟩)
        rw [hType] at hItems
        cases hItems
  | arr list =>
    rw [ofArray]
    cases hLabels : list.mapM ofItem with
    | error failure =>
      obtain ⟨item, hMem, hItem⟩ := exists_mem_of_mapM_eq_error hLabels
      obtain ⟨⟨fragment, rfl, hNameless⟩, i, found, rfl⟩ := labelNotText_of_ofItem hItem
      exact .inr ⟨.inr ⟨list, fragment, rfl, hMem, hNameless⟩, i, found, rfl⟩
    | ok labels =>
      change _ ∧ (∃ label, (texts labels >>= _) = _) ∨ _ ∧ ∃ i found, (texts labels >>= _) = _
      obtain ⟨names, hNames, hTexts⟩ | ⟨hNone, i, found, hTexts⟩ := texts_cases labels
      · rw [hTexts]
        refine .inl ⟨?_, _, rfl⟩
        rintro (⟨_, ⟨⟩, -⟩ | ⟨_, fragment, ⟨⟩, hMem, hNameless⟩)
        obtain ⟨label, hLabel, hItem⟩ := exists_result_of_mem hLabels hMem
        have hText := (text?_eq_none_iff_of_ofItem hItem).mpr ⟨fragment, rfl, hNameless⟩
        rw [mapM_eq_none_iff.mpr ⟨label, hLabel, hText⟩] at hNames
        cases hNames
      · rw [hTexts]
        obtain ⟨label, hLabel, hText⟩ := mapM_eq_none_iff.mp hNone
        obtain ⟨item, hMem, hItem⟩ := exists_of_mem_results hLabels hLabel
        obtain ⟨fragment, rfl, hNameless⟩ := (text?_eq_none_iff_of_ofItem hItem).mp hText
        exact .inr ⟨.inr ⟨list, fragment, rfl, hMem, hNameless⟩, i, found, rfl⟩
  | _ =>
    refine .inl ⟨?_, _, rfl⟩
    rintro (⟨_, ⟨⟩, -⟩ | ⟨_, _, ⟨⟩, -⟩)

end Label

/-- No label can be given for the summarised array. -/
def Summary.LacksLabel (summary : Summary) : Prop :=
  ∃ items additionalItems, summary.shape = .array items additionalItems ∧ Label.IsImpossible items

theorem Label.ofSummary_cases (summary : Summary) :
    (¬ summary.LacksLabel ∧ ∃ label, ofSummary summary = .ok label) ∨
    summary.LacksLabel ∧ ∃ i found, ofSummary summary = .error (.labelNotText i found) := by
  unfold ofSummary Summary.LacksLabel
  cases summary.shape with
  | array items additionalItems =>
    obtain ⟨hNot, hLabel⟩ | ⟨hImpossible, hFailure⟩ := ofArray_cases items summary.type
    · refine .inl ⟨?_, hLabel⟩
      rintro ⟨_, _, ⟨⟩, hImpossible⟩
      exact hNot hImpossible
    · exact .inr ⟨⟨items, additionalItems, rfl, hImpossible⟩, hFailure⟩
  | _ =>
    refine .inl ⟨?_, _, rfl⟩
    rintro ⟨_, _, ⟨⟩, -⟩

/-- A line says of a row what its entry and its record say. -/
structure Line.Shows (line : Line) (entry : Entry) (record : Record) : Prop where
  name : line.name = if entry.name.isEmpty then record.location.name else entry.name
  label : Label.ofSummary record.summary = .ok line.label
  pointer : line.pointer = record.location.pointer
  level : line.level = entry.level
  expandable : line.expandable = entry.isExpandable

namespace Outline

/-- There is a label for every row. -/
def IsLabelled (outline : Outline) : Prop :=
  ∀ p entry record, outline.Has p entry record → ¬ record.summary.LacksLabel

/-- One line for each row, in display order. -/
structure AreLines (outline : Outline) (lines : List Line) : Prop where
  length : lines.length = outline.size
  shows : ∀ p entry record, outline.Has p entry record →
    ∃ line, lines[p]? = some line ∧ line.Shows entry record

variable {σ : Type} {gate : Gate σ} {start : σ} {ids : IdSource} {document : Json}
  {outline : Outline}

theorem line_eq {p : Nat} {entry : Entry} {record : Record} (h : outline.Has p entry record) :
    outline.line entry = (Label.ofSummary record.summary).map fun label =>
      { name := if entry.name.isEmpty then record.location.name else entry.name, label
        pointer := record.location.pointer, level := entry.level
        expandable := entry.isExpandable } := by
  rw [line, Outline.record, h.2]
  simp only [bind, Except.bind]
  cases Label.ofSummary record.summary <;> rfl

/-- Whatever was drawn has its record. -/
theorem exists_has_of_draw (hDraw : (draw gate start ids document).1 = .ok outline) {entry : Entry}
    {p : Nat} (hEntry : outline.entries[p]? = some entry) :
    ∃ record, outline.Has p entry record := by
  obtain ⟨forest, -, hIds, rfl⟩ := exists_forest_of_draw (Prod.ext hDraw rfl)
  rw [entries_ofForest, List.getElem?_toArray, List.getElem?_map] at hEntry
  obtain ⟨⟨_, record⟩, hRow, rfl⟩ := Option.map_eq_some_iff.mp hEntry
  have hHas := hasForest_ofForest hIds p _ _ hRow
  rw [Nat.zero_add] at hHas
  exact ⟨record, hHas⟩

theorem shows_of_line {p : Nat} {entry : Entry} {record : Record} {line : Line}
    (h : outline.Has p entry record) (hLine : outline.line entry = .ok line) :
    line.Shows entry record := by
  rw [line_eq h] at hLine
  obtain ⟨label, hLabel, rfl⟩ := map_eq_ok_iff.mp hLine
  exact ⟨rfl, hLabel, rfl, rfl, rfl⟩

/-- An outline that was drawn is listed line by line if every row has a label, and is not listed at
all otherwise. -/
theorem lines_of_draw (hDraw : (draw gate start ids document).1 = .ok outline) :
    (outline.IsLabelled ∧ ∃ lines, outline.lines = .ok lines ∧ outline.AreLines lines ∧
      outline.text = .ok ("\n".intercalate (lines.map Line.text))) ∨
    ¬ outline.IsLabelled ∧ ∃ i found, outline.lines = .error (.labelNotText i found) ∧
      outline.text = .error (.labelNotText i found) := by
  unfold text
  cases hLines : outline.lines with
  | ok lines =>
    have hRows := mapM_eq_ok_iff.mp hLines
    refine .inl ⟨?_, lines, rfl, ⟨?_, ?_⟩, rfl⟩
    · intro p entry record hHas hLacks
      have hMem : entry ∈ outline.entries.toList :=
        Array.mem_toList_iff.mpr (Array.mem_of_getElem? hHas.1)
      obtain ⟨line, -, hLine⟩ := exists_result_of_mem hLines hMem
      have hLabel := (shows_of_line hHas hLine).label
      obtain ⟨hNot, -⟩ | ⟨-, _, _, hFailure⟩ := Label.ofSummary_cases record.summary
      · exact hNot hLacks
      · rw [hFailure] at hLabel
        cases hLabel
    · rw [← hRows.length_eq, Array.length_toList, size]
    · intro p entry record hHas
      obtain ⟨hLt, hEntry⟩ := Array.getElem?_eq_some_iff.mp hHas.1
      have hLtLines : p < lines.length := by
        rw [← hRows.length_eq, Array.length_toList]
        exact hLt
      have hLine := hRows.get (by rwa [Array.length_toList]) hLtLines
      refine ⟨_, List.getElem?_eq_getElem hLtLines, shows_of_line hHas ?_⟩
      simpa [hEntry] using hLine
  | error failure =>
    obtain ⟨entry, hMem, hLine⟩ := exists_mem_of_mapM_eq_error hLines
    obtain ⟨p, hEntry⟩ := Array.getElem?_of_mem (Array.mem_toList_iff.mp hMem)
    obtain ⟨record, hHas⟩ := exists_has_of_draw hDraw hEntry
    rw [line_eq hHas] at hLine
    obtain ⟨-, label, hLabel⟩ | ⟨hLacks, i, found, hFailure⟩ :=
      Label.ofSummary_cases record.summary
    · rw [hLabel] at hLine
      cases hLine
    · rw [hFailure] at hLine
      cases hLine
      exact .inr ⟨fun h => h p entry record hHas hLacks, i, found, rfl, rfl⟩

/-- Items whose types are absent, empty, or no types at all but never shown. -/
def oddItems : Json :=
  .obj [("items", .arr [.obj [("type", .arr [])], .obj [("type", .int 0)],
    .obj [("type", .arr [.str "null", .str "string"])],
    .obj [("type", .int 5), ("$ref", .str "#/$defs/a/")],
    .obj [("type", .arr [.int 5]), ("properties", .null)], .int 5])]

/-- No odd item keeps the array from being listed. -/
theorem lines_of_draw_oddItems :
    ∃ outline lines, (draw .unlimited () (.numbered "n") oddItems).1 = .ok outline ∧
      outline.IsLabelled ∧ outline.lines = .ok lines ∧ outline.AreLines lines ∧
      lines.map Line.label = ["array[any, any, null|string, a, object, any]", "any", "any",
        "null|string", "any", "object"] := by
  have hLabels : (draw .unlimited () (.numbered "n") oddItems).1.toOption.map
      (fun outline => outline.lines.toOption.map (List.map Line.label)) =
        some (some ["array[any, any, null|string, a, object, any]", "any", "any", "null|string",
          "any", "object"]) := by
    decide +kernel
  obtain ⟨outline, hDraw, hShown⟩ := exists_ok_of_map_toOption hLabels
  obtain ⟨lines, hLines, hLabels⟩ := exists_ok_of_map_toOption hShown
  obtain ⟨hLabelled, _, hSame, hAre, -⟩ | ⟨-, _, _, hFailure, -⟩ := lines_of_draw hDraw
  · rw [hLines] at hSame
    cases hSame
    exact ⟨outline, lines, hDraw, hLabelled, hLines, hAre, hLabels⟩
  · rw [hLines] at hFailure
    cases hFailure

/-- An array whose items have a type that is a list, but not of names. -/
def numberedType : Json :=
  .obj [("items", .obj [("type", .arr [.str "string", .int 5])])]

/-- Not every outline that was drawn can be listed. -/
theorem lines_of_draw_numberedType :
    ∃ outline, (draw .unlimited () (.numbered "n") numberedType).1 = .ok outline ∧
      outline.lines = .error (.labelNotText 1 (.int 5)) := by
  have hLines : (draw .unlimited () (.numbered "n") numberedType).1.toOption.map
      (fun outline => decide (outline.lines = .error (.labelNotText 1 (.int 5)))) = some true := by
    decide +kernel
  obtain ⟨outline, hDraw, hFailure⟩ := exists_ok_of_map_toOption hLines
  exact ⟨outline, hDraw, of_decide_eq_true hFailure⟩

end Outline

end SchemaOutline
