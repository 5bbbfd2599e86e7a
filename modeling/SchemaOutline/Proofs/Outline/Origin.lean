import SchemaOutline.Proofs.Identifier
import SchemaOutline.Proofs.Outline.Placement
import SchemaOutline.Proofs.Outline.Sketch
import SchemaOutline.Proofs.Outline.Target

/-!
# Where the entries of a drawn outline come from

An entry stands for the fragment of the document to which the location of its record leads
(`Outline.StandsFor`). By induction on what a document yields this holds of every entry of a drawn
outline, and the trees below an entry are what the expansion of its summary yields
(`drawn_of_draw`). Documents name no member twice here, which is so of all that is read from a text
(`Json.noDuplicates_of_read`).
-/

set_option autoImplicit false

namespace SchemaOutline

/-- The location that ways below one another lead to: each goes through some single schemas for
items and then along a passage. -/
def along (ways : List (Nat × Passage)) : Location :=
  ways.flatMap fun (count, passage) => throughItems count ++ passage.steps

theorem along_concat (ways : List (Nat × Passage)) (count : Nat) (passage : Passage) :
    along (ways ++ [(count, passage)]) = along ways ++ throughItems count ++ passage.steps := by
  simp [along, List.append_assoc]

section

variable {fragment shown reached : Members} {inherited : Json}

theorem Fragment.combiner?_congr (h : ∀ name ≠ "type", shown.get? name = reached.get? name) :
    combiner? shown = combiner? reached := by
  unfold combiner? Members.has
  congr 1
  funext c
  rw [h c.keyword (by cases c <;> decide)]

theorem Passage.inherits_congr (h : ∀ name ≠ "type", shown.get? name = reached.get? name)
    (passage : Passage) (type : Json) :
    passage.Inherits shown type inherited ↔ passage.Inherits reached type inherited := by
  cases passage with
  | branch c position => simp only [Inherits, Fragment.combiner?_congr h]
  | _ => rfl

theorem Passage.at?_congr (h : ∀ name ≠ "type", shown.get? name = reached.get? name)
    (passage : Passage) :
    (Json.obj shown).at? passage.steps = (Json.obj reached).at? passage.steps := by
  cases passage with
  | branch c position =>
    simp only [steps, Json.at?_cons, Json.step?, h c.keyword (by cases c <;> decide)]
  | item position => simp only [steps, Json.at?_cons, Json.step?, h "items" (by decide)]
  | property name => simp only [steps, Json.at?_cons, Json.step?, h "properties" (by decide)]
  | patternProperty name =>
    simp only [steps, Json.at?_cons, Json.step?, h "patternProperties" (by decide)]

/-- What stands in the document where the target of a fragment is found: the target itself or, if
that is the fragment, the fragment without the type that it inherits. -/
theorem Fragment.exists_reached (hShown : (Json.obj fragment).inheriting inherited = .obj shown) :
    ∃ reached : Members,
      (Json.obj fragment).at? (throughItems (target shown).1) = some (.obj reached) ∧
      (∀ name ≠ "type", (target shown).2.get? name = reached.get? name) ∧
      ((target shown).1 ≠ 0 → (target shown).2 = reached) := by
  have hSame : ∀ name ≠ "type", shown.get? name = fragment.get? name :=
    fun name hName => Json.get?_of_inheriting hName hShown
  cases hCount : (target shown).1 with
  | zero =>
    refine ⟨fragment, rfl, ?_, fun hNe => absurd rfl hNe⟩
    rwa [target_eq_self hCount]
  | succ count =>
    refine ⟨(target shown).2, ?_, fun _ _ => rfl, fun _ => rfl⟩
    have hTarget := at?_target shown
    rw [hCount, throughItems_succ, Json.at?_cons] at hTarget
    rwa [throughItems_succ, Json.at?_cons, Json.step?, ← hSame "items" (by decide)]

end

namespace Outline

/-- Where an entry comes from: the root of the document has no parent and inherits nothing. Any
other entry lies below its parent, through single schemas for items to a fragment and from there
along a passage. A branch inherits the type of the combiner it is listed in, as recorded if the
parent is that combiner and as written if it was expanded in place. -/
inductive Origin (outline : Outline) (document : Json) : Option Int → Int → Location → Json → Prop
  where
  | root : Origin outline document none 0 [] .null
  | below {p count : Nat} {above : Entry} {record : Record} {reached : Members} {passage : Passage}
      {inherited : Json} (hAbove : outline.Has p above record)
      (hReached : document.at? (record.location ++ throughItems count) = some (.obj reached))
      (hInherits : passage.Inherits reached
        (if count = 0 then record.summary.typeValue else reached.get "type") inherited) :
      Origin outline document (some p) (above.level + 1)
        (record.location ++ throughItems count ++ passage.steps) inherited

structure Leads (outline : Outline) (document : Json) (parent : Option Int) (level : Int)
    (location : Location) (inherited : Json) (shown : Members) : Prop where
  fragment : ∃ fragment, document.at? location = some (.obj fragment) ∧
    (Json.obj fragment).inheriting inherited = .obj shown
  origin : outline.Origin document parent level location inherited
  level_eq : ∃ ways, location = along ways ∧ level = (ways.length : Int)

/-- An entry stands for the fragment at the location of its record: the record has the summary of
that fragment, taken with the type that it inherits. -/
structure StandsFor (outline : Outline) (document : Json) (entry : Entry) (record : Record)
    (shown : Members) (inherited : Json) : Prop where
  recorded : outline.record? entry.id = some record
  leads : outline.Leads document entry.parent entry.level record.location inherited shown
  summarised : Summary.ofFragment entry.id shown inherited = .ok record.summary

/-- The entry at a position with all that was drawn for it: what its summary is expanded into was
yielded as a forest and follows the entry. -/
structure Drawn {σ : Type} (gate : Gate σ) (outline : Outline) (document : Json) (n : Nat)
    (entry : Entry) (record : Record) (shown : Members) (inherited : Json) : Prop where
  has : outline.Has n entry record
  standsFor : outline.StandsFor document entry record shown inherited
  below : ∃ room expansion stock stock' forest,
    Expansion.ofSummary room record.summary = .ok expansion ∧
    Yields gate (expansion.roomBelow room) (some entry.id) (entry.level + 1) record.location
      expansion.descents stock forest stock' ∧
    outline.HasForest (n + 1) (some n) (entry.level + 1) forest ∧
    (expansion.expandable = true → entry.children = some ((forest.tops (n + 1)).map Nat.cast)) ∧
    (expansion.expandable = false → forest = .bare → entry.children = none)

variable {σ : Type} {gate : Gate σ} {outline : Outline} {document : Json}

theorem StandsFor.root_or_below {entry : Entry} {record : Record} {shown : Members}
    {inherited : Json} (h : outline.StandsFor document entry record shown inherited) :
    (record.location = [] ∧ inherited = .null) ∨
      ∃ (p count : Nat) (above : Entry) (aboveRecord : Record) (passage : Passage),
        outline.Has p above aboveRecord ∧ entry.parent = some (p : Int) ∧
        record.location = aboveRecord.location ++ throughItems count ++ passage.steps := by
  have hOrigin := h.leads.origin
  generalize entry.parent = parent at hOrigin
  generalize entry.level = level at hOrigin
  generalize record.location = location at hOrigin
  cases hOrigin with
  | root => exact .inl ⟨rfl, rfl⟩
  | below hAbove => exact .inr ⟨_, _, _, _, _, hAbove, rfl, rfl⟩

theorem leads_of_mem_descents (hDocument : document.NoDuplicates) {p room : Nat} {entry : Entry}
    {record : Record} {shown below : Members} {inherited : Json} {expansion : Expansion}
    {descent : Descent} (hHas : outline.Has p entry record)
    (hStands : outline.StandsFor document entry record shown inherited)
    (hExpansion : Expansion.ofSummary room record.summary = .ok expansion)
    (hMem : descent ∈ expansion.descents) (hValue : descent.value = .obj below) :
    outline.Leads document (some p) (entry.level + 1) (record.location ++ descent.steps)
      descent.inherited below := by
  obtain ⟨_, -, rfl⟩ | ⟨-, rfl⟩ := Expansion.ofSummary_cases hStands.summarised hExpansion
  · cases hMem
  obtain ⟨fragment, hAt, hShown⟩ := hStands.leads.fragment
  obtain ⟨reached, hTarget, hSame, hReached⟩ := Fragment.exists_reached hShown
  have hAtReached : document.at? (record.location ++ throughItems (Fragment.target shown).1) =
      some (.obj reached) := by
    rw [Json.at?_append, hAt]
    exact hTarget
  have hNames : ∀ keyword ≠ "type", ((Fragment.target shown).2.get keyword).NoDuplicates := by
    intro keyword hKeyword
    unfold Members.get
    rw [hSame keyword hKeyword]
    exact (hDocument.at? hAtReached).get keyword
  obtain ⟨passage, v, hSteps, hPassage, hBranch, hInherits⟩ :=
    Expansion.exists_passage_of_mem hNames hMem
  rw [Passage.at?_congr hSame] at hPassage
  rw [Passage.inherits_congr hSame] at hInherits
  have hType : Expansion.typeBelow record.summary (Fragment.target shown).1
      (Fragment.target shown).2 =
        if (Fragment.target shown).1 = 0 then record.summary.typeValue else reached.get "type" := by
    unfold Expansion.typeBelow
    split
    · rfl
    · rename_i hCount
      rw [hReached hCount]
  rw [hType] at hInherits
  rw [hSteps, ← List.append_assoc]
  refine ⟨?_, .below hHas hAtReached hInherits, ?_⟩
  · rw [hBranch] at hValue
    obtain ⟨inner, rfl⟩ := Json.exists_of_inheriting_eq_obj hValue
    refine ⟨inner, ?_, hValue⟩
    rw [Json.at?_append, hAtReached]
    exact hPassage
  · obtain ⟨ways, hLocation, hLevel⟩ := hStands.leads.level_eq
    refine ⟨ways ++ [((Fragment.target shown).1, passage)], ?_, ?_⟩
    · rw [along_concat, ← hLocation]
    · rw [hLevel, List.length_append]
      rfl

theorem drawn_of_yields (hDocument : document.NoDuplicates) {room n : Nat} {above : Option String}
    {parent : Option Nat} {level : Int} {location : Location} {descents : List Descent}
    {stock stock' : Stock σ} {forest : Forest}
    (h : Yields gate room above level location descents stock forest stock')
    (hForest : outline.HasForest n parent level forest)
    (hLeads : ∀ descent ∈ descents, ∀ shown, descent.value = .obj shown →
      outline.Leads document (parent.map Nat.cast) level (location ++ descent.steps)
        descent.inherited shown)
    {p : Nat} (hFirst : n ≤ p) (hLast : p < n + forest.size) :
    ∃ entry record shown inherited, Drawn gate outline document p entry record shown inherited := by
  induction h generalizing n parent with
  | done =>
    rw [Forest.size] at hLast
    omega
  | passed _ _ ih | keptOut _ _ _ _ _ ih =>
    exact ih hForest (fun descent hMem => hLeads descent (List.mem_cons_of_mem _ hMem))
      hFirst hLast
  | @drawn _ _ level location descent _ _ _ _ below _ fragment summary _ _ expansion hValue hSummary
      _ _ hExpansion hBelowYields _ ihBelow ihRest =>
    obtain ⟨⟨entry, hHas, hId, hLevel, hParent, hExpanded, hLeaf⟩, hBelow, hBeside⟩ := hForest.tree
    have hStands : outline.StandsFor document entry ⟨summary, location ++ descent.steps⟩ fragment
        descent.inherited := by
      refine ⟨hHas.2, ?_, ?_⟩
      · rw [hParent, hLevel]
        exact hLeads descent List.mem_cons_self fragment hValue
      · rw [hId, Summary.id_of_ofFragment hSummary]
        exact hSummary
    rw [Forest.size] at hLast
    obtain rfl | hBehind := Nat.eq_or_lt_of_le hFirst
    · rw [← hLevel] at hBelow hBelowYields
      exact ⟨entry, _, fragment, _, hHas, hStands, _, expansion, _, _, below, hExpansion,
        hId ▸ hBelowYields, hBelow, hExpanded, hLeaf⟩
    · by_cases hIn : p < n + 1 + below.size
      · refine ihBelow hBelow ?_ hBehind hIn
        intro inner hMem shown hInner
        rw [← hLevel]
        exact leads_of_mem_descents hDocument hHas hStands hExpansion hMem hInner
      · exact ihRest hBeside (fun descent hMem => hLeads descent (List.mem_cons_of_mem _ hMem))
          (by omega) (by omega)

theorem drawn_of_draw (hDocument : document.NoDuplicates) {start : σ} {ids : IdSource}
    (hDraw : (draw gate start ids document).1 = .ok outline) {entry : Entry}
    (hEntry : entry ∈ outline.entries) :
    ∃ p record shown inherited, Drawn gate outline document p entry record shown inherited := by
  obtain ⟨forest, hYields, hIds, rfl⟩ := exists_forest_of_draw (Prod.ext hDraw rfl)
  have hForest := hasForest_ofForest hIds
  obtain ⟨p, hLt, rfl⟩ := Array.mem_iff_getElem.mp hEntry
  have hSize : p < 0 + forest.size := by
    rw [Nat.zero_add, ← size_ofForest]
    exact hLt
  have hLeads : ∀ descent ∈ [(⟨[], document, .null⟩ : Descent)], ∀ shown,
      descent.value = .obj shown →
        (ofForest forest).Leads document none 0 ([] ++ descent.steps) descent.inherited shown := by
    intro descent hMem shown hValue
    obtain rfl := List.mem_singleton.mp hMem
    refine ⟨⟨shown, ?_, Json.inheriting_null _⟩, .root, [], rfl, rfl⟩
    exact congrArg some hValue
  obtain ⟨entry, record, shown, inherited, hDrawn⟩ :=
    drawn_of_yields hDocument hYields hForest hLeads (Nat.zero_le p) hSize
  have hSame : (ofForest forest).entries[p] = entry := by
    have hGet := hDrawn.has.1
    rw [Array.getElem?_eq_getElem hLt] at hGet
    exact Option.some.inj hGet
  exact ⟨p, record, shown, inherited, hSame ▸ hDrawn⟩

theorem exists_drawn_of_has (hDocument : document.NoDuplicates) {start : σ} {ids : IdSource}
    (hDraw : (draw gate start ids document).1 = .ok outline) {p : Nat} {entry : Entry}
    {record : Record} (hHas : outline.Has p entry record) :
    ∃ n shown inherited, Drawn gate outline document n entry record shown inherited := by
  obtain ⟨n, found, shown, inherited, hDrawn⟩ :=
    drawn_of_draw hDocument hDraw (Array.mem_of_getElem? hHas.1)
  have hSame : found = record := Option.some.inj (hDrawn.has.2.symm.trans hHas.2)
  exact ⟨n, shown, inherited, hSame ▸ hDrawn⟩

/-- The location of every entry of a drawn outline is true, whatever the gate keeps out: the entry
stands for the fragment found there. -/
theorem standsFor_of_draw (hDocument : document.NoDuplicates) {start : σ} {ids : IdSource}
    (hDraw : (draw gate start ids document).1 = .ok outline) {entry : Entry}
    (hEntry : entry ∈ outline.entries) :
    ∃ record shown inherited, outline.StandsFor document entry record shown inherited := by
  obtain ⟨_, record, shown, inherited, hDrawn⟩ := drawn_of_draw hDocument hDraw hEntry
  exact ⟨record, shown, inherited, hDrawn.standsFor⟩

/-- A branch that inherits its type, and in it a combiner that is reached through single schemas for
items alone. -/
def nestedItems : Json :=
  .obj [("type", .str "object"), ("allOf", .arr [.obj [("items", .obj [("items",
    .obj [("type", .str "string"), ("oneOf", .arr [.obj [], .obj [("$ref", .str "#/a")]])])])]])]

theorem standsFor_of_draw_nestedItems :
    ∃ outline,
      (draw (.rejecting fun kind _ => kind == .reference) () (.numbered "n") nestedItems).1 =
        .ok outline ∧
      outline.records.map (·.2.location) = [[], [.key "allOf", .index 0],
        [.key "allOf", .index 0, .key "items", .key "items", .key "oneOf", .index 0]] ∧
      ∀ entry ∈ outline.entries, ∃ record shown inherited,
        outline.StandsFor nestedItems entry record shown inherited := by
  have hNames : nestedItems.NoDuplicates := by
    simp [nestedItems, Json.NoDuplicates, Json.NoDuplicatesInMembers, Json.NoDuplicatesInItems]
  have hLocations :
      (draw (.rejecting fun kind _ => kind == .reference) () (.numbered "n")
        nestedItems).1.toOption.map (·.records.map (·.2.location)) =
          some [[], [.key "allOf", .index 0],
            [.key "allOf", .index 0, .key "items", .key "items", .key "oneOf", .index 0]] := by
    decide +kernel
  obtain ⟨outline, hDraw, hRecords⟩ := exists_ok_of_map_toOption hLocations
  exact ⟨outline, hDraw, hRecords, fun entry hEntry => standsFor_of_draw hNames hDraw hEntry⟩

end Outline

end SchemaOutline
