import SchemaOutline.Job
import SchemaOutline.Proofs.Outline.Placement
import SchemaOutline.Proofs.Outline.Rearranging
import SchemaOutline.Proofs.Outline.Unlimited

/-!
# Drawing with keywords in another order

Summaries of rearranged fragments agree in their kind and their type, and what they are expanded
into is the same up to the order of keywords (`ofSummary_agree`). So rearranged documents yield
forests of one form (`Yields.exists_alike`), and their outlines have the same rows, whether `allOf`
is folded first or not (`Json.results_rearranged`).
-/

set_option autoImplicit false

namespace SchemaOutline

open Json Fragment

variable {first second : Members} {v w : Json}

/-! ### Summaries -/

inductive Shape.Alike : Shape → Shape → Prop where
  | object {properties properties' patternProperties patternProperties' : Option Members}
      {additional additional' : Json} {required required' : Option (List String)}
      (hProperties : Option.Rel Members.Aligned properties properties')
      (hPatternProperties : Option.Rel Members.Aligned patternProperties patternProperties') :
      Alike (.object properties patternProperties additional required)
        (.object properties' patternProperties' additional' required')
  | array {items items' additional additional' : Json} (hItems : Rearranged .schema items items') :
      Alike (.array items additional) (.array items' additional')
  | combiner {c : Combiner} {branches others : List Json}
      (hBranches : List.Forall₂ (Rearranged .schema) branches others) :
      Alike (.combiner c branches) (.combiner c others)
  | reference {target : String} : Alike (.reference target) (.reference target)
  | scalar : Alike .scalar .scalar

theorem Shape.Alike.kind {shape other : Shape} (h : shape.Alike other) :
    shape.kind = other.kind := by
  cases h <;> rfl

/-- Two summaries agree in what decides the form of an outline. -/
structure Summary.Alike (summary other : Summary) : Prop where
  type : summary.type = other.type
  shape : summary.shape.Alike other.shape

namespace Summary

theorem Alike.kind {summary other : Summary} (h : summary.Alike other) :
    summary.kind = other.kind := h.shape.kind

theorem requiredOf_eq (h : first.Matches second) : requiredOf first = requiredOf second := by
  rw [requiredOf, h.get_eq (by decide), requiredOf]

theorem ofFragment_agree (h : first.Matches second) (id other : String) (inherited : Json) :
    Agree Alike (ofFragment id first inherited) (ofFragment other second inherited) := by
  unfold ofFragment
  rw [combiner?_eq h, isReference_eq h, structuralKind_eq h, requiredOf_eq h,
    h.get_eq (show "type" ∈ plainKeywords by decide),
    h.get_eq (show "$ref" ∈ plainKeywords by decide)]
  cases combiner? second with
  | some c => exact .inl ⟨_, _, rfl, rfl, rfl, .combiner (branches_rearranged h c)⟩
  | none =>
    cases isReference second with
    | true => exact .inl ⟨_, _, rfl, rfl, rfl, .reference⟩
    | false =>
      cases structuralKind second with
      | array => exact .inl ⟨_, _, rfl, rfl, rfl, .array (items_rearranged h)⟩
      | object =>
        cases requiredOf second with
        | error failure => exact .inr ⟨failure, rfl, rfl⟩
        | ok required =>
          exact .inl ⟨_, _, rfl, rfl, rfl, .object (named_aligned h (by decide))
            (named_aligned h (by decide))⟩
      | _ => exact .inl ⟨_, _, rfl, rfl, rfl, .scalar⟩

end Summary

theorem Expansion.ofSummary_agree (room : Nat) {summary other : Summary}
    (h : summary.Alike other) : Agree Alike (ofSummary room summary) (ofSummary room other) := by
  have hType : summary.typeValue = other.typeValue := by
    rw [Summary.typeValue, h.type, Summary.typeValue]
  have hShape := h.shape
  unfold ofSummary
  rw [hType]
  generalize summary.shape = shape at hShape
  generalize other.shape = shape' at hShape
  cases hShape with
  | object hProperties hPatternProperties =>
    exact .inl ⟨_, _, rfl, rfl, ofProperties_alike [] hProperties hPatternProperties⟩
  | array hItems => exact ofItems_agree room [] hItems
  | combiner hBranches => exact .inl ⟨_, _, rfl, rfl, ofBranches_alike [] _ hBranches _⟩
  | reference | scalar => exact .inl ⟨_, _, rfl, rfl, .refl _⟩

/-! ### Growth -/

/-- Two forests have the same form, and alike summaries at the same locations. -/
inductive Forest.Alike : Forest → Forest → Prop where
  | bare : Alike .bare .bare
  | tree {record other : Record} {expandable : Bool} {below beside below' beside' : Forest}
      (hLocation : record.location = other.location)
      (hSummary : record.summary.Alike other.summary) (hBelow : Alike below below')
      (hBeside : Alike beside beside') :
      Alike (.tree record expandable below beside) (.tree other expandable below' beside')

/-- Descents that differ in the order of keywords yield forests of one form, whatever the
identifiers. -/
theorem Yields.exists_alike {room : Nat} {above : Option String} {level : Int}
    {location : Location} {descents others : List Descent} {stock stock' : Stock Unit}
    {forest : Forest} (h : Yields .unlimited room above level location descents stock forest stock')
    (hOthers : List.Forall₂ Descent.Alike descents others) (other : Option String)
    (again : Stock Unit) :
    ∃ second again', Yields .unlimited room other level location others again second again' ∧
      forest.Alike second := by
  induction h generalizing others other again with
  | done =>
    cases hOthers
    exact ⟨.bare, _, .done, .bare⟩
  | passed hValue _ ih =>
    obtain _ | ⟨hDescent, hOthers⟩ := hOthers
    obtain ⟨second, again', hSecond, hAlike⟩ := ih hOthers other again
    have hNone := eq_none_of_rel hDescent.value.members? hValue
    exact ⟨second, again', .passed hNone hSecond, hAlike⟩
  | keptOut _ _ _ hJudge => cases hJudge
  | @drawn _ _ _ _ _ _ _ _ _ _ _ fragment summary _ _ _ hValue hSummary _ _ hExpansion _ _
      ihBelow ihRest =>
    obtain _ | @⟨_, descent, _, others, hDescent, hOthers⟩ := hOthers
    obtain ⟨fragment', hFragment, hMatches⟩ :=
      exists_of_rel_some hDescent.value.members? (members?_eq_some_iff.mpr hValue)
    rw [hDescent.inherited] at hSummary
    obtain ⟨summary', hSummary', hAlike⟩ :=
      (Summary.ofFragment_agree hMatches _ again.ids.peek _).exists_of_ok hSummary
    obtain ⟨expansion', hExpansion', hExpanded⟩ :=
      (Expansion.ofSummary_agree _ hAlike).exists_of_ok hExpansion
    obtain ⟨below, mid, hBelow, hBelowAlike⟩ :=
      ihBelow hExpanded.descents (some summary'.id) ⟨again.ids.next, ()⟩
    obtain ⟨beside, again', hBeside, hBesideAlike⟩ := ihRest hOthers other mid
    have hAbove : (other.map fun id => (⟨id, "", 0, none, none⟩ : Entry)).map Entry.id = other := by
      simp [Function.comp_def]
    rw [hDescent.steps, hExpanded.roomBelow_eq] at hBelow
    rw [hDescent.steps]
    refine ⟨_, _, .drawn (members?_eq_some_iff.mp hFragment) hSummary' hAbove rfl hExpansion'
      hBelow hBeside, ?_⟩
    rw [hExpanded.expandable]
    exact .tree rfl hAlike hBelowAlike hBesideAlike

/-! ### Rows -/

/-- What a row shows, whatever its identifier is. -/
structure Row where
  location : Location
  level : Int
  parent : Option Int
  children : Option (List Int)
  kind : Kind
  type : Option TypeName
deriving Repr, DecidableEq

def Row.of (entry : Entry) (record : Record) : Row :=
  ⟨record.location, entry.level, entry.parent, entry.children, record.summary.kind,
    record.summary.type⟩

/-- The rows of an outline in display order, `none` if an entry has no record. -/
def Outline.rows? (outline : Outline) : Option (List Row) :=
  outline.entries.toList.mapM fun entry => (outline.record? entry.id).map (Row.of entry)

namespace Forest

variable {forest other : Forest}

theorem Alike.size (h : forest.Alike other) : forest.size = other.size := by
  induction h with
  | bare => rfl
  | tree _ _ _ _ ihBelow ihBeside => rw [Forest.size, Forest.size, ihBelow, ihBeside]

theorem Alike.tops (h : forest.Alike other) (n : Nat) : forest.tops n = other.tops n := by
  induction h generalizing n with
  | bare => rfl
  | tree _ _ hBelow _ _ ihBeside => rw [Forest.tops, Forest.tops, hBelow.size, ihBeside]

theorem children_withChildren_congr {entry other : Entry} (h : entry.children = other.children)
    (children : List Nat) :
    (entry.withChildren children).children = (other.withChildren children).children := by
  unfold Entry.withChildren
  induction children generalizing entry other with
  | nil => exact h
  | cons child rest ih =>
    apply ih
    simp only [Entry.withChild, Entry.childList, h]

/-- Forests of one form have the same rows. -/
theorem Alike.rows (h : forest.Alike other) (n : Nat) (parent : Option Nat) (level : Int) :
    ((forest.rows n parent level).map fun (entry, record) => Row.of entry record) =
      (other.rows n parent level).map fun (entry, record) => Row.of entry record := by
  induction h generalizing n parent level with
  | bare => rfl
  | @tree record other expandable below beside below' beside' hLocation hSummary hBelow hBeside
      ihBelow ihBeside =>
    rw [Forest.rows, Forest.rows, hBelow.size, hBelow.tops]
    simp only [List.map_append, List.map_cons, ihBelow, ihBeside]
    congr 2
    simp only [Row.of, hLocation, hSummary.kind, hSummary.type, Entry.level_withChildren,
      Entry.parent_withChildren]
    congr 1
    apply children_withChildren_congr
    rfl

end Forest

namespace Outline

theorem rows?_ofForest {forest : Forest} (hIds : forest.ids.Nodup) :
    (ofForest forest).rows? =
      some ((forest.rows 0 none 0).map fun (entry, record) => Row.of entry record) := by
  unfold rows?
  rw [entries_ofForest]
  apply mapM_map_eq_some
  rintro ⟨entry, record⟩ hMem
  obtain ⟨p, hRow⟩ := List.getElem?_of_mem hMem
  have hHas := hasForest_ofForest hIds p entry record hRow
  rw [hHas.2]
  rfl

/-- Both documents are drawn, as outlines with the same rows, or neither is. -/
def SameRows (x y : Except Failure Outline) : Prop :=
  (∃ first second rows, x = .ok first ∧ y = .ok second ∧ first.rows? = some rows ∧
    second.rows? = some rows) ∨
  ∃ failure other, x = .error failure ∧ y = .error other

theorem SameRows.map {x y : Except Failure Outline} {f g : Outline → Outline} (h : SameRows x y)
    (hf : ∀ outline, (f outline).rows? = outline.rows?)
    (hg : ∀ outline, (g outline).rows? = outline.rows?) : SameRows (x.map f) (y.map g) := by
  obtain ⟨first, second, rows, rfl, rfl, hFirst, hSecond⟩ | ⟨failure, other, rfl, rfl⟩ := h
  · exact .inl ⟨_, _, rows, rfl, rfl, (hf first).trans hFirst, (hg second).trans hSecond⟩
  · exact .inr ⟨failure, other, rfl, rfl⟩

theorem exists_draw_of_rearranged {ids others : IdSource} {outline : Outline}
    (h : Rearranged .schema v w) (hOthers : Function.Injective others.nth)
    (hDraw : (draw .unlimited () ids v).1 = .ok outline) :
    ∃ second rows, (draw .unlimited () others w).1 = .ok second ∧ outline.rows? = some rows ∧
      second.rows? = some rows := by
  obtain ⟨forest, hYields, hIds, rfl⟩ := exists_forest_of_draw (Prod.ext hDraw rfl)
  have hDescents : List.Forall₂ Descent.Alike [⟨[], v, .null⟩] [⟨[], w, .null⟩] :=
    .cons ⟨rfl, h, rfl⟩ .nil
  obtain ⟨second, stock', hSecond, hAlike⟩ := hYields.exists_alike hDescents none ⟨others, ()⟩
  have hSecondIds : second.ids.Nodup := by
    rw [hSecond.ids_eq.1]
    exact List.Nodup.map hOthers (List.nodup_range' ..)
  refine ⟨ofForest second, _, ?_, rows?_ofForest hIds, ?_⟩
  · rw [draw_of_yieldedBy Gate.unlimited_ignoresAbove hSecond hSecondIds]
  · rw [rows?_ofForest hSecondIds, hAlike.rows]

theorem draw_rearranged {ids others : IdSource} (h : Rearranged .schema v w)
    (hIds : Function.Injective ids.nth) (hOthers : Function.Injective others.nth) :
    SameRows (draw .unlimited () ids v).1 (draw .unlimited () others w).1 := by
  cases hFirst : (draw .unlimited () ids v).1 with
  | ok outline =>
    obtain ⟨second, rows, hSecond, hRows⟩ := exists_draw_of_rearranged h hOthers hFirst
    exact .inl ⟨outline, second, rows, rfl, hSecond, hRows⟩
  | error failure =>
    cases hSecond : (draw .unlimited () others w).1 with
    | error other => exact .inr ⟨failure, other, rfl, rfl⟩
    | ok second =>
      obtain ⟨outline, _, hDraw, -⟩ := exists_draw_of_rearranged h.symm hIds hSecond
      rw [hFirst] at hDraw
      cases hDraw

end Outline

namespace Job

variable {job other : Job} {ids others : IdSource}

theorem run_of_prepared {document : Json} (h : job.prepared = .ok document) :
    (job.run ids).1.map Delivery.outline =
      (Outline.draw .unlimited () ids document).1.map fun outline =>
        (Delivery.ofOutline job.ticket outline).outline := by
  simp only [run, h]
  cases (Outline.draw .unlimited () ids document).1 <;> rfl

/-- Rearranged documents are prepared alike: left as they are, folded, or found to nest too
deeply. -/
theorem prepared_agree (h : Rearranged .schema (.obj job.document) (.obj other.document))
    (hFirst : (obj job.document).NoDuplicates) (hSecond : (obj other.document).NoDuplicates)
    (hFolds : job.foldsAllOf = other.foldsAllOf) :
    Agree (Rearranged .schema) job.prepared other.prepared := by
  unfold prepared
  rw [hFolds]
  cases other.foldsAllOf with
  | false => exact .inl ⟨_, _, rfl, rfl, h⟩
  | true =>
    obtain ⟨folded, folded', hLeft, hRight, hFolded⟩ | ⟨hLeft, hRight⟩ :=
      h.foldAllOf? hFirst hSecond
    · rw [hLeft, hRight]
      exact .inl ⟨folded, folded', rfl, rfl, hFolded⟩
    · rw [hLeft, hRight]
      exact .inr ⟨_, rfl, rfl⟩

/-- Jobs for rearranged documents end with outlines of the same rows, or they both fail. -/
theorem run_rearranged (h : Rearranged .schema (.obj job.document) (.obj other.document))
    (hFirst : (obj job.document).NoDuplicates) (hSecond : (obj other.document).NoDuplicates)
    (hFolds : job.foldsAllOf = other.foldsAllOf) (hIds : Function.Injective ids.nth)
    (hOthers : Function.Injective others.nth) :
    Outline.SameRows ((job.run ids).1.map Delivery.outline)
      ((other.run others).1.map Delivery.outline) := by
  obtain ⟨document, document', hLeft, hRight, hRel⟩ | ⟨failure, hLeft, hRight⟩ :=
    prepared_agree h hFirst hSecond hFolds
  · rw [run_of_prepared hLeft, run_of_prepared hRight]
    exact (Outline.draw_rearranged hRel hIds hOthers).map (fun _ => rfl) fun _ => rfl
  · rw [run, hLeft, run, hRight]
    exact .inr ⟨failure, failure, rfl, rfl⟩

end Job

/-- The order of keywords means nothing. Rearranged documents have the same number of entries, both
of them mention `allOf` or neither does, and jobs for them end alike. Only where a document nests
beyond the limit may the search give up on it and find something in the other one. -/
theorem Json.results_rearranged {document other : Json} (h : Rearranged .schema document other)
    (hFirst : document.NoDuplicates) (hSecond : other.NoDuplicates) :
    (∀ limit, Estimate.entryCount document limit = Estimate.entryCount other limit) ∧
    (Estimate.mentionsAllOf document = Estimate.mentionsAllOf other ∨
      nestingLimit ≤ document.depth ∧
        Estimate.OneGivesUp (Estimate.mentionsAllOf document) (Estimate.mentionsAllOf other)) ∧
    ∀ (job again : Job) (ids others : IdSource), .obj job.document = document →
      .obj again.document = other → job.foldsAllOf = again.foldsAllOf →
      Function.Injective ids.nth → Function.Injective others.nth →
      Outline.SameRows ((job.run ids).1.map Delivery.outline)
        ((again.run others).1.map Delivery.outline) := by
  refine ⟨Estimate.entryCount_eq h, ?_, ?_⟩
  · by_cases hDepth : document.depth < nestingLimit
    · exact .inl (Estimate.mentionsAllOf_eq_of_depth h hFirst hSecond hDepth)
    · obtain hSame | hGivesUp := Estimate.mentionsAllOf_rearranged h hFirst hSecond
      · exact .inl hSame
      · exact .inr ⟨Nat.le_of_not_lt hDepth, hGivesUp⟩
  · rintro job again ids others rfl rfl hFolds hIds hOthers
    exact Job.run_rearranged h hFirst hSecond hFolds hIds hOthers

/-- A document in which folding joins a branch to the rest. -/
def requirementsFirst : Members :=
  [("title", .str "x"), ("allOf", .arr [.obj [("required", .arr [.str "a"]),
    ("properties", .obj [("a", .obj [("enum", .arr []), ("type", .str "string")]),
      ("b", .obj [("items", .arr [.obj []])])])]])]

/-- The same document with the keywords of three fragments in another order. -/
def propertiesFirst : Members :=
  [("allOf", .arr [.obj [("properties", .obj [("a", .obj [("type", .str "string"),
      ("enum", .arr [])]), ("b", .obj [("items", .arr [.obj []])])]),
    ("required", .arr [.str "a"])]]), ("title", .str "x")]

theorem rearranged_requirementsFirst :
    Rearranged .schema (.obj requirementsFirst) (.obj propertiesFirst) := by
  have hProperty : Rearranged .schema (.obj [("enum", .arr []), ("type", .str "string")])
      (.obj [("type", .str "string"), ("enum", .arr [])]) :=
    .of_swapped (by decide) (.same _) (.same _)
  have hProperties : Members.Aligned
      [("a", .obj [("enum", .arr []), ("type", .str "string")]),
        ("b", .obj [("items", .arr [.obj []])])]
      [("a", .obj [("type", .str "string"), ("enum", .arr [])]),
        ("b", .obj [("items", .arr [.obj []])])] :=
    .cons ⟨rfl, hProperty⟩ (.cons ⟨rfl, .same _⟩ .nil)
  exact .of_swapped (by decide) (.same _) (.of_forall₂ (by decide)
    (.cons (.of_swapped (by decide) (.same _) (.of_aligned hProperties)) .nil))

/-- Both documents hold an `allOf`, and folded they are drawn with the same rows: the root, `a`,
`b` and the element of `b`. -/
theorem results_rearranged_requirementsFirst :
    (obj requirementsFirst).NoDuplicates ∧ (obj propertiesFirst).NoDuplicates ∧
    Estimate.entryCount (.obj requirementsFirst) none =
      Estimate.entryCount (.obj propertiesFirst) none ∧
    Estimate.mentionsAllOf (.obj requirementsFirst) =
      Estimate.mentionsAllOf (.obj propertiesFirst) ∧
    Outline.SameRows
      ((Job.run ⟨"r", requirementsFirst, true⟩ (.numbered "u")).1.map Delivery.outline)
      ((Job.run ⟨"s", propertiesFirst, true⟩ (.numbered "v")).1.map Delivery.outline) ∧
    ((Job.run ⟨"r", requirementsFirst, true⟩ (.numbered "u")).1.toOption.bind fun delivery =>
      delivery.outline.rows?.map List.length) = some 4 := by
  have hFirst : (obj requirementsFirst).NoDuplicates := by
    simp [requirementsFirst, NoDuplicates, NoDuplicatesInMembers, NoDuplicatesInItems]
  have hSecond : (obj propertiesFirst).NoDuplicates := by
    simp [propertiesFirst, NoDuplicates, NoDuplicatesInMembers, NoDuplicatesInItems]
  have hDepth : (obj requirementsFirst).depth < nestingLimit := by decide +kernel
  obtain ⟨hCount, hMentions, hRuns⟩ :=
    Json.results_rearranged rearranged_requirementsFirst hFirst hSecond
  obtain hSame | ⟨hDeep, -⟩ := hMentions
  · exact ⟨hFirst, hSecond, hCount none, hSame,
      hRuns ⟨"r", requirementsFirst, true⟩ ⟨"s", propertiesFirst, true⟩ _ _ rfl rfl rfl
        (IdSource.numbered_injective "u") (IdSource.numbered_injective "v"), by decide +kernel⟩
  · exact absurd hDeep (Nat.not_le_of_lt hDepth)

end SchemaOutline
