import SchemaOutline.Proofs.Outline.Forest
import SchemaOutline.Proofs.Outline.Growing
import SchemaOutline.Proofs.Json.Lookup

/-!
# Growth sketched as a forest

What an outline grows by depends on the expansions, the identifiers and the gate, and not on the
arena it grows in. `Yields` says which forest comes of visiting a list of descents, and growing is
planting that forest (`yields_of_reaches`). Where the gate does not look at the entry above, every
forest that can be planted is also reached (`reaches_of_yields`). For whole documents this is
`exists_forest_of_draw` and `draw_of_yieldedBy`.
-/

set_option autoImplicit false

namespace SchemaOutline

variable {σ : Type}

structure Stock (σ : Type) where
  ids : IdSource
  gate : σ

def Growth.stock (g : Growth σ) : Stock σ := ⟨g.ids, g.gate⟩

/-- Visiting the descents from a location, under an entry with the identifier `above` or at the top,
yields a forest and leaves the rest of a stock. -/
inductive Yields (gate : Gate σ) : Nat → Option String → Int → Location → List Descent →
    Stock σ → Forest → Stock σ → Prop where
  | done {room : Nat} {above : Option String} {level : Int} {location : Location}
      {stock : Stock σ} : Yields gate room above level location [] stock .bare stock
  | passed {room : Nat} {above : Option String} {level : Int} {location : Location}
      {descent : Descent} {rest : List Descent} {stock stock' : Stock σ} {forest : Forest}
      (hValue : descent.value.members? = none)
      (hRest : Yields gate room above level location rest stock forest stock') :
      Yields gate room above level location (descent :: rest) stock forest stock'
  | keptOut {room : Nat} {above : Option String} {level : Int} {location : Location}
      {descent : Descent} {rest : List Descent} {stock stock' : Stock σ} {forest : Forest}
      {fragment : Members} {summary : Summary} {entry : Option Entry} {s : σ}
      (hValue : descent.value = .obj fragment)
      (hSummary : Summary.ofFragment stock.ids.peek fragment descent.inherited = .ok summary)
      (hAbove : entry.map Entry.id = above)
      (hJudge : gate.judge stock.gate summary entry level = (false, s))
      (hRest : Yields gate (room + callsPerEntry) above level location rest ⟨stock.ids.next, s⟩
        forest stock') :
      Yields gate (room + callsPerEntry) above level location (descent :: rest) stock forest stock'
  | drawn {room : Nat} {above : Option String} {level : Int} {location : Location}
      {descent : Descent} {rest : List Descent} {stock stock' stock'' : Stock σ}
      {below beside : Forest} {fragment : Members} {summary : Summary} {entry : Option Entry}
      {s : σ} {expansion : Expansion}
      (hValue : descent.value = .obj fragment)
      (hSummary : Summary.ofFragment stock.ids.peek fragment descent.inherited = .ok summary)
      (hAbove : entry.map Entry.id = above)
      (hJudge : gate.judge stock.gate summary entry level = (true, s))
      (hExpansion : Expansion.ofSummary room summary = .ok expansion)
      (hBelow : Yields gate (expansion.roomBelow room) (some summary.id) (level + 1)
        (location ++ descent.steps) expansion.descents ⟨stock.ids.next, s⟩ below stock')
      (hRest : Yields gate (room + callsPerEntry) above level location rest stock' beside
        stock'') :
      Yields gate (room + callsPerEntry) above level location (descent :: rest) stock
        (.tree ⟨summary, location ++ descent.steps⟩ expansion.expandable below beside) stock''

/-- Nothing comes of no descents. -/
theorem Yields.eq_bare {gate : Gate σ} {room : Nat} {above : Option String} {level : Int}
    {location : Location} {stock stock' : Stock σ} {forest : Forest}
    (h : Yields gate room above level location [] stock forest stock') : forest = .bare := by
  cases h
  rfl

def Gate.IgnoresAbove (gate : Gate σ) : Prop :=
  ∀ s summary entry other level,
    gate.judge s summary entry level = gate.judge s summary other level

theorem Gate.unlimited_ignoresAbove : Gate.unlimited.IgnoresAbove := fun _ _ _ _ _ => rfl

namespace Outline

def parentId (outline : Outline) (parent : Option Nat) : Option String :=
  (parent.bind (outline.entries[·]?)).map Entry.id

theorem getElem?_id_adopting (entries : Array Entry) (parent : Option Nat) (child p : Nat) :
    ((adopting entries parent child)[p]?).map Entry.id = (entries[p]?).map Entry.id := by
  rw [getElem?_adopting, Option.map_map]
  congr 1
  funext entry
  rw [Function.comp_apply]
  split <;> rfl

theorem parentId_stand {outline : Outline} {parent : Option Nat}
    (hParent : outline.HasParent parent) (above : Option Nat) (level : Int) (record : Record)
    (expandable : Bool) :
    (outline.stand above level record expandable).parentId parent = outline.parentId parent := by
  cases parent with
  | none => rfl
  | some p =>
    have hp : p < outline.size := hParent p rfl
    simp only [parentId, stand, Option.bind_some]
    rw [Array.getElem?_push_lt (by simpa [size] using hp),
      ← getElem?_id_adopting _ above outline.size,
      Array.getElem?_eq_getElem (by simpa [size] using hp)]

theorem parentId_stand_size (outline : Outline) (parent : Option Nat) (level : Int)
    (record : Record) (expandable : Bool) :
    (outline.stand parent level record expandable).parentId (some outline.size) =
      some record.summary.id := by
  simp only [parentId, stand, Option.bind_some]
  rw [Array.getElem?_push, if_pos (by simp [size])]
  rfl

theorem parentId_plant {outline : Outline} {parent : Option Nat}
    (hParent : outline.HasParent parent) (above : Option Nat) (level : Int) (forest : Forest) :
    (outline.plant above level forest).parentId parent = outline.parentId parent := by
  induction forest generalizing outline above level with
  | bare => rfl
  | tree record expandable below beside ihBelow ihBeside =>
    have hStand := hParent.stand above level record expandable
    rw [plant, ihBeside (hStand.plant _ _ below), ihBelow hStand, parentId_stand hParent]

end Outline

namespace Growth

variable {gate : Gate σ} {g g' : Growth σ} {u : Unit}

theorem yields_of_reaches {room : Nat} {parent : Option Nat} {level : Int} {location : Location}
    {descents : List Descent} (hParent : g.outline.HasParent parent)
    (h : Reaches (visitAll gate room parent level location descents) g u g') :
    ∃ forest, Yields gate room (g.outline.parentId parent) level location descents g.stock forest
        g'.stock ∧
      g.outline.IsFreeFor forest ∧ g'.outline = g.outline.plant parent level forest := by
  -- The outer induction is on the room, of which every level leaves less, the inner on what stands
  -- side by side.
  induction room using Nat.strongRecOn generalizing parent level location descents g g' with
  | ind room ihRoom =>
    induction descents generalizing g with
    | nil =>
      obtain ⟨-, rfl⟩ := reaches_pure_iff.mp h
      exact ⟨.bare, .done, g.outline.isFreeFor_bare, rfl⟩
    | cons descent rest ihRest =>
      obtain ⟨mid, hFirst, hRest⟩ := reaches_cons_iff.mp h
      cases hValue : descent.value.members? with
      | none =>
        obtain rfl := (reaches_visit_passed_iff hValue).mp hFirst
        obtain ⟨forest, hForest, hFree, hOutline⟩ := ihRest hParent hRest
        exact ⟨forest, .passed hValue hForest, hFree, hOutline⟩
      | some fragment =>
        rw [Json.members?_eq_some_iff] at hValue
        rw [hValue] at hFirst
        obtain ⟨room, rfl⟩ := exists_room_of_reaches hFirst
        obtain ⟨summary, admitted, s, hSummary, hJudge, hDrawn⟩ :=
          (reaches_visit_iff hParent).mp hFirst
        cases admitted with
        | false =>
          obtain rfl := hDrawn
          obtain ⟨forest, hForest, hFree, hOutline⟩ :=
            ihRest (g := ⟨g.outline, g.ids.next, s⟩) hParent hRest
          exact ⟨forest, .keptOut hValue hSummary rfl hJudge hForest, hFree, hOutline⟩
        | true =>
          obtain ⟨hId, expansion, hExpansion, hBelow⟩ := hDrawn
          have hLess : expansion.roomBelow room < room + callsPerEntry :=
            Nat.lt_of_le_of_lt (expansion.roomBelow_le room) (Nat.lt_add_of_pos_right (by decide))
          -- First everything below the new entry, then everything beside it.
          obtain ⟨below, hBelowYields, hBelowFree, hBelowOutline⟩ :=
            ihRoom _ hLess (Outline.hasParent_stand _ _ _ _ _) hBelow
          rw [Outline.parentId_stand_size] at hBelowYields
          have hParentStand := hParent.stand parent level ⟨summary, location ++ descent.steps⟩
            expansion.expandable
          have hParentMid : mid.outline.HasParent parent := by
            rw [hBelowOutline]
            exact hParentStand.plant _ _ _
          obtain ⟨beside, hBeside, hBesideFree, hBesideOutline⟩ := ihRest hParentMid hRest
          rw [hBelowOutline, Outline.parentId_plant hParentStand, Outline.parentId_stand hParent]
            at hBeside
          refine ⟨_, .drawn hValue hSummary rfl hJudge hExpansion hBelowYields hBeside, ?_, ?_⟩
          · rw [Outline.isFreeFor_tree_iff parent level]
            exact ⟨hId, hBelowFree, hBelowOutline ▸ hBesideFree⟩
          · rw [hBesideOutline, hBelowOutline]
            rfl

/-- With a gate that does not look at the entry above, whatever is yielded and can be planted is
reached. -/
theorem reaches_of_yields (hGate : gate.IgnoresAbove) {room : Nat} {parent : Option Nat}
    {level : Int} {location : Location} {descents : List Descent} {forest : Forest}
    {above : Option String} {stock stock' : Stock σ} {outline : Outline}
    (hParent : outline.HasParent parent)
    (h : Yields gate room above level location descents stock forest stock')
    (hFree : outline.IsFreeFor forest) :
    Reaches (visitAll gate room parent level location descents) ⟨outline, stock.ids, stock.gate⟩ ()
      ⟨outline.plant parent level forest, stock'.ids, stock'.gate⟩ := by
  induction h generalizing outline parent with
  | done => exact reaches_pure_iff.mpr ⟨rfl, rfl⟩
  | passed hValue hRest ih =>
    exact reaches_cons_iff.mpr
      ⟨_, (reaches_visit_passed_iff hValue).mpr rfl, ih hParent hFree⟩
  | keptOut hValue hSummary hAbove hJudge hRest ih =>
    refine reaches_cons_iff.mpr ⟨_, ?_, ih hParent hFree⟩
    rw [hValue, reaches_visit_iff hParent]
    exact ⟨_, false, _, hSummary, (hGate _ _ _ _ _).trans hJudge, rfl⟩
  | @drawn _ _ level _ _ _ _ _ _ _ _ _ _ _ _ _ hValue hSummary _ hJudge hExpansion _ _ ihBelow
      ihRest =>
    obtain ⟨hId, hBelowFree, hBesideFree⟩ := (Outline.isFreeFor_tree_iff parent level).mp hFree
    refine reaches_cons_iff.mpr
      ⟨_, ?_, ihRest ((hParent.stand _ _ _ _).plant _ _ _) hBesideFree⟩
    rw [hValue, reaches_visit_iff hParent]
    exact ⟨_, true, _, hSummary, (hGate _ _ _ _ _).trans hJudge, hId, _, hExpansion,
      ihBelow (Outline.hasParent_stand _ _ _ _ _) hBelowFree⟩

end Growth

namespace Outline

variable {gate : Gate σ} {room : Nat} {start : σ} {ids : IdSource} {document : Json}
  {outline : Outline} {growth : Growth σ} {forest : Forest}

/-- The forest that a whole document yields: the document is the one thing to be visited. -/
def YieldedWithin (room : Nat) (gate : Gate σ) (document : Json) (stock : Stock σ)
    (forest : Forest) (stock' : Stock σ) : Prop :=
  Yields gate room none 0 [] [⟨[], document, .null⟩] stock forest stock'

theorem drawWithin_eq_ok_iff :
    drawWithin room gate start ids document = (.ok outline, growth) ↔
      Growth.Reaches (Growth.visitAll gate room none 0 [] [⟨[], document, .null⟩])
        ⟨empty, ids, start⟩ () growth ∧ growth.outline = outline := by
  have hVisit : Growth.outcome (Growth.visitAll gate room none 0 [] [⟨[], document, .null⟩])
      ⟨empty, ids, start⟩ = Growth.growWithin room gate ⟨empty, ids, start⟩ none 0 [] document :=
    Growth.outcome_singleton _ _ _
  unfold Growth.Reaches
  rw [hVisit]
  unfold drawWithin
  rcases Growth.growWithin room gate ⟨empty, ids, start⟩ none 0 [] document with ⟨_ | _, g⟩
  · simp
  · simp only [Prod.mk.injEq, Except.ok.injEq]
    grind

theorem exists_forest_of_drawWithin
    (h : drawWithin room gate start ids document = (.ok outline, growth)) :
    ∃ forest, YieldedWithin room gate document ⟨ids, start⟩ forest growth.stock ∧
      forest.ids.Nodup ∧ outline = ofForest forest := by
  obtain ⟨hReaches, rfl⟩ := drawWithin_eq_ok_iff.mp h
  obtain ⟨forest, hYields, hFree, hOutline⟩ :=
    Growth.yields_of_reaches (hasParent_none _) hReaches
  exact ⟨forest, hYields, hFree.1, hOutline⟩

theorem drawWithin_of_yieldedWithin (hGate : gate.IgnoresAbove) {stock' : Stock σ}
    (h : YieldedWithin room gate document ⟨ids, start⟩ forest stock') (hIds : forest.ids.Nodup) :
    drawWithin room gate start ids document =
      (.ok (ofForest forest), ⟨ofForest forest, stock'.ids, stock'.gate⟩) := by
  have hFree : empty.IsFreeFor forest := ⟨hIds, fun _ _ => rfl⟩
  exact drawWithin_eq_ok_iff.mpr
    ⟨Growth.reaches_of_yields hGate (hasParent_none empty) h hFree, rfl⟩

def YieldedBy (gate : Gate σ) (document : Json) (stock : Stock σ) (forest : Forest)
    (stock' : Stock σ) : Prop :=
  YieldedWithin callLimit gate document stock forest stock'

theorem exists_forest_of_draw (h : draw gate start ids document = (.ok outline, growth)) :
    ∃ forest, YieldedBy gate document ⟨ids, start⟩ forest growth.stock ∧ forest.ids.Nodup ∧
      outline = ofForest forest :=
  exists_forest_of_drawWithin h

theorem draw_of_yieldedBy (hGate : gate.IgnoresAbove) {stock' : Stock σ}
    (h : YieldedBy gate document ⟨ids, start⟩ forest stock') (hIds : forest.ids.Nodup) :
    draw gate start ids document =
      (.ok (ofForest forest), ⟨ofForest forest, stock'.ids, stock'.gate⟩) :=
  drawWithin_of_yieldedWithin hGate h hIds

end Outline

end SchemaOutline
