import SchemaOutline.Proofs.Identifier
import SchemaOutline.Proofs.Outline.Forest
import SchemaOutline.Proofs.Outline.Growing

/-!
# Growth that may be interrupted

Growth can stop at every fragment: the fragment may be unfit for a summary, too deep, or whoever is
asked about it may fail (`Inquiry`). What has grown until then is a forest all the same, with the
trees that were under construction cut off where the growth stopped (`exists_plants_visitAsking`).
-/

set_option autoImplicit false

namespace SchemaOutline

variable {σ : Type}

/-- Who is asked about every fragment before its entry is added. Unlike the answer of a gate, this
one may be a failure. -/
structure Inquiry (σ : Type) where
  answer : σ → Summary → Option Entry → Int → Except Failure Bool × σ

def Gate.inquiry (gate : Gate σ) : Inquiry σ where
  answer s summary above level :=
    (.ok (gate.judge s summary above level).1, (gate.judge s summary above level).2)

/-- Every key of the records was taken from the source of the identifiers. -/
def Outline.KeyedBy (outline : Outline) (ids : IdSource) : Prop :=
  ∀ id ∈ outline.records.map Prod.fst, ∃ n < ids.taken, ids.nth n = id

namespace Outline.KeyedBy

variable {outline : Outline} {ids : IdSource}

theorem record?_peek (h : outline.KeyedBy ids) (hIds : Function.Injective ids.nth) :
    outline.record? ids.peek = none := by
  rw [record?_eq_none_iff]
  intro hMem
  obtain ⟨n, hLt, hSame⟩ := h _ hMem
  have hEq := hIds hSame
  omega

theorem later (h : outline.KeyedBy ids) {others : IdSource} (hNth : others.nth = ids.nth)
    (hTaken : ids.taken ≤ others.taken) : outline.KeyedBy others := by
  intro id hMem
  obtain ⟨n, hLt, hSame⟩ := h id hMem
  refine ⟨n, Nat.lt_of_lt_of_le hLt hTaken, ?_⟩
  rw [hNth, hSame]

theorem stand (h : outline.KeyedBy ids) {record : Record} (hId : record.summary.id = ids.peek)
    (parent : Option Nat) (level : Int) (expandable : Bool) :
    (outline.stand parent level record expandable).KeyedBy ids.next := by
  intro id hMem
  simp only [Outline.stand, List.map_append, List.map_cons, List.map_nil, List.mem_append,
    List.mem_singleton] at hMem
  rcases hMem with hOld | rfl
  · obtain ⟨n, hLt, hSame⟩ := h id hOld
    exact ⟨n, Nat.lt_succ_of_lt hLt, hSame⟩
  · exact ⟨ids.taken, Nat.lt_succ_self _, hId.symm⟩

end Outline.KeyedBy

/-- At most one tree stands at the top of a forest. -/
def Forest.IsSingle : Forest → Prop
  | .bare => True
  | .tree _ _ _ beside => beside = .bare

namespace Growth

def ask (inquiry : Inquiry σ) (summary : Summary) (above : Option Entry) (level : Int) :
    Growing σ Bool := fun g =>
  let (answer, s) := inquiry.answer g.gate summary above level
  (answer, { g with gate := s })

theorem outcome_ask (inquiry : Inquiry σ) (summary : Summary) (above : Option Entry) (level : Int)
    (g : Growth σ) : outcome (ask inquiry summary above level) g =
      ((inquiry.answer g.gate summary above level).1,
        { g with gate := (inquiry.answer g.gate summary above level).2 }) := rfl

/-- A visit for which an inquiry takes the place of the gate. -/
def visitAsking (inquiry : Inquiry σ) (room : Nat) (parent : Option Int) (level : Int)
    (location : Location) (value inherited : Json) : Growing σ Unit :=
  match value with
  | .obj fragment =>
    if room < callsPerEntry then throw .tooDeep
    else do
      let above ← above parent
      let id ← freshId
      let summary ← Summary.ofFragment id fragment inherited
      if ← ask inquiry summary above level then
        let index ← place summary parent level location
        let expansion ← Expansion.ofSummary (room - callsPerEntry) summary
        if expansion.expandable then expand index
        expansion.descents.forM fun descent =>
          visitAsking inquiry (expansion.roomBelow (room - callsPerEntry)) (some index) (level + 1)
            (location ++ descent.steps) descent.value descent.inherited
  | _ => return
termination_by room
decreasing_by
  exact Expansion.roomBelow_lt ‹_› _

/-- A gate never fails, and to ask it is to visit under it. -/
theorem visitAsking_inquiry (gate : Gate σ) : visitAsking gate.inquiry = visit gate := by
  funext room
  induction room using Nat.strongRecOn with
  | ind room ih =>
    funext parent level location value inherited
    rw [visitAsking.eq_def, visit.eq_def]
    cases value with
    | obj fragment =>
      dsimp only
      split
      · rfl
      · rename_i hRoom
        simp only [ih _ (Expansion.roomBelow_lt hRoom _)]
        rfl
    | _ => rfl

/-! ### What an interrupted growth leaves -/

/-- One state comes from another by planting a forest whose identifiers are new. -/
structure Plants (g : Growth σ) (parent : Option Nat) (level : Int) (forest : Forest)
    (g' : Growth σ) : Prop where
  outline : g'.outline = g.outline.plant parent level forest
  free : g.outline.IsFreeFor forest
  nth : g'.ids.nth = g.ids.nth
  keys : g'.outline.KeyedBy g'.ids

variable {g g' g'' : Growth σ} {parent : Option Nat} {level : Int} {forest below : Forest}

theorem Plants.bare (h : g.outline.KeyedBy g.ids) (hOutline : g'.outline = g.outline)
    (hNth : g'.ids.nth = g.ids.nth) (hTaken : g.ids.taken ≤ g'.ids.taken) :
    Plants g parent level .bare g' where
  outline := hOutline
  free := g.outline.isFreeFor_bare
  nth := hNth
  keys := by
    rw [hOutline]
    exact h.later hNth hTaken

theorem Plants.tree {record : Record} {expandable : Bool} {s : σ}
    (hFree : g.outline.record? record.summary.id = none)
    (h : Plants ⟨g.outline.stand parent level record expandable, g.ids.next, s⟩
      (some g.outline.size) (level + 1) below g') :
    Plants g parent level (.tree record expandable below .bare) g' where
  outline := h.outline
  free := (Outline.isFreeFor_tree_iff parent level).mpr
    ⟨hFree, h.free, Outline.isFreeFor_bare _⟩
  nth := h.nth
  keys := h.keys

/-- A single tree and the forest that is planted after it stand side by side. -/
theorem Plants.beside (h : Plants g parent level forest g') (hSingle : forest.IsSingle)
    {beside : Forest} (hBeside : Plants g' parent level beside g'') :
    ∃ both, Plants g parent level both g'' := by
  cases forest with
  | bare =>
    refine ⟨beside, ?_, ?_, hBeside.nth.trans h.nth, hBeside.keys⟩
    · rw [hBeside.outline, h.outline]
      rfl
    · have hFree := hBeside.free
      rwa [h.outline] at hFree
  | tree record expandable below none =>
    obtain rfl : none = .bare := hSingle
    refine ⟨.tree record expandable below beside, ?_, ?_, hBeside.nth.trans h.nth,
      hBeside.keys⟩
    · rw [hBeside.outline, h.outline]
      rfl
    · obtain ⟨hId, hBelow, -⟩ := (Outline.isFreeFor_tree_iff parent level).mp h.free
      have hFree := hBeside.free
      rw [h.outline] at hFree
      exact (Outline.isFreeFor_tree_iff parent level).mpr ⟨hId, hBelow, hFree⟩

/-- If each step plants at most a tree, as far as it gets, a list of steps plants a forest. -/
theorem exists_plants_forM {α : Type} {f : α → Growing σ Unit} {items : List α}
    (hItem : ∀ a ∈ items, ∀ g : Growth σ, Function.Injective g.ids.nth → g.outline.KeyedBy g.ids →
      g.outline.HasParent parent →
      ∃ forest : Forest, forest.IsSingle ∧ Plants g parent level forest (outcome (f a) g).2)
    (hIds : Function.Injective g.ids.nth) (hKeys : g.outline.KeyedBy g.ids)
    (hParent : g.outline.HasParent parent) :
    ∃ forest, Plants g parent level forest (outcome (items.forM f) g).2 := by
  induction items generalizing g with
  | nil => exact ⟨.bare, .bare hKeys rfl rfl (Nat.le_refl _)⟩
  | cons a rest ih =>
    obtain ⟨first, hSingle, hFirst⟩ := hItem a List.mem_cons_self g hIds hKeys hParent
    change ∃ forest, Plants g parent level forest (outcome (f a >>= fun _ => rest.forM f) g).2
    rw [outcome_bind]
    rcases hOutcome : outcome (f a) g with ⟨_ | _, mid⟩
    · rw [hOutcome] at hFirst
      exact ⟨first, hFirst⟩
    · rw [hOutcome] at hFirst
      have hParentMid : mid.outline.HasParent parent := by
        rw [hFirst.outline]
        exact hParent.plant _ _ _
      obtain ⟨beside, hBeside⟩ := ih (fun b hMem => hItem b (List.mem_cons_of_mem _ hMem))
        (hFirst.nth ▸ hIds) hFirst.keys hParentMid
      exact hFirst.beside hSingle hBeside

/-- An entry that is let in stands, whatever then becomes of its expansion. -/
theorem exists_plants_drawn {room : Nat} {record : Record} {s : σ}
    {visitBelow : Expansion → Nat → Descent → Growing σ Unit}
    (hBelow : ∀ expansion index descent (h : Growth σ), Function.Injective h.ids.nth →
      h.outline.KeyedBy h.ids → h.outline.HasParent (some index) →
      ∃ forest : Forest, forest.IsSingle ∧
        Plants h (some index) (level + 1) forest (outcome (visitBelow expansion index descent) h).2)
    (hIds : Function.Injective g.ids.nth) (hKeys : g.outline.KeyedBy g.ids)
    (hParent : g.outline.HasParent parent) (hId : record.summary.id = g.ids.peek) :
    ∃ forest : Forest, forest.IsSingle ∧ Plants g parent level forest (outcome (do
        let index ← place record.summary (parent.map Nat.cast) level record.location
        let expansion ← Expansion.ofSummary room record.summary
        if expansion.expandable then expand index
        expansion.descents.forM (visitBelow expansion index)) ⟨g.outline, g.ids.next, s⟩).2 := by
  have hFree : g.outline.record? record.summary.id = none := hId ▸ hKeys.record?_peek hIds
  have hPlace := (@reaches_place_iff σ ⟨g.outline, g.ids.next, s⟩
    ⟨g.outline.stand parent level record false, g.ids.next, s⟩ record parent level g.outline.size
    hParent).mpr ⟨hFree, rfl, rfl⟩
  rw [hPlace.outcome_bind]
  cases hExpansion : Expansion.ofSummary room record.summary with
  | error failure =>
    refine ⟨.tree record false .bare .bare, rfl, .tree hFree (.bare ?_ rfl rfl (Nat.le_refl _))⟩
    exact hKeys.stand hId parent level false
  | ok expansion =>
    obtain ⟨below, hPlanted⟩ := @exists_plants_forM σ
      ⟨g.outline.stand parent level record expansion.expandable, g.ids.next, s⟩
      (some g.outline.size) (level + 1) Descent (visitBelow expansion g.outline.size)
      expansion.descents (fun descent _ => hBelow expansion g.outline.size descent)
      hIds (hKeys.stand hId parent level _) (Outline.hasParent_stand _ _ _ _ _)
    refine ⟨.tree record expansion.expandable below .bare, rfl, .tree (s := s) hFree ?_⟩
    rw [(reaches_lift_iff.mpr ⟨rfl, rfl⟩).outcome_bind]
    -- Only now does the entry get the list of children that its expansion gives it.
    cases hExpandable : expansion.expandable with
    | false =>
      rw [hExpandable] at hPlanted
      exact hPlanted
    | true =>
      rw [hExpandable] at hPlanted
      have hExpand := (@reaches_expand_iff σ
        ⟨g.outline.stand parent level record false, g.ids.next, s⟩ _ g.outline.size ()).mpr
        ⟨_, Outline.expand_stand _ parent level record, rfl⟩
      rw [if_pos rfl, hExpand.outcome_bind]
      exact hPlanted

/-- Whether a visit succeeds or stops somewhere, what it leaves is planted in one piece. -/
theorem exists_plants_visitAsking (inquiry : Inquiry σ) (room : Nat) {location : Location}
    {value inherited : Json} (hIds : Function.Injective g.ids.nth) (hKeys : g.outline.KeyedBy g.ids)
    (hParent : g.outline.HasParent parent) :
    ∃ forest : Forest, forest.IsSingle ∧ Plants g parent level forest
      (outcome (visitAsking inquiry room (parent.map Nat.cast) level location value inherited)
        g).2 := by
  induction room using Nat.strongRecOn generalizing g parent level location value inherited with
  | ind room ih =>
    rw [visitAsking.eq_def]
    cases value with
    | obj fragment =>
      dsimp only
      split
      · exact ⟨.bare, trivial, .bare hKeys rfl rfl (Nat.le_refl _)⟩
      rename_i hRoom
      rw [(reaches_above_iff.mpr ⟨rfl, hParent.isSome, rfl⟩).outcome_bind,
        (reaches_freshId_iff.mpr ⟨rfl, rfl⟩).outcome_bind]
      cases hSummary : Summary.ofFragment g.ids.peek fragment inherited with
      | error failure => exact ⟨.bare, trivial, .bare hKeys rfl rfl (Nat.le_succ _)⟩
      | ok summary =>
        rw [(reaches_lift_iff.mpr ⟨rfl, rfl⟩).outcome_bind, outcome_bind]
        rw [outcome_ask]
        rcases inquiry.answer g.gate summary (parent.bind (g.outline.entries[·]?)) level
          with ⟨answer, s⟩
        cases answer with
        | error failure => exact ⟨.bare, trivial, .bare hKeys rfl rfl (Nat.le_succ _)⟩
        | ok admitted =>
          cases admitted with
          | false => exact ⟨.bare, trivial, .bare hKeys rfl rfl (Nat.le_succ _)⟩
          | true =>
            have hId := Summary.id_of_ofFragment hSummary
            have hDrawn := @exists_plants_drawn σ g parent level (room - callsPerEntry)
              ⟨summary, location⟩
            apply hDrawn _ hIds hKeys hParent hId
            intro expansion index descent h hIds hKeys hParent
            exact ih _ (Expansion.roomBelow_lt hRoom expansion) hIds hKeys hParent
    | _ => exact ⟨.bare, trivial, .bare hKeys rfl rfl (Nat.le_refl _)⟩

end Growth

end SchemaOutline
