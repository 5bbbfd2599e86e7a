import Mathlib.Logic.Equiv.Basic
import SchemaOutline.Proofs.Outline.Growing
import SchemaOutline.Proofs.Outline.RespeltExpansion

/-!
# Outlines under other names

When the properties of a document get other names, nothing changes in its outline but the names
themselves, in the locations of entries and in the summaries of what is below them. Every step of
growth goes on under the new names as under the old ones and fails where that fails
(`Growth.Mirrors`), and so does the drawing of a document (`Outline.draw_respelt`).
-/

set_option autoImplicit false

namespace SchemaOutline

open Json Fragment

variable {f : String → String}

def Record.respelt (f : String → String) (record : Record) : Record :=
  ⟨record.summary.respelt f, Location.respelt f record.location⟩

/-- The same entries with records under other names. -/
def Outline.respelt (f : String → String) (outline : Outline) : Outline :=
  { outline with records := outline.records.map fun (id, record) => (id, record.respelt f) }

namespace Outline

theorem record?_respelt (outline : Outline) (id : String) :
    (outline.respelt f).record? id = (outline.record? id).map (Record.respelt f) := by
  unfold record? respelt
  simp only
  induction outline.records with
  | nil => rfl
  | cons member rest ih =>
    rw [List.map_cons, List.lookup_cons, List.lookup_cons, ih]
    split <;> rfl

theorem addRecord_respelt (outline : Outline) (id : String) (record : Record) :
    (outline.respelt f).addRecord id (record.respelt f) =
      (outline.addRecord id record).map (respelt f) := by
  unfold addRecord
  rw [record?_respelt]
  cases outline.record? id with
  | some taken => rfl
  | none => simp [Except.map, respelt]

theorem modify_respelt (outline : Outline) (index : Int) (change : Entry → Entry) :
    (outline.respelt f).modify index change =
      (outline.modify index change).map (respelt f) := by
  have hPosition : (outline.respelt f).position? index = outline.position? index := rfl
  unfold modify
  rw [hPosition]
  cases outline.position? index <;> rfl

theorem append_respelt (outline : Outline) (id : String) (parent : Option Int) (level : Int) :
    (outline.respelt f).append id parent level =
      ((outline.append id parent level).1, (outline.append id parent level).2.respelt f) := by
  cases parent with
  | none => rfl
  | some above =>
    have hLinked := @modify_respelt f
      { outline with
        entries := outline.entries.push
          { id, level, parent := some above, name := "", children := none } }
      above (·.withChild outline.size)
    simp only [append]
    simp only [respelt, size] at hLinked ⊢
    rw [hLinked]
    generalize modify _ above _ = linked
    cases linked <;> rfl

end Outline

namespace Growth

variable {σ α β γ δ : Type}

def respelt (f : String → String) (g : Growth σ) : Growth σ :=
  { g with outline := g.outline.respelt f }

/-- A step does under other names what another one does, whether that succeeds or fails, and the
value that it gives is changed in a certain way. -/
def Mirrors (f : String → String) (change : α → β) (x : Growing σ α) (y : Growing σ β) : Prop :=
  ∀ g, outcome y (g.respelt f) = ((outcome x g).1.map change, (outcome x g).2.respelt f)

theorem Mirrors.bind {change : α → β} {next : γ → δ} {x : Growing σ α} {y : Growing σ β}
    {k : α → Growing σ γ} {l : β → Growing σ δ} (h : Mirrors f change x y)
    (hNext : ∀ a, Mirrors f next (k a) (l (change a))) : Mirrors f next (x >>= k) (y >>= l) := by
  intro g
  rw [outcome_bind, outcome_bind, h g]
  rcases outcome x g with ⟨_ | a, g'⟩
  · rfl
  · exact hNext a g'

theorem mirrors_pure (change : α → β) (a : α) :
    Mirrors f change (pure a : Growing σ α) (pure (change a)) := fun _ => rfl

theorem mirrors_throw (change : α → β) (failure : Failure) :
    Mirrors f change (throw failure : Growing σ α) (throw failure) := fun _ => rfl

theorem mirrors_lift {change : α → β} {x : Except Failure α} {y : Except Failure β}
    (h : y = x.map change) : Mirrors f change (liftM x : Growing σ α) (liftM y) := by
  intro g
  change ((y, g.respelt f) : Except Failure β × Growth σ) = (x.map change, g.respelt f)
  rw [h]

/-- What comes after something that can fail only has to go on alike where that succeeds. -/
theorem mirrors_lift_bind {change : α → β} {next : γ → δ} {x : Except Failure α}
    {y : Except Failure β} {k : α → Growing σ γ} {l : β → Growing σ δ} (h : y = x.map change)
    (hNext : ∀ a, x = .ok a → Mirrors f next (k a) (l (change a))) :
    Mirrors f next (liftM x >>= k) (liftM y >>= l) := by
  subst h
  cases x with
  | error failure => exact mirrors_throw next failure
  | ok a => exact hNext a rfl

theorem mirrors_freshId : Mirrors f id (freshId : Growing σ String) freshId := fun _ => rfl

theorem mirrors_get : Mirrors f (respelt f) (get : Growing σ (Growth σ)) get := fun _ => rfl

theorem mirrors_modify {change other : Growth σ → Growth σ}
    (h : ∀ g : Growth σ, other (g.respelt f) = (change g).respelt f) :
    Mirrors f id (modify change : Growing σ Unit) (modify other) := by
  intro g
  change ((Except.ok (), other (g.respelt f)) : Except Failure Unit × Growth σ) =
    (.ok (), (change g).respelt f)
  rw [h]

theorem mirrors_above (parent : Option Int) :
    Mirrors f id (above parent : Growing σ (Option Entry)) (above parent) := by
  cases parent with
  | none => exact mirrors_pure id none
  | some index =>
    apply mirrors_get.bind
    intro g
    have hEntry : (g.outline.respelt f).entry index = (g.outline.entry index).map id := by
      change g.outline.entry index = (g.outline.entry index).map id
      cases g.outline.entry index <;> rfl
    apply (mirrors_lift hEntry).bind
    intro entry
    exact mirrors_pure id (some entry)

theorem mirrors_isAdmitted (summary : Summary) (above : Option Entry) (level : Int) :
    Mirrors f id (isAdmitted .unlimited summary above level)
      (isAdmitted .unlimited (summary.respelt f) above level) := fun _ => rfl

theorem mirrors_expand (index : Nat) :
    Mirrors f id (expand index : Growing σ Unit) (expand index) := by
  apply mirrors_get.bind
  intro g
  apply (mirrors_lift (g.outline.modify_respelt index Entry.expanded)).bind
  intro outline
  exact mirrors_modify fun _ => rfl

theorem mirrors_place (summary : Summary) (parent : Option Int) (level : Int)
    (location : Location) :
    Mirrors f id (place summary parent level location : Growing σ Nat)
      (place (summary.respelt f) parent level (location.respelt f)) := by
  have hAppend : Mirrors f id
      (fun g => ((g.outline.append summary.id parent level).1,
        { g with outline := (g.outline.append summary.id parent level).2 }) : Growing σ Nat)
      (fun g => ((g.outline.append summary.id parent level).1,
        { g with outline := (g.outline.append summary.id parent level).2 }) : Growing σ Nat) := by
    intro g
    change (((g.outline.respelt f).append summary.id parent level).1,
      (⟨((g.outline.respelt f).append summary.id parent level).2, g.ids, g.gate⟩ : Growth σ)) =
        ((g.outline.append summary.id parent level).1.map id,
          ⟨(g.outline.append summary.id parent level).2.respelt f, g.ids, g.gate⟩)
    rw [Outline.append_respelt]
    cases (g.outline.append summary.id parent level).1 <;> rfl
  apply hAppend.bind
  intro index
  apply mirrors_get.bind
  intro g
  apply (mirrors_lift (g.outline.addRecord_respelt summary.id ⟨summary, location⟩)).bind
  intro outline
  refine Mirrors.bind (mirrors_modify ?_) ?_
  · intro g
    rfl
  · intro _
    exact mirrors_pure id index

theorem mirrors_forM {items : List α} {change : α → β} {k : α → Growing σ Unit}
    {l : β → Growing σ Unit} (h : ∀ a ∈ items, Mirrors f id (k a) (l (change a))) :
    Mirrors f id (items.forM k) ((items.map change).forM l) := by
  induction items with
  | nil => exact mirrors_pure id ()
  | cons a rest ih =>
    apply (h a List.mem_cons_self).bind
    intro _
    exact ih fun b hMem => h b (List.mem_cons_of_mem _ hMem)

theorem mirrors_visit (room : Nat) (parent : Option Int) (level : Int) {location : Location}
    (hLocation : location.IsWhole f) (v inherited : Json) :
    Mirrors f id (visit .unlimited room parent level location v inherited)
      (visit .unlimited room parent level (location.respelt f) (v.respelt f) inherited) := by
  induction room using Nat.strongRecOn generalizing parent level location v inherited with
  | ind room ih =>
    cases v with
    | obj fragment =>
      rw [Json.respelt, visit, visit]
      by_cases hRoom : room < callsPerEntry
      · rw [if_pos hRoom, if_pos hRoom]
        exact mirrors_throw id _
      rw [if_neg hRoom, if_neg hRoom]
      apply (mirrors_above parent).bind
      intro above
      apply mirrors_freshId.bind
      intro name
      apply (mirrors_lift (Summary.ofFragment_respelt name fragment inherited)).bind
      intro summary
      apply (mirrors_isAdmitted summary above level).bind
      intro admitted
      cases admitted with
      | false => exact mirrors_pure id ()
      | true =>
        apply (mirrors_place summary parent level location).bind
        intro index
        apply mirrors_lift_bind (Expansion.ofSummary_respelt _ summary)
        intro expansion hExpansion
        have hBelow : Mirrors f id
            (expansion.descents.forM fun descent =>
              visit .unlimited (expansion.roomBelow (room - callsPerEntry)) (some index) (level + 1)
                (location ++ descent.steps) descent.value descent.inherited)
            ((expansion.descents.map (Descent.respelt f)).forM fun descent =>
              visit .unlimited (expansion.roomBelow (room - callsPerEntry)) (some index) (level + 1)
                (location.respelt f ++ descent.steps) descent.value descent.inherited) := by
          apply mirrors_forM
          intro descent hMem
          have hSteps : Location.IsWhole f descent.steps :=
            Expansion.isWhole_ofSummary hExpansion descent hMem
          have hVisit := ih _ (Expansion.roomBelow_lt hRoom expansion) (some index) (level + 1)
            (hLocation.append hSteps) descent.value descent.inherited
          rwa [hLocation] at hVisit
        cases hExpandable : expansion.expandable with
        | false =>
          simp only [Expansion.respelt, hExpandable]
          exact hBelow
        | true =>
          simp only [Expansion.respelt, hExpandable]
          apply (mirrors_expand index).bind
          intro _
          exact hBelow
    | _ =>
      rw [visit_of_members?_eq_none rfl, visit_of_members?_eq_none rfl]
      exact mirrors_pure id ()

end Growth

namespace Outline

/-- Drawing a document under other names gives the same outline under other names, or fails in the
same way. -/
theorem draw_respelt (ids : IdSource) (document : Json) :
    (draw .unlimited () ids (document.respelt f)).1 =
      (draw .unlimited () ids document).1.map (respelt f) := by
  have hRun : Growth.growWithin callLimit .unlimited ⟨empty, ids, ()⟩ none 0 []
        (document.respelt f) =
      ((Growth.growWithin callLimit .unlimited ⟨empty, ids, ()⟩ none 0 [] document).1.map id,
        (Growth.growWithin callLimit .unlimited ⟨empty, ids, ()⟩ none 0 [] document).2.respelt f) :=
    Growth.mirrors_visit callLimit none 0 Location.isWhole_nil document .null ⟨empty, ids, ()⟩
  unfold draw drawWithin
  rw [hRun]
  rcases Growth.growWithin callLimit .unlimited ⟨empty, ids, ()⟩ none 0 [] document
    with ⟨_ | _, g⟩
  · rfl
  · rfl

end Outline

/-- Names of properties mean nothing. Under other names, no two of which are the same, the search
for `allOf` and the count of entries come out alike, folding and drawing commute with the change of
names, and a summary keeps its kind and its type. -/
theorem Json.results_respelt (hf : Function.Injective f) (document : Json) :
    Estimate.mentionsAllOf (document.respelt f) = Estimate.mentionsAllOf document ∧
    (∀ limit, Estimate.entryCount (document.respelt f) limit =
      Estimate.entryCount document limit) ∧
    (document.respelt f).foldAllOf? = document.foldAllOf?.map (Json.respelt f) ∧
    (∀ ids, (Outline.draw .unlimited () ids (document.respelt f)).1 =
      (Outline.draw .unlimited () ids document).1.map (Outline.respelt f)) ∧
    ∀ summary : Summary, (summary.respelt f).kind = summary.kind ∧
      (summary.respelt f).type = summary.type := by
  refine ⟨Estimate.mentionsAllOf_respelt document, Estimate.entryCount_respelt document,
    foldAllOf?_respelt hf document, ?_, ?_⟩
  · intro ids
    exact Outline.draw_respelt ids document
  · intro summary
    exact ⟨summary.kind_respelt, rfl⟩

/-- Makes keywords of two names and names of two keywords. -/
def likeKeywords : String → String := Equiv.swap "a" "allOf" ∘ Equiv.swap "b" "default"

/-- Two branches that declare the same properties, and a definition named like one of them. -/
def sharedNames : Json :=
  .obj [("allOf", .arr [
      .obj [("properties", .obj [("a", .obj [("title", .str "x")]), ("b", .obj [])])],
      .obj [("properties", .obj [("b", .obj [("items", .arr [.obj [], .obj []])]),
        ("a", .obj [("patternProperties", .obj [("default", .obj []), ("c", .null)])])])]]),
    ("$defs", .obj [("a", .obj [("properties", .obj [("a", .bool true)])])])]

theorem results_respelt_sharedNames :
    Function.Injective likeKeywords ∧
    sharedNames.respelt likeKeywords =
      .obj [("allOf", .arr [
          .obj [("properties", .obj [("allOf", .obj [("title", .str "x")]), ("default", .obj [])])],
          .obj [("properties", .obj [("default", .obj [("items", .arr [.obj [], .obj []])]),
            ("allOf", .obj [("patternProperties", .obj [("b", .obj []), ("c", .null)])])])]]),
        ("$defs", .obj [("a", .obj [("properties", .obj [("allOf", .bool true)])])])] ∧
    Estimate.mentionsAllOf (sharedNames.respelt likeKeywords) =
      Estimate.mentionsAllOf sharedNames ∧
    (∀ limit, Estimate.entryCount (sharedNames.respelt likeKeywords) limit =
      Estimate.entryCount sharedNames limit) ∧
    (sharedNames.respelt likeKeywords).foldAllOf? =
      sharedNames.foldAllOf?.map (Json.respelt likeKeywords) ∧
    (∀ ids, (Outline.draw .unlimited () ids (sharedNames.respelt likeKeywords)).1 =
      (Outline.draw .unlimited () ids sharedNames).1.map (Outline.respelt likeKeywords)) ∧
    ∀ summary : Summary, (summary.respelt likeKeywords).kind = summary.kind ∧
      (summary.respelt likeKeywords).type = summary.type := by
  have hInjective : Function.Injective likeKeywords :=
    (Equiv.swap "a" "allOf").injective.comp (Equiv.swap "b" "default").injective
  refine ⟨hInjective, ?_, Json.results_respelt hInjective sharedNames⟩
  decide +kernel

end SchemaOutline
