import SchemaOutline.Proofs.Fragment.Folded
import SchemaOutline.Proofs.Outline.Children
import SchemaOutline.Proofs.Session.Agreement

/-!
# Outlines of folded documents

What holds throughout a document holds wherever a location leads through it, be it to an entry
(`Throughout.at?_along`) or to a fragment on the way to one (`exists_ways_of_append`). A folded
document holds no `allOf` that could still be folded, so no outline of it shows one
(`unfoldable_of_run`).
-/

set_option autoImplicit false

namespace SchemaOutline

/-! ### Along the ways through a document -/

namespace Json.Throughout

variable {p : Members → Prop} {v w : Json}

theorem at?_passage {passage : Passage} (h : v.Throughout p) (hAt : v.at? passage.steps = some w) :
    w.Throughout p := by
  obtain ⟨keyword, hKeyword, position, hSteps⟩ | ⟨keyword, hKeyword, name, hSteps⟩ :=
    passage.steps_cases
  · rw [hSteps, at?_cons] at hAt
    obtain ⟨list, hList, hAt⟩ := Option.bind_eq_some_iff.mp hAt
    obtain ⟨item, hItem, hEnd⟩ := Option.bind_eq_some_iff.mp hAt
    obtain ⟨fragment, rfl, hGet⟩ := step?_key_eq_some_iff.mp hList
    obtain ⟨items, rfl, -, hMem⟩ := step?_index_eq_some_iff.mp hItem
    cases hEnd
    refine h.of_mem_items hKeyword ?_
    rw [Members.get, hGet]
    exact List.mem_of_getElem? hMem
  · rw [hSteps, at?_cons] at hAt
    obtain ⟨named, hNamed, hAt⟩ := Option.bind_eq_some_iff.mp hAt
    obtain ⟨entry, hEntry, hEnd⟩ := Option.bind_eq_some_iff.mp hAt
    obtain ⟨fragment, rfl, hGet⟩ := step?_key_eq_some_iff.mp hNamed
    obtain ⟨named, rfl, hMem⟩ := step?_key_eq_some_iff.mp hEntry
    cases hEnd
    refine h.of_mem_named hKeyword ?_
    rw [Members.get, hGet]
    exact Members.mem_values_of_get? hMem

theorem at?_throughItems {count : Nat} (h : v.Throughout p)
    (hAt : v.at? (throughItems count) = some w) : w.Throughout p := by
  induction count generalizing v with
  | zero =>
    cases hAt
    exact h
  | succ count ih =>
    rw [throughItems_succ, at?_cons] at hAt
    obtain ⟨next, hNext, hRest⟩ := Option.bind_eq_some_iff.mp hAt
    obtain ⟨fragment, rfl, hGet⟩ := step?_key_eq_some_iff.mp hNext
    have hItems : fragment.get "items" = next := by rw [Members.get, hGet, Option.getD_some]
    exact ih (hItems ▸ h.of_get_items) hRest

theorem at?_along {ways : List (Nat × Passage)} (h : v.Throughout p)
    (hAt : v.at? (along ways) = some w) : w.Throughout p := by
  induction ways generalizing v with
  | nil =>
    cases hAt
    exact h
  | cons way rest ih =>
    obtain ⟨count, passage⟩ := way
    rw [along, List.flatMap_cons, at?_append, at?_append] at hAt
    obtain ⟨mid, hMid, hAt⟩ := Option.bind_eq_some_iff.mp hAt
    obtain ⟨target, hTarget, hPassage⟩ := Option.bind_eq_some_iff.mp hMid
    exact ih ((h.at?_throughItems hTarget).at?_passage hPassage) hAt

end Json.Throughout

theorem along_cons (count : Nat) (passage : Passage) (ways : List (Nat × Passage)) :
    along ((count, passage) :: ways) = throughItems count ++ (passage.steps ++ along ways) := by
  rw [along, List.flatMap_cons, List.append_assoc]
  rfl

theorem along_ne_index {ways : List (Nat × Passage)} {position : Int} {rest : Location} :
    along ways ≠ .index position :: rest := by
  intro h
  cases ways with
  | nil => cases h
  | cons way ways =>
    obtain ⟨count, passage⟩ := way
    rw [along_cons] at h
    cases count with
    | zero => cases passage <;> cases h
    | succ count => cases h

/-- A keyword with a position behind it, on the way to a fragment, leads from a fragment to one of
its branches, and that fragment lies on the way as well. -/
theorem exists_ways_of_append {ways : List (Nat × Passage)} {front rest : Location}
    {keyword : String} {position : Int} (hKeyword : keyword ≠ "items")
    (h : along ways = front ++ .key keyword :: .index position :: rest) :
    ∃ before count, front = along before ++ throughItems count := by
  induction ways generalizing front with
  | nil => exact absurd h.symm (List.append_ne_nil_of_right_ne_nil _ (List.cons_ne_nil _ _))
  | cons way ways ih =>
    obtain ⟨count, passage⟩ := way
    rw [along_cons] at h
    obtain ⟨middle, rfl, hMiddle⟩ | ⟨middle, hThrough, hMiddle⟩ := List.append_eq_append_iff.mp h
    · obtain ⟨first, last, hSteps⟩ : ∃ first last, passage.steps = [first, last] := by
        cases passage <;> exact ⟨_, _, rfl⟩
      rw [hSteps, List.cons_append, List.cons_append, List.nil_append] at hMiddle
      -- The keyword is the first step of the passage, or it stands behind the whole of it: behind
      -- the first step alone it would be a name, and no way begins with a position.
      cases middle with
      | nil => exact ⟨[], count, List.append_nil _⟩
      | cons step middle =>
        rw [List.cons_append, List.cons.injEq] at hMiddle
        obtain ⟨rfl, hMiddle⟩ := hMiddle
        cases middle with
        | nil =>
          rw [List.nil_append, List.cons.injEq] at hMiddle
          exact absurd hMiddle.2 along_ne_index
        | cons step middle =>
          rw [List.cons_append, List.cons.injEq] at hMiddle
          obtain ⟨rfl, hMiddle⟩ := hMiddle
          obtain ⟨before, inner, rfl⟩ := ih hMiddle
          refine ⟨(count, passage) :: before, inner, ?_⟩
          rw [along_cons, hSteps]
          simp
    · cases middle with
      | nil =>
        rw [List.append_nil] at hThrough
        exact ⟨[], count, hThrough.symm⟩
      | cons step middle =>
        -- All that stands before the passage are single schemas for items.
        have hStep : step ∈ throughItems count := by
          rw [hThrough]
          exact List.mem_append_right _ List.mem_cons_self
        rw [List.eq_of_mem_replicate hStep] at hMiddle
        exact absurd (Step.key.inj (List.cons.inj hMiddle).1) hKeyword

/-! ### What is shown of `allOf` -/

namespace Fragment

variable {fragment : Members} {branches : List Json}

theorem Unfoldable.of_get (h : Unfoldable fragment) (hGet : fragment.get "allOf" = .arr branches) :
    branches = [] ∨ ∃ branch ∈ branches, branch.StaysApart := by
  rw [Unfoldable, hGet] at h
  exact foldableBranches?_eq_none_iff.mp h

end Fragment

namespace Outline.StandsFor

open Fragment

variable {outline : Outline} {document : Json} {entry : Entry} {record : Record} {shown : Members}
  {inherited : Json}

theorem branches_of_unfoldable (h : outline.StandsFor document entry record shown inherited)
    (hDocument : document.Throughout Unfoldable) {branches : List Json}
    (hShape : record.summary.shape = .combiner .allOf branches) :
    branches = [] ∨ ∃ branch ∈ branches, branch.StaysApart := by
  obtain ⟨fragment : Members, hAt, hShown⟩ := h.leads.fragment
  obtain ⟨ways, hWays, -⟩ := h.leads.level_eq
  have hFragment : Unfoldable fragment := (hDocument.at?_along (hWays ▸ hAt)).root
  have hSame : shown.get "allOf" = fragment.get "allOf" := by
    rw [Members.get, Json.get?_of_inheriting (by decide) hShown, Members.get]
  obtain ⟨c, -, hBranches, -⟩ | ⟨-, -, target, hOther⟩ | ⟨-, -, hOther⟩ :=
    Summary.shape_of_ofFragment h.summarised
  · rw [hShape] at hBranches
    cases hBranches
    rw [Combiner.keyword, hSame]
    cases hGet : fragment.get "allOf" with
    | arr items => exact hFragment.of_get hGet
    | _ => exact .inl rfl
  · rw [hShape] at hOther
    cases hOther
  · rw [hShape] at hOther
    split at hOther
    · cases hOther
    · obtain ⟨_, _, hOther⟩ := hOther
      cases hOther
    · cases hOther

theorem exists_branches_of_unfoldable
    (h : outline.StandsFor document entry record shown inherited)
    (hDocument : document.Throughout Unfoldable) {front rest : Location} {position : Int}
    (hLocation : record.location = front ++ .key "allOf" :: .index position :: rest) :
    ∃ branches, document.at? (front ++ [.key "allOf"]) = some (.arr branches) ∧
      ∃ branch ∈ branches, branch.StaysApart := by
  obtain ⟨fragment, hAt, -⟩ := h.leads.fragment
  obtain ⟨ways, hWays, -⟩ := h.leads.level_eq
  rw [hWays] at hLocation
  obtain ⟨before, count, rfl⟩ := exists_ways_of_append (by decide) hLocation
  rw [hWays, hLocation, Json.at?_append, Json.at?_append] at hAt
  obtain ⟨v, hFront, hAt⟩ := Option.bind_eq_some_iff.mp hAt
  obtain ⟨target, hBefore, hItems⟩ := Option.bind_eq_some_iff.mp hFront
  obtain ⟨list, hList, hAt⟩ := Option.bind_eq_some_iff.mp hAt
  obtain ⟨branch, hBranch, -⟩ := Option.bind_eq_some_iff.mp hAt
  obtain ⟨holder, rfl, hGet⟩ := Json.step?_key_eq_some_iff.mp hList
  obtain ⟨branches, rfl, -, hMem⟩ := Json.step?_index_eq_some_iff.mp hBranch
  have hHolder : Unfoldable holder :=
    ((hDocument.at?_along hBefore).at?_throughItems hItems).root
  have hAllOf : holder.get "allOf" = .arr branches := by rw [Members.get, hGet, Option.getD_some]
  refine ⟨branches, ?_, ?_⟩
  · rw [Json.at?_append, Json.at?_append, hBefore, Option.bind_some, hItems, Option.bind_some,
      Json.at?_cons, hList]
    rfl
  · obtain rfl | hApart := hHolder.of_get hAllOf
    · cases hMem
    · exact hApart

end Outline.StandsFor

namespace Job

variable {job : Job} {ids : IdSource} {delivery : Delivery}

theorem foldAllOf?_of_prepared {document : Json} (hFolds : job.foldsAllOf = true)
    (h : job.prepared = .ok document) : (Json.obj job.document).foldAllOf? = .ok document := by
  unfold prepared at h
  rw [if_pos hFolds] at h
  exact mapError_eq_ok_iff.mp h

/-- A job that folds delivers an `allOf` only where it could not be folded: it has no branches, or
one of them is no fragment or holds a `$ref`; and so has every `allOf` on the way to an entry. -/
theorem unfoldable_of_run (hFolds : job.foldsAllOf = true)
    (hDocument : (Json.obj job.document).NoDuplicates) (hRun : (job.run ids).1 = .ok delivery) :
    ∃ document, (Json.obj job.document).foldAllOf? = .ok document ∧
      ∀ entry ∈ delivery.outline.entries, ∃ record,
        delivery.outline.record? entry.id = some record ∧
        (∀ branches, record.summary.shape = .combiner .allOf branches →
          branches = [] ∨ ∃ branch ∈ branches, branch.StaysApart) ∧
        ∀ front position rest,
          record.location = front ++ .key "allOf" :: .index position :: rest →
            ∃ branches, document.at? (front ++ [.key "allOf"]) = some (.arr branches) ∧
              ∃ branch ∈ branches, branch.StaysApart := by
  obtain ⟨document, hPrepared, hDraw⟩ := exists_draw_of_run hRun
  have hFold := foldAllOf?_of_prepared hFolds hPrepared
  obtain rfl := Json.foldAllOf?_eq_ok hFold
  refine ⟨_, hFold, fun entry hEntry => ?_⟩
  have hThroughout := Json.throughout_foldAllOf hDocument
  obtain ⟨_, record, _, _, hDrawn⟩ :=
    Outline.drawn_of_draw (Json.noDuplicates_foldAllOf _ hDocument) hDraw hEntry
  have hStands := hDrawn.standsFor
  refine ⟨record, hStands.recorded, ?_, ?_⟩
  · intro branches hShape
    exact hStands.branches_of_unfoldable hThroughout hShape
  · intro front position rest hLocation
    exact hStands.exists_branches_of_unfoldable hThroughout hLocation

/-- A property in two branches: in one it has an `allOf` with a reference, which stays, and in the
other one an `allOf` that is folded. -/
def partlyFolded : Members :=
  [("allOf", .arr [
    .obj [("properties", .obj [("a", .obj [("allOf", .arr [.obj [("$ref", .str "#/b")],
      .obj [("allOf", .arr [.obj [("type", .str "object")]])]])])])],
    .obj [("properties", .obj [("a", .obj [("allOf", .arr [.obj []])])])]])]

theorem unfoldable_of_run_partlyFolded :
    ∃ delivery, ((Job.mk "t" partlyFolded true).run (.numbered "u")).1 = .ok delivery ∧
      delivery.records.map (·.2.location) = [[], [.key "properties", .key "a"],
        [.key "properties", .key "a", .key "allOf", .index 0],
        [.key "properties", .key "a", .key "allOf", .index 1]] ∧
      ∃ document, (Json.obj partlyFolded).foldAllOf? = .ok document ∧
        ∀ entry ∈ delivery.outline.entries, ∃ record,
          delivery.outline.record? entry.id = some record ∧
          (∀ branches, record.summary.shape = .combiner .allOf branches →
            branches = [] ∨ ∃ branch ∈ branches, branch.StaysApart) ∧
          ∀ front position rest,
            record.location = front ++ .key "allOf" :: .index position :: rest →
              ∃ branches, document.at? (front ++ [.key "allOf"]) = some (.arr branches) ∧
                ∃ branch ∈ branches, branch.StaysApart := by
  have hNames : (Json.obj partlyFolded).NoDuplicates := by
    simp [partlyFolded, Json.NoDuplicates, Json.NoDuplicatesInMembers, Json.NoDuplicatesInItems]
  have hLocations : ((Job.mk "t" partlyFolded true).run (.numbered "u")).1.toOption.map
      (·.records.map (·.2.location)) =
        some [[], [.key "properties", .key "a"],
          [.key "properties", .key "a", .key "allOf", .index 0],
          [.key "properties", .key "a", .key "allOf", .index 1]] := by
    decide +kernel
  obtain ⟨delivery, hRun, hRecords⟩ := exists_ok_of_map_toOption hLocations
  exact ⟨delivery, hRun, hRecords, unfoldable_of_run rfl hNames hRun⟩

end Job

end SchemaOutline
