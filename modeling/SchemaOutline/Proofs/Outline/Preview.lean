import SchemaOutline.Proofs.Outline.Preorder
import SchemaOutline.Proofs.Outline.Target
import SchemaOutline.Proofs.Outline.Unlimited

/-!
# Previews

A preview lets only so many entries in. It is the outline that is drawn without a limit, cut off
behind that many entries (`draw_quota_eq_first`): the visit that has used up its quota goes on among
the fragments beside those that are drawn, but nothing more comes of it. Cutting a forest off
(`Forest.take`) cuts its rows off, and a quota yields the forest that is cut off
(`Yields.exists_quota`).
-/

set_option autoImplicit false

namespace SchemaOutline

/-- The entry with only those of its children that stand before a position. -/
def Entry.within (count : Nat) (entry : Entry) : Entry :=
  { entry with children := entry.children.map (·.filter (· < (count : Int))) }

theorem Entry.withChildren_within (count : Nat) {entry : Entry} {present : List Int}
    (h : entry.children = some present) (children : List Nat) :
    (entry.withChildren children).within count =
      (entry.within count).withChildren (children.filter (· < count)) := by
  unfold withChildren
  induction children generalizing entry present with
  | nil => rfl
  | cons child rest ih =>
    have hChild : (entry.withChild child).children = some (present ++ [(child : Int)]) := by
      simp [withChild, childList, h]
    rw [List.foldl_cons, ih hChild, List.filter_cons]
    have hWithin : (entry.withChild child).within count =
        if child < count then (entry.within count).withChild child else entry.within count := by
      split <;> rename_i hLt <;> simp [withChild, within, childList, h, hLt]
    rw [hWithin]
    by_cases hLt : child < count <;> simp [hLt]

/-- The first entries of an outline and their records. -/
def Outline.first (outline : Outline) (count : Nat) : Outline where
  entries := (outline.entries.take count).map (Entry.within count)
  roots := outline.roots.filter (· < count)
  records := outline.records.take count

namespace Forest

/-- The first entries of a forest. -/
def take : Nat → Forest → Forest
  | 0, _ => .bare
  | _, .bare => .bare
  | count + 1, .tree record expandable below beside =>
    .tree record expandable (below.take count) (beside.take (count - below.size))

/-- Every entry that has something below it has a list of children. -/
def Opens : Forest → Prop
  | bare => True
  | tree _ expandable below beside =>
    (expandable = false → below = .bare) ∧ below.Opens ∧ beside.Opens

@[simp] theorem take_zero (forest : Forest) : forest.take 0 = .bare := by
  cases forest <;> rfl

@[simp] theorem take_bare (count : Nat) : bare.take count = .bare := by
  cases count <;> rfl

theorem size_take (forest : Forest) (count : Nat) :
    (forest.take count).size = min count forest.size := by
  induction forest generalizing count with
  | bare => simp [size]
  | tree record expandable below beside ihBelow ihBeside =>
    cases count with
    | zero => simp [size]
    | succ count =>
      rw [take, size, size, ihBelow, ihBeside]
      omega

theorem filter_tops_eq_nil {n bound : Nat} (forest : Forest) (h : bound ≤ n) :
    (forest.tops n).filter (· < bound) = [] := by
  rw [List.filter_eq_nil_iff]
  intro p hMem
  have hBounds := bounds_of_mem_tops hMem
  simp only [decide_eq_true_eq]
  omega

theorem tops_take (forest : Forest) (count n : Nat) :
    (forest.take count).tops n = (forest.tops n).filter (· < n + count) := by
  induction forest generalizing count n with
  | bare => simp [tops]
  | tree record expandable below beside _ ihBeside =>
    cases count with
    | zero =>
      rw [take_zero, Nat.add_zero, filter_tops_eq_nil _ (Nat.le_refl n)]
      rfl
    | succ count =>
      rw [take, tops, tops, List.filter_cons_of_pos (by simp), size_take]
      congr 1
      by_cases hFits : below.size ≤ count
      · have hBound : n + 1 + below.size + (count - below.size) = n + (count + 1) := by omega
        rw [Nat.min_eq_right hFits, ihBeside, hBound]
      · rw [Nat.sub_eq_zero_of_le (by omega), take_zero, filter_tops_eq_nil _ (by omega)]
        rfl

theorem rows_take {forest : Forest} (hOpens : forest.Opens) (count n : Nat) (parent : Option Nat)
    (level : Int) :
    (forest.take count).rows n parent level =
      ((forest.rows n parent level).take count).map fun (entry, record) =>
        (entry.within (n + count), record) := by
  induction forest generalizing count n parent level with
  | bare => simp [rows]
  | tree record expandable below beside ihBelow ihBeside =>
    obtain ⟨hOpen, hBelow, hBeside⟩ := hOpens
    cases count with
    | zero => simp [rows]
    | succ count =>
      have hBound : n + 1 + count = n + (count + 1) := by omega
      rw [take, rows, rows, size_take, tops_take, ihBelow hBelow, List.cons_append,
        List.cons_append, List.take_succ_cons, List.take_append, length_rows, List.map_cons,
        List.map_append, hBound]
      congr 1
      · -- An entry without a list of children has nothing below it that could be cut off.
        cases expandable with
        | true =>
          have hChildren := @Entry.withChildren_within (n + (count + 1))
            ⟨record.summary.id, "", level, parent.map Nat.cast, some []⟩ [] rfl (below.tops (n + 1))
          exact Prod.ext hChildren.symm rfl
        | false =>
          rw [hOpen rfl]
          rfl
      congr 1
      by_cases hFits : below.size ≤ count
      · have hBehind : n + 1 + below.size + (count - below.size) = n + (count + 1) := by omega
        rw [Nat.min_eq_right hFits, ihBeside hBeside, hBehind]
      · rw [Nat.sub_eq_zero_of_le (by omega), take_zero, List.take_zero]
        rfl

theorem records_take (forest : Forest) (count : Nat) :
    (forest.take count).records = forest.records.take count := by
  induction forest generalizing count with
  | bare => simp [records]
  | tree record expandable below beside ihBelow ihBeside =>
    cases count with
    | zero => simp [records]
    | succ count =>
      have hLength : below.records.length = below.size := by
        rw [← below.map_snd_rows 0 none 0, List.length_map, length_rows]
      rw [take, records, records, ihBelow, ihBeside, List.cons_append, List.cons_append,
        List.take_succ_cons, List.take_append, hLength]

end Forest

namespace Outline

theorem ofForest_take {forest : Forest} (hOpens : forest.Opens) (count : Nat) :
    ofForest (forest.take count) = (ofForest forest).first count := by
  have hEntries :
      (ofForest (forest.take count)).entries = ((ofForest forest).first count).entries := by
    rw [first, entries_ofForest, entries_ofForest, Forest.rows_take hOpens]
    simp [List.map_take, Function.comp_def]
  have hRoots : (ofForest (forest.take count)).roots = ((ofForest forest).first count).roots := by
    rw [first, roots_ofForest, roots_ofForest, Forest.tops_take, Nat.zero_add]
  have hRecords :
      (ofForest (forest.take count)).records = ((ofForest forest).first count).records := by
    rw [first, records_ofForest, records_ofForest, Forest.records_take, List.map_take]
  exact congr (congr (congrArg Outline.mk hEntries) hRoots) hRecords

end Outline

namespace Gate

variable {limit : Int} {admitted : Nat}

theorem judge_quota_of_lt (h : admitted < limit) (summary : Summary) (above : Option Entry)
    (level : Int) : (quota limit).judge admitted summary above level = (true, admitted + 1) :=
  if_neg (by omega)

theorem judge_quota_of_le (h : limit ≤ admitted) (summary : Summary) (above : Option Entry)
    (level : Int) : (quota limit).judge admitted summary above level = (false, admitted) :=
  if_pos h

end Gate

namespace Yields

variable {room : Nat} {above : Option String} {level : Int} {location : Location}
  {descents : List Descent} {forest : Forest}

theorem opens {σ : Type} {gate : Gate σ} {stock stock' : Stock σ}
    (h : Yields gate room above level location descents stock forest stock') : forest.Opens := by
  induction h with
  | done => trivial
  | passed _ _ ih | keptOut _ _ _ _ _ ih => exact ih
  | drawn _ hSummary _ _ hExpansion hBelow _ ihBelow ihRest =>
    refine ⟨fun hLeaf => ?_, ihBelow, ihRest⟩
    rw [Expansion.descents_of_not_expandable hSummary hExpansion hLeaf] at hBelow
    exact hBelow.eq_bare

variable {stock stock' : Stock Unit}

/-- When the quota is used up, whatever is visited yields nothing more. -/
theorem exists_spent (h : Yields .unlimited room above level location descents stock forest stock')
    {limit : Int} {admitted : Nat} (hSpent : limit ≤ admitted) (ids : IdSource) :
    ∃ ids', Yields (.quota limit) room above level location descents ⟨ids, admitted⟩ .bare
      ⟨ids', admitted⟩ := by
  induction h generalizing ids with
  | done => exact ⟨ids, .done⟩
  | passed hValue _ ih =>
    obtain ⟨ids', hRest⟩ := ih ids
    exact ⟨ids', .passed hValue hRest⟩
  | keptOut _ _ _ hJudge => cases hJudge
  | drawn hValue hSummary hAbove _ _ _ _ _ ihRest =>
    obtain ⟨ids', hRest⟩ := ihRest ids.next
    exact ⟨ids', .keptOut hValue (Summary.ofFragment_of_ofFragment hSummary _) hAbove
      (Gate.judge_quota_of_le hSpent _ _ _) hRest⟩

/-- With a quota what is yielded without one is cut off where the quota is used up. If nothing is
cut off the same identifiers are taken. -/
theorem exists_quota (h : Yields .unlimited room above level location descents stock forest stock')
    {limit : Int} {admitted count : Nat} (hCount : count = (limit - admitted).toNat) :
    ∃ last : Stock Nat, Yields (.quota limit) room above level location descents
        ⟨stock.ids, admitted⟩ (forest.take count) last ∧
      (forest.size ≤ count → last = ⟨stock'.ids, admitted + forest.size⟩) ∧
      (count < forest.size → limit ≤ last.gate) := by
  induction h generalizing admitted count with
  | done =>
    refine ⟨_, ?_, fun _ => rfl, fun hLt => absurd hLt (Nat.not_lt_zero count)⟩
    rw [Forest.take_bare]
    exact .done
  | passed hValue _ ih =>
    obtain ⟨last, hRest, hLast⟩ := ih hCount
    exact ⟨last, .passed hValue hRest, hLast⟩
  | keptOut _ _ _ hJudge => cases hJudge
  | @drawn _ _ _ _ _ _ _ _ _ below beside _ _ _ _ _ hValue hSummary hAbove hJudge hExpansion hBelow
      hRest ihBelow ihRest =>
    cases count with
    | zero =>
      have hWhole := Yields.drawn hValue hSummary hAbove hJudge hExpansion hBelow hRest
      have hOut : limit ≤ (admitted : Int) := by omega
      obtain ⟨ids', hSpent⟩ := hWhole.exists_spent hOut _
      refine ⟨_, hSpent, fun hSize => absurd hSize ?_, fun _ => ?_⟩
      · rw [Forest.size]
        omega
      · exact hOut
    | succ count =>
      have hIn : (admitted : Int) < limit := by omega
      have hLet := Gate.judge_quota_of_lt hIn
      have hBelowCount : count = (limit - (admitted + 1 : Nat)).toNat := by omega
      obtain ⟨mid, hBelow', hFit, hSpent⟩ := ihBelow hBelowCount
      by_cases hFits : below.size ≤ count
      · obtain rfl := hFit hFits
        have hBesideCount :
            count - below.size = (limit - (admitted + 1 + below.size : Nat)).toNat := by omega
        obtain ⟨last, hBeside, hBesideFit, hBesideSpent⟩ := ihRest hBesideCount
        refine ⟨last, .drawn hValue hSummary hAbove (hLet _ _ _) hExpansion hBelow' hBeside, ?_, ?_⟩
        · intro hSize
          rw [Forest.size] at hSize ⊢
          rw [hBesideFit (by omega)]
          congr 1
          omega
        · intro hSize
          rw [Forest.size] at hSize
          exact hBesideSpent (by omega)
      · -- The quota is used up below the entry, and nothing beside it is let in.
        have hOut : limit ≤ mid.gate := hSpent (by omega)
        obtain ⟨ids', hBeside⟩ := hRest.exists_spent hOut mid.ids
        rw [Forest.take, Nat.sub_eq_zero_of_le (by omega), Forest.take_zero]
        refine ⟨_, .drawn hValue hSummary hAbove (hLet _ _ _) hExpansion hBelow' hBeside,
          fun hSize => absurd hSize ?_, fun _ => hOut⟩
        rw [Forest.size]
        omega

end Yields

theorem Gate.quota_ignoresAbove (limit : Int) : (Gate.quota limit).IgnoresAbove :=
  fun _ _ _ _ _ => rfl

namespace Outline

variable {ids : IdSource} {document : Json} {outline : Outline} {forest : Forest}

theorem draw_quota_eq_first (hDraw : (draw .unlimited () ids document).1 = .ok outline)
    (limit : Int) :
    (draw (.quota limit) 0 ids document).1 = .ok (outline.first limit.toNat) := by
  obtain ⟨forest, hYields, hIds, rfl⟩ := exists_forest_of_draw (Prod.ext hDraw rfl)
  have hCount : limit.toNat = (limit - (0 : Nat)).toNat := by simp
  obtain ⟨last, hQuota, -⟩ := hYields.exists_quota hCount
  have hFirst : (forest.take limit.toNat).ids.Nodup := by
    rw [Forest.ids, Forest.records_take, List.map_take]
    exact hIds.sublist (List.take_sublist _ _)
  rw [draw_of_yieldedBy (Gate.quota_ignoresAbove limit) hQuota hFirst, ofForest_take hYields.opens]

/-- The first entries of an outline have the records that they have in the whole of it. -/
theorem record?_first (hKeys : outline.records.map Prod.fst = outline.entries.toList.map Entry.id)
    (hIds : (outline.records.map Prod.fst).Nodup) {count : Nat} {entry : Entry}
    (hEntry : entry ∈ (outline.first count).entries) :
    ∃ record, (outline.first count).record? entry.id = some record ∧
      outline.record? entry.id = some record := by
  have hFirst : (outline.first count).records.map Prod.fst =
      (outline.first count).entries.toList.map Entry.id := by
    have hIdentifiers : Entry.id ∘ Entry.within count = Entry.id := rfl
    simp [first, List.map_take, hKeys, hIdentifiers]
  have hKey : entry.id ∈ (outline.first count).records.map Prod.fst := by
    rw [hFirst]
    exact List.mem_map.mpr ⟨entry, Array.mem_toList_iff.mpr hEntry, rfl⟩
  obtain ⟨⟨id, record⟩, hMem, rfl⟩ := List.mem_map.mp hKey
  refine ⟨record, lookup_of_mem ?_ hMem, lookup_of_mem hIds (List.mem_of_mem_take hMem)⟩
  exact hIds.sublist ((List.take_sublist _ _).map _)

/-- A preview is the outline that is drawn without a limit, cut off behind as many entries as are
let in: entry by entry it is the same but for the children that are cut off, with its record. -/
theorem preview_of_draw (hDraw : (draw .unlimited () ids document).1 = .ok outline) (limit : Int) :
    (draw (.quota limit) 0 ids document).1 = .ok (outline.first limit.toNat) ∧
    ∀ entry ∈ (outline.first limit.toNat).entries, ∃ record,
      (outline.first limit.toNat).record? entry.id = some record ∧
        outline.record? entry.id = some record := by
  refine ⟨draw_quota_eq_first hDraw limit, fun entry => ?_⟩
  obtain ⟨forest, -, hIds, rfl⟩ := exists_forest_of_draw (Prod.ext hDraw rfl)
  have hKeys : (ofForest forest).records.map Prod.fst = forest.ids := by
    rw [records_ofForest, List.map_map]
    rfl
  apply record?_first
  · rw [hKeys, entries_ids_ofForest]
  · rwa [hKeys]

/-- Two branches with properties, of which the second one has a tuple among its own. -/
def wideBranches : Json :=
  .obj [("oneOf", .arr [.obj [("properties", .obj [("a", .obj []), ("b", .obj [])])],
    .obj [("properties", .obj [("c", .obj [("items", .arr [.obj [], .obj []])])])]])]

/-- The preview ends with an entry that can be opened and whose children are all cut off. -/
theorem preview_of_draw_wideBranches :
    ∃ outline, (draw .unlimited () (.numbered "n") wideBranches).1 = .ok outline ∧
      outline.entries.toList.map (·.children) =
        [some [1, 4], some [2, 3], none, none, some [5], some [6, 7], none, none] ∧
      (outline.first 6).entries.toList.map (·.children) =
        [some [1, 4], some [2, 3], none, none, some [5], some []] ∧
      (draw (.quota 6) 0 (.numbered "n") wideBranches).1 = .ok (outline.first 6) := by
  have hChildren :
      (draw .unlimited () (.numbered "n") wideBranches).1.toOption.map (fun outline =>
          (outline.entries.toList.map (·.children),
            (outline.first 6).entries.toList.map (·.children))) =
        some ([some [1, 4], some [2, 3], none, none, some [5], some [6, 7], none, none],
          [some [1, 4], some [2, 3], none, none, some [5], some []]) := by
    decide +kernel
  obtain ⟨outline, hDraw, hEntries⟩ := exists_ok_of_map_toOption hChildren
  rw [Prod.mk.injEq] at hEntries
  exact ⟨outline, hDraw, hEntries.1, hEntries.2, (preview_of_draw hDraw 6).1⟩

end Outline

end SchemaOutline
