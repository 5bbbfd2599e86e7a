import Mathlib.Data.List.Induction
import Mathlib.Data.List.Nodup
import SchemaOutline.Proofs.Outline.Interrupted
import SchemaOutline.Proofs.Outline.Preorder

/-!
# Outlines that grow call by call

One outline may grow many times, at the top and under any of its entries, and any of these growths
may fail. Each one only appends: it gives at most one child to the entry it grows under, and
everything else that is new stands below that child (`Outline.GrownUnder`). The links stay right
all the time (`Outline.IsLinked`), because they are right after every single entry that is added,
and a growth that stops half-way has still planted a forest.
-/

set_option autoImplicit false

namespace SchemaOutline

namespace Outline

/-- The positions of the entries with a given parent, or of those without one, in ascending
order. -/
def positionsUnder (outline : Outline) (parent : Option Int) : List Nat :=
  (List.range outline.size).filter fun p => (outline.entries[p]?).map Entry.parent = some parent

/-- The links of an outline agree: the roots and the lists of children are what the parents say,
and the records are those of the entries. -/
structure IsLinked (outline : Outline) : Prop where
  roots : outline.roots = outline.positionsUnder none
  childList : ∀ (p : Nat) (entry : Entry), outline.entries[p]? = some entry →
    entry.childList = (outline.positionsUnder (some (p : Int))).map Nat.cast
  parent : ∀ (q : Nat) (entry : Entry) (index : Int), outline.entries[q]? = some entry →
    entry.parent = some index → ∃ p : Nat, index = p ∧ p < q
  ids : (outline.entries.toList.map Entry.id).Nodup
  records : outline.records.map Prod.fst = outline.entries.toList.map Entry.id

/-- One outline comes from another by growing under an entry or at the top. The first new entry, if
there is one, becomes a child there, and all other new entries are below it; nothing else
changes. -/
structure GrownUnder (outline : Outline) (parent : Option Nat) (grown : Outline) : Prop where
  size : outline.size ≤ grown.size
  entries : ∀ (p : Nat) (entry : Entry), outline.entries[p]? = some entry → grown.entries[p]? = some
    (if parent = some p ∧ outline.size < grown.size then entry.withChild outline.size else entry)
  roots : grown.roots =
    outline.roots ++ if parent = none ∧ outline.size < grown.size then [outline.size] else []
  records : outline.records <+: grown.records
  below : ∀ q, outline.size < q → q < grown.size →
    Relation.TransGen grown.IsParent outline.size q

variable {outline : Outline} {parent : Option Nat} {level : Int} {record : Record}
  {expandable : Bool} {forest : Forest}

/-! ### Links after one more entry -/

theorem getElem?_stand (outline : Outline) (parent : Option Nat) (level : Int) (record : Record)
    (expandable : Bool) (p : Nat) :
    (outline.stand parent level record expandable).entries[p]? =
      if p = outline.size then
        some { id := record.summary.id, name := "", level, parent := parent.map Nat.cast
               children := if expandable then some [] else none }
      else (outline.entries[p]?).map fun entry =>
        if parent = some p then entry.withChild outline.size else entry := by
  simp only [stand]
  rw [Array.getElem?_push, size_adopting]
  change (if p = outline.size then _ else _) = _
  split
  · rfl
  · rw [getElem?_adopting]

theorem parent_stand_of_lt (outline : Outline) (parent : Option Nat) (level : Int) (record : Record)
    (expandable : Bool) {p : Nat} (hp : p < outline.size) :
    ((outline.stand parent level record expandable).entries[p]?).map Entry.parent =
      (outline.entries[p]?).map Entry.parent := by
  rw [getElem?_stand, if_neg (Nat.ne_of_lt hp), Option.map_map]
  congr 1
  funext entry
  rw [Function.comp_apply]
  split <;> rfl

theorem positionsUnder_stand (outline : Outline) (parent : Option Nat) (level : Int)
    (record : Record) (expandable : Bool) (above : Option Int) :
    (outline.stand parent level record expandable).positionsUnder above =
      outline.positionsUnder above ++
        if parent.map Nat.cast = above then [outline.size] else [] := by
  unfold positionsUnder
  rw [size_stand, List.range_succ, List.filter_append]
  congr 1
  · apply List.filter_congr
    intro p hp
    rw [parent_stand_of_lt outline parent level record expandable (List.mem_range.mp hp)]
  · rw [List.filter_cons, List.filter_nil, getElem?_stand, if_pos rfl]
    simp

theorem IsLinked.positionsUnder_size (h : outline.IsLinked) :
    outline.positionsUnder (some (outline.size : Int)) = [] := by
  apply List.filter_eq_nil_iff.mpr
  intro q hq
  cases hEntry : outline.entries[q]? with
  | none => simp
  | some entry =>
    have hNe : entry.parent ≠ some (outline.size : Int) := by
      intro hSame
      obtain ⟨p, hSize, hLt⟩ := h.parent q entry _ hEntry hSame
      have hBound := List.mem_range.mp hq
      omega
    simpa using hNe

/-- The new entry has no children yet, and is one of its parent alone. -/
theorem IsLinked.childList_stand (h : outline.IsLinked) (hParent : outline.HasParent parent)
    (level : Int) (record : Record) (expandable : Bool) {p : Nat} {entry : Entry}
    (hEntry : (outline.stand parent level record expandable).entries[p]? = some entry) :
    entry.childList = ((outline.stand parent level record expandable).positionsUnder
      (some (p : Int))).map Nat.cast := by
  rw [getElem?_stand] at hEntry
  rw [positionsUnder_stand]
  split at hEntry
  · rename_i hSize
    subst hSize
    cases hEntry
    have hOther : parent.map Nat.cast ≠ some (outline.size : Int) := by
      intro hSame
      obtain ⟨p, hp, hCast⟩ := Option.map_eq_some_iff.mp hSame
      have hLt := hParent p hp
      omega
    rw [h.positionsUnder_size, if_neg hOther]
    cases expandable <;> rfl
  · obtain ⟨old, hOld, rfl⟩ := Option.map_eq_some_iff.mp hEntry
    have hList := h.childList p old hOld
    by_cases hHere : parent = some p
    · subst hHere
      simp [Entry.withChild, Entry.childList, ← hList]
    · have hElsewhere : parent.map Nat.cast ≠ some (p : Int) := by
        intro hSame
        obtain ⟨q, rfl, hCast⟩ := Option.map_eq_some_iff.mp hSame
        exact hHere (congrArg some (Int.ofNat_inj.mp hCast))
      rw [if_neg hHere, if_neg hElsewhere, List.append_nil, hList]

theorem map_id_stand (outline : Outline) (parent : Option Nat) (level : Int) (record : Record)
    (expandable : Bool) :
    (outline.stand parent level record expandable).entries.toList.map Entry.id =
      outline.entries.toList.map Entry.id ++ [record.summary.id] := by
  have hIds : (adopting outline.entries parent outline.size).toList.map Entry.id =
      outline.entries.toList.map Entry.id := by
    apply List.ext_getElem?
    intro p
    have hSame := getElem?_id_adopting outline.entries parent outline.size p
    simpa using hSame
  simp [stand, hIds]

theorem IsLinked.stand (h : outline.IsLinked) (hParent : outline.HasParent parent)
    (hFree : outline.record? record.summary.id = none) (level : Int) (expandable : Bool) :
    (outline.stand parent level record expandable).IsLinked := by
  have hNew : record.summary.id ∉ outline.entries.toList.map Entry.id := by
    rw [← h.records]
    exact record?_eq_none_iff.mp hFree
  refine ⟨?roots, ?childList, ?parent, ?ids, ?records⟩
  case roots =>
    rw [positionsUnder_stand, ← h.roots]
    cases parent <;> simp [Outline.stand]
  case childList =>
    exact fun p entry hEntry => h.childList_stand hParent level record expandable hEntry
  case parent =>
    intro q entry index hEntry hIndex
    rw [getElem?_stand] at hEntry
    split at hEntry
    · rename_i hSize
      subst hSize
      cases hEntry
      obtain ⟨p, hp, rfl⟩ := Option.map_eq_some_iff.mp hIndex
      exact ⟨p, rfl, hParent p hp⟩
    · obtain ⟨old, hOld, rfl⟩ := Option.map_eq_some_iff.mp hEntry
      apply h.parent q old index hOld
      split at hIndex
      · exact hIndex
      · exact hIndex
  case ids =>
    rw [map_id_stand, List.nodup_append]
    refine ⟨h.ids, List.nodup_singleton _, ?_⟩
    intro id hOld other hMem hSame
    rw [List.mem_singleton.mp hMem] at hSame
    exact hNew (hSame ▸ hOld)
  case records =>
    rw [map_id_stand, ← h.records]
    simp [Outline.stand]

theorem isLinked_empty : empty.IsLinked where
  roots := rfl
  childList := nofun
  parent := nofun
  ids := List.nodup_nil
  records := rfl

theorem IsLinked.plant (h : outline.IsLinked) (hParent : outline.HasParent parent)
    (hFree : outline.IsFreeFor forest) (level : Int) :
    (outline.plant parent level forest).IsLinked := by
  induction forest generalizing outline parent level with
  | bare => exact h
  | tree record expandable below beside ihBelow ihBeside =>
    obtain ⟨hId, hBelow, hBeside⟩ := (isFreeFor_tree_iff parent level).mp hFree
    have hStand := h.stand hParent hId level expandable
    rw [Outline.plant]
    apply ihBeside
    · exact ihBelow hStand (hasParent_stand _ _ _ _ _) hBelow (level + 1)
    · exact (hParent.stand _ _ _ _).plant _ _ _
    · exact hBeside

/-! ### What planting leaves as it is -/

theorem getElem?_plant (hParent : outline.HasParent parent) (level : Int) (forest : Forest)
    {p : Nat} (hp : p < outline.size) :
    (outline.plant parent level forest).entries[p]? = (outline.entries[p]?).map fun entry =>
      if parent = some p then entry.withChildren (forest.tops outline.size) else entry := by
  have hOld : p < (adoptingAll outline.entries parent (forest.tops outline.size)).size := by
    rwa [size_adoptingAll]
  rw [entries_plant hParent, Array.getElem?_append_left hOld, getElem?_adoptingAll]

theorem GrownUnder.refl (outline : Outline) (parent : Option Nat) :
    outline.GrownUnder parent outline where
  size := Nat.le_refl _
  entries := by simp
  roots := by simp
  records := List.prefix_rfl
  below := by omega

theorem grownUnder_plant (hParent : outline.HasParent parent) (hFree : outline.IsFreeFor forest)
    (hSingle : forest.IsSingle) (level : Int) :
    outline.GrownUnder parent (outline.plant parent level forest) := by
  cases forest with
  | bare => exact .refl outline parent
  | tree record expandable below beside =>
    obtain rfl : beside = .bare := hSingle
    have hSize : outline.size <
        (outline.plant parent level (.tree record expandable below .bare)).size := by
      rw [size_plant, Forest.size]
      omega
    refine ⟨Nat.le_of_lt hSize, ?entries, ?roots, ?records, ?under⟩
    case entries =>
      intro p entry hEntry
      rw [getElem?_plant hParent _ _ (lt_size_of_getElem? hEntry), hEntry, Option.map_some]
      simp only [hSize, and_true]
      rfl
    case roots =>
      rw [roots_plant]
      cases parent <;> simp [Forest.size, Forest.tops]
    case records =>
      rw [records_plant]
      exact List.prefix_append _ _
    case under =>
      intro q hFirst hLast
      rw [size_plant, Forest.size, Forest.size] at hLast
      have hForest := @hasForest_plant outline parent level _ hParent hFree
      have hBelow := hForest.tree.2.1
      exact hBelow.transGen hFirst (by omega)

end Outline

/-! ### Call after call -/

/-- What it takes to let an outline grow once. -/
structure Call where
  Memory : Type
  inquiry : Inquiry Memory
  memory : Memory
  room : Nat
  parent : Option Nat
  level : Int
  location : Location
  fragment : Json

namespace Call

/-- How a call ends, and the state in which it leaves the outline, the identifiers and the memory of
whoever was asked. -/
def perform (call : Call) (outline : Outline) (ids : IdSource) :
    Except Failure Unit × Growth call.Memory :=
  Growth.outcome (Growth.visitAsking call.inquiry call.room (call.parent.map Nat.cast) call.level
    call.location call.fragment .null) ⟨outline, ids, call.memory⟩

/-- To let an outline grow under a gate is one such call. -/
theorem perform_inquiry {σ : Type} (gate : Gate σ) (start : σ) (parent : Option Nat) (level : Int)
    (location : Location) (fragment : Json) (outline : Outline) (ids : IdSource) :
    perform ⟨σ, gate.inquiry, start, callLimit, parent, level, location, fragment⟩ outline ids =
      Growth.grow gate ⟨outline, ids, start⟩ (parent.map Nat.cast) level location fragment := by
  rw [perform, Growth.visitAsking_inquiry]
  rfl

/-- The outline and the rest of the identifiers after some calls, none of which is undone when it
fails. -/
def after (ids : IdSource) (calls : List Call) : Outline × IdSource :=
  calls.foldl (fun (outline, ids) call =>
    ((call.perform outline ids).2.outline, (call.perform outline ids).2.ids)) (.empty, ids)

/-- Each call grows an outline at the top or under an entry that is there by then. -/
def HaveParents (ids : IdSource) (calls : List Call) : Prop :=
  ∀ before call rest, calls = before ++ call :: rest → (after ids before).1.HasParent call.parent

variable {ids : IdSource} {calls before rest : List Call} {call : Call}

theorem after_concat (ids : IdSource) (calls : List Call) (call : Call) :
    after ids (calls ++ [call]) =
      ((call.perform (after ids calls).1 (after ids calls).2).2.outline,
        (call.perform (after ids calls).1 (after ids calls).2).2.ids) := by
  rw [after, List.foldl_append]
  rfl

theorem haveParents_nil (ids : IdSource) : HaveParents ids [] := by
  intro before call rest hNil
  cases before <;> cases hNil

theorem HaveParents.of_append (h : HaveParents ids (calls ++ rest)) : HaveParents ids calls := by
  intro before call more hCalls
  apply h before call (more ++ rest)
  rw [hCalls, List.append_assoc, List.cons_append]

theorem haveParents_concat_iff : HaveParents ids (calls ++ [call]) ↔
    HaveParents ids calls ∧ (after ids calls).1.HasParent call.parent := by
  constructor
  · intro h
    exact ⟨h.of_append, h calls call [] rfl⟩
  · rintro ⟨hCalls, hLast⟩ before next rest hSplit
    rcases List.eq_nil_or_concat rest with rfl | ⟨init, last, rfl⟩
    · obtain ⟨rfl, hSame⟩ := List.append_inj' hSplit rfl
      cases hSame
      exact hLast
    · apply hCalls before next init
      rw [List.concat_eq_append, ← List.cons_append, ← List.append_assoc] at hSplit
      exact (List.append_inj' hSplit rfl).1

theorem exists_plants_perform {outline : Outline} (call : Call)
    (hIds : Function.Injective ids.nth) (hKeys : outline.KeyedBy ids)
    (hParent : outline.HasParent call.parent) :
    ∃ forest : Forest, forest.IsSingle ∧ Growth.Plants ⟨outline, ids, call.memory⟩ call.parent
      call.level forest (call.perform outline ids).2 :=
  Growth.exists_plants_visitAsking call.inquiry call.room hIds hKeys hParent

/-- What a run of calls keeps: the links agree, and all keys come from the same source. -/
theorem isLinked_after (hIds : Function.Injective ids.nth) (hParents : HaveParents ids calls) :
    (after ids calls).1.IsLinked ∧ (after ids calls).1.KeyedBy (after ids calls).2 ∧
      (after ids calls).2.nth = ids.nth := by
  induction calls using List.reverseRecOn with
  | nil =>
    refine ⟨Outline.isLinked_empty, ?_, rfl⟩
    intro id hMem
    cases hMem
  | append_singleton calls call ih =>
    obtain ⟨hCalls, hParent⟩ := haveParents_concat_iff.mp hParents
    obtain ⟨hLinked, hKeys, hNth⟩ := ih hCalls
    obtain ⟨forest, -, hPlants⟩ :=
      exists_plants_perform call (hNth ▸ hIds) hKeys hParent
    rw [after_concat]
    refine ⟨?_, hPlants.keys, hPlants.nth.trans hNth⟩
    rw [hPlants.outline]
    exact hLinked.plant hParent hPlants.free call.level

/-- Whatever is called after whatever, and whether it succeeds or fails: a call only appends under
its parent, and the links agree after it. -/
theorem grownUnder_after (hIds : Function.Injective ids.nth)
    (hParents : HaveParents ids (before ++ call :: rest)) :
    (after ids before).1.GrownUnder call.parent (after ids (before ++ [call])).1 ∧
      (after ids (before ++ [call])).1.IsLinked := by
  rw [List.append_cons] at hParents
  have hUpTo := hParents.of_append
  obtain ⟨hBefore, hParent⟩ := haveParents_concat_iff.mp hUpTo
  constructor
  · obtain ⟨-, hKeys, hNth⟩ := isLinked_after hIds hBefore
    obtain ⟨forest, hSingle, hPlants⟩ :=
      exists_plants_perform call (hNth ▸ hIds) hKeys hParent
    rw [after_concat, hPlants.outline]
    exact Outline.grownUnder_plant hParent hPlants.free hSingle call.level
  · exact (isLinked_after hIds hUpTo).1

/-- A growth at the top that meets an unfit fragment two levels down. -/
def unfitBelow : Call :=
  ⟨Unit, Gate.unlimited.inquiry, (), 15, none, 0, [], .obj [("properties", .obj [
    ("a", .obj [("$ref", .str "#/b")]),
    ("b", .obj [("properties", .obj [
      ("c", .obj []),
      ("d", .obj [("properties", .obj []), ("required", .arr [.int 5])]),
      ("e", .obj [])])]),
    ("f", .obj [])])]⟩

/-- Says yes once and then fails. -/
def failingAtSecond : Inquiry Nat where
  answer asked _ _ _ := (if asked = 0 then .ok true else .error .noSuchIndex, asked + 1)

/-- A growth under the second entry that is stopped by an inquiry. -/
def stoppedBelow : Call :=
  ⟨Nat, failingAtSecond, 0, 15, some 1, -3, [.key "a"], .obj [("items", .arr [.obj []])]⟩

/-- A growth in the same place that succeeds. -/
def branchesBelow : Call :=
  ⟨Unit, Gate.unlimited.inquiry, (), 15, some 1, 4, [.index 2], .obj [("anyOf", .arr [.obj []])]⟩

theorem grownUnder_after_stoppedBelow :
    HaveParents (.numbered "n") [unfitBelow, stoppedBelow, branchesBelow] ∧
    (unfitBelow.perform .empty (.numbered "n")).1.toOption = none ∧
    (after (.numbered "n") [unfitBelow]).1.entries.toList.map
      (fun entry => (entry.id, entry.parent, entry.children)) =
        [("n0", none, some [1, 2]), ("n1", some 0, some []), ("n2", some 0, some [3]),
          ("n3", some 2, none)] ∧
    (after (.numbered "n") [unfitBelow, stoppedBelow, branchesBelow]).1.entries.toList.map
      (fun entry => (entry.id, entry.parent, entry.children)) =
        [("n0", none, some [1, 2]), ("n1", some 0, some [4, 5]), ("n2", some 0, some [3]),
          ("n3", some 2, none), ("n5", some 1, some []), ("n7", some 1, some [6]),
          ("n8", some 5, none)] ∧
    (after (.numbered "n") [unfitBelow]).1.GrownUnder (some 1)
        (after (.numbered "n") [unfitBelow, stoppedBelow]).1 ∧
      (after (.numbered "n") [unfitBelow, stoppedBelow]).1.IsLinked := by
  have hSecond : (after (.numbered "n") [unfitBelow]).1.HasParent (some 1) := by
    rintro _ ⟨⟩
    decide +kernel
  have hThird : (after (.numbered "n") [unfitBelow, stoppedBelow]).1.HasParent (some 1) := by
    rintro _ ⟨⟩
    decide +kernel
  have hParents : HaveParents (.numbered "n") [unfitBelow, stoppedBelow, branchesBelow] := by
    have hOne := (@haveParents_concat_iff (.numbered "n") [] unfitBelow).mpr
      ⟨haveParents_nil _, Outline.hasParent_none _⟩
    have hTwo := (@haveParents_concat_iff (.numbered "n") [unfitBelow] stoppedBelow).mpr
      ⟨hOne, hSecond⟩
    exact (@haveParents_concat_iff (.numbered "n") [unfitBelow, stoppedBelow] branchesBelow).mpr
      ⟨hTwo, hThird⟩
  refine ⟨hParents, by decide +kernel, by decide +kernel, by decide +kernel, ?_⟩
  exact @grownUnder_after (.numbered "n") [unfitBelow] [branchesBelow] stoppedBelow
    (IdSource.numbered_injective "n") hParents

end Call

end SchemaOutline
