import Mathlib.Logic.Relation
import SchemaOutline.Proofs.Outline.Placement
import SchemaOutline.Proofs.Outline.Sketch

/-!
# Drawn outlines are forests in preorder

A drawn outline is a forest whose entries stand depth first: parents and lists of children say the
same, and all that is below an entry stands in one block directly behind it
(`Outline.InPreorder`). Every position of a forest that stands in an outline is the root of a tree
(`HasForest.exists_tree`) and is itself a child of the entry above it (`HasForest.mem_tops_or`); the
clauses of `InPreorder` are read off these two, whatever the gate keeps out
(`inPreorder_of_draw`).
-/

set_option autoImplicit false

namespace SchemaOutline

theorem Entry.childList_withChildren (entry : Entry) (children : List Nat) :
    (entry.withChildren children).childList = entry.childList ++ children.map Nat.cast := by
  unfold withChildren
  induction children generalizing entry with
  | nil => simp
  | cons child rest ih =>
    rw [List.foldl_cons, ih, List.map_cons, List.append_cons]
    rfl

namespace Outline

def IsParent (outline : Outline) (p q : Nat) : Prop :=
  ∃ entry, outline.entries[q]? = some entry ∧ entry.parent = some (p : Int)

/-- The entries of an outline are the nodes of a forest in preorder, and their parents, their lists
of children, the roots and the records all say so. -/
structure InPreorder (outline : Outline) : Prop where
  ids : (outline.entries.toList.map Entry.id).Nodup
  records : outline.records.map Prod.fst = outline.entries.toList.map Entry.id
  roots : outline.roots = [] ∨ outline.roots = [0]
  mem_roots : ∀ p, p ∈ outline.roots ↔
    ∃ entry, outline.entries[p]? = some entry ∧ entry.parent = none
  /-- The children of an entry are listed in ascending order and are all the entries whose parent it
  is. -/
  children : ∀ p entry, outline.entries[p]? = some entry →
    ∃ children : List Nat, entry.childList = children.map Nat.cast ∧
      children.Pairwise (· < ·) ∧ ∀ q, q ∈ children ↔ outline.IsParent p q
  parent : ∀ q entry index, outline.entries[q]? = some entry → entry.parent = some index →
    ∃ p above, index = ((p : Nat) : Int) ∧ p < q ∧ outline.entries[p]? = some above ∧
      entry.level = above.level + 1
  /-- All that is below an entry, at whatever distance, fills a block directly behind it. -/
  block : ∀ p < outline.size, ∃ count, ∀ q,
    Relation.TransGen outline.IsParent p q ↔ p < q ∧ q ≤ p + count

/-- An entry with all the trees below it, which stand directly behind it. -/
structure IsTree (outline : Outline) (p : Nat) (entry : Entry) (below : Forest) : Prop where
  stands : outline.entries[p]? = some entry
  childList : entry.childList = (below.tops (p + 1)).map Nat.cast
  below : outline.HasForest (p + 1) (some p) (entry.level + 1) below

variable {outline : Outline} {n p q : Nat} {parent : Option Nat} {level : Int} {entry : Entry}
  {forest below : Forest}

/-- The first entry of a forest is the root of the first tree in it. -/
theorem HasForest.isTree {record : Record} {expandable : Bool} {beside : Forest}
    (h : outline.HasForest n parent level (.tree record expandable below beside)) :
    ∃ entry, outline.IsTree n entry below ∧ entry.parent = parent.map Nat.cast ∧
      entry.level = level := by
  have hBelow := h.tree.2.1
  have hEntry := (h 0 _ _ rfl).1
  refine ⟨_, ⟨hEntry, ?_, ?_⟩, ?_, ?_⟩
  · rw [Entry.childList_withChildren]
    cases expandable <;> rfl
  · rwa [Entry.level_withChildren]
  · rw [Entry.parent_withChildren]
  · rw [Entry.level_withChildren]

theorem HasForest.of_mem_tops (h : outline.HasForest n parent level forest)
    (hMem : q ∈ forest.tops n) :
    ∃ entry, outline.entries[q]? = some entry ∧ entry.parent = parent.map Nat.cast ∧
      entry.level = level := by
  induction forest generalizing n with
  | bare => cases hMem
  | tree record expandable below beside _ ihBeside =>
    obtain ⟨entry, hTree, hParent, hLevel⟩ := h.isTree
    rcases List.mem_cons.mp hMem with rfl | hBeside
    · exact ⟨entry, hTree.stands, hParent, hLevel⟩
    · exact ihBeside h.tree.2.2 hBeside

theorem HasForest.exists_tree (h : outline.HasForest n parent level forest) (hFirst : n ≤ p)
    (hLast : p < n + forest.size) :
    ∃ entry below, outline.IsTree p entry below ∧ p + 1 + below.size ≤ n + forest.size := by
  induction forest generalizing n parent level with
  | bare =>
    rw [Forest.size] at hLast
    omega
  | tree record expandable below beside ihBelow ihBeside =>
    obtain ⟨-, hBelow, hBeside⟩ := h.tree
    rw [Forest.size] at hLast ⊢
    obtain rfl | hBehind := Nat.eq_or_lt_of_le hFirst
    · obtain ⟨entry, hTree, -⟩ := h.isTree
      exact ⟨entry, below, hTree, by omega⟩
    · by_cases hIn : p < n + 1 + below.size
      · obtain ⟨entry, inner, hTree, hSize⟩ := ihBelow hBelow hBehind hIn
        exact ⟨entry, inner, hTree, by omega⟩
      · obtain ⟨entry, inner, hTree, hSize⟩ := ihBeside hBeside (by omega) (by omega)
        exact ⟨entry, inner, hTree, by omega⟩

/-- An entry of a forest is at the top of it or a child of an entry in it. -/
theorem HasForest.mem_tops_or (h : outline.HasForest n parent level forest) (hFirst : n ≤ q)
    (hLast : q < n + forest.size) :
    q ∈ forest.tops n ∨
      ∃ p entry below, n ≤ p ∧ outline.IsTree p entry below ∧ q ∈ below.tops (p + 1) := by
  induction forest generalizing n parent level with
  | bare =>
    rw [Forest.size] at hLast
    omega
  | tree record expandable below beside ihBelow ihBeside =>
    obtain ⟨-, hBelow, hBeside⟩ := h.tree
    rw [Forest.size] at hLast
    obtain rfl | hBehind := Nat.eq_or_lt_of_le hFirst
    · exact .inl List.mem_cons_self
    · refine (Nat.lt_or_ge q (n + 1 + below.size)).elim (fun hIn => ?_) (fun hOut => ?_)
      · obtain hTop | ⟨p, entry, inner, hLe, hInner⟩ := ihBelow hBelow hBehind hIn
        · obtain ⟨entry, hTree, -⟩ := h.isTree
          exact .inr ⟨n, entry, below, Nat.le_refl n, hTree, hTop⟩
        · exact .inr ⟨p, entry, inner, by omega, hInner⟩
      · obtain hTop | ⟨p, entry, inner, hLe, hInner⟩ := ihBeside hBeside hOut (by omega)
        · exact .inl (List.mem_cons_of_mem _ hTop)
        · exact .inr ⟨p, entry, inner, by omega, hInner⟩

theorem IsTree.isParent (h : outline.IsTree p entry below) (hMem : q ∈ below.tops (p + 1)) :
    outline.IsParent p q := by
  obtain ⟨child, hChild, hParent, -⟩ := h.below.of_mem_tops hMem
  exact ⟨child, hChild, hParent⟩

theorem HasForest.transGen (h : outline.HasForest n (some p) level forest) (hFirst : n ≤ q)
    (hLast : q < n + forest.size) : Relation.TransGen outline.IsParent p q := by
  induction q using Nat.strongRecOn with
  | ind q ih =>
    obtain hTop | ⟨above, entry, below, hLe, hTree, hMem⟩ := h.mem_tops_or hFirst hLast
    · obtain ⟨entry, hEntry, hParent, -⟩ := h.of_mem_tops hTop
      exact .single ⟨entry, hEntry, hParent⟩
    · have hBounds := Forest.bounds_of_mem_tops hMem
      exact .tail (ih above (by omega) hLe (by omega)) (hTree.isParent hMem)

theorem lt_size_of_getElem? (h : outline.entries[q]? = some entry) : q < outline.size :=
  (Array.getElem?_eq_some_iff.mp h).1

/-! ### Outlines that are one forest -/

section

variable (hForest : outline.HasForest 0 none 0 forest) (hSize : outline.size = forest.size)

include hForest hSize

/-- An entry stands at the top and has no parent, or is listed with the parent that it has. -/
theorem HasForest.root_or_child (h : outline.entries[q]? = some entry) :
    (q ∈ forest.tops 0 ∧ entry.parent = none) ∨
      ∃ p above below, outline.IsTree p above below ∧ q ∈ below.tops (p + 1) ∧
        entry.parent = some (p : Int) ∧ entry.level = above.level + 1 := by
  have hLt := lt_size_of_getElem? h
  obtain hTop | ⟨p, above, below, -, hTree, hMem⟩ :=
    hForest.mem_tops_or (Nat.zero_le q) (by omega)
  · obtain ⟨top, hEntry, hNone, -⟩ := hForest.of_mem_tops hTop
    rw [h] at hEntry
    cases hEntry
    exact .inl ⟨hTop, hNone⟩
  · obtain ⟨child, hEntry, hParent, hLevel⟩ := hTree.below.of_mem_tops hMem
    rw [h] at hEntry
    cases hEntry
    exact .inr ⟨p, above, below, hTree, hMem, hParent, hLevel⟩

theorem IsTree.mem_tops_iff (h : outline.IsTree p entry below) :
    q ∈ below.tops (p + 1) ↔ outline.IsParent p q := by
  refine ⟨h.isParent, ?_⟩
  rintro ⟨child, hChild, hParent⟩
  obtain ⟨-, hNone⟩ | ⟨p', above, below', hTree, hMem, hParent', -⟩ :=
    hForest.root_or_child hSize hChild
  · rw [hParent] at hNone
    cases hNone
  · rw [hParent, Option.some.injEq, Int.natCast_inj] at hParent'
    subst hParent'
    -- Both trees have their root at the same position, so they list the same children.
    obtain rfl : entry = above := Option.some.inj (h.stands.symm.trans hTree.stands)
    have hLists := h.childList.symm.trans hTree.childList
    rw [List.map_inj_right fun _ _ => Int.ofNat_inj.mp] at hLists
    rwa [hLists]

theorem IsTree.block (h : outline.IsTree p entry below) :
    Relation.TransGen outline.IsParent p q ↔ p < q ∧ q ≤ p + below.size := by
  constructor
  · intro hBelow
    induction hBelow with
    | single hParent =>
      have hBounds := Forest.bounds_of_mem_tops ((h.mem_tops_iff hForest hSize).mpr hParent)
      omega
    | tail _ hParent ih =>
      obtain ⟨entry, inner, hTree, hInner⟩ := h.below.exists_tree ih.1 (by omega)
      have hBounds := Forest.bounds_of_mem_tops ((hTree.mem_tops_iff hForest hSize).mpr hParent)
      omega
  · rintro ⟨hFirst, hLast⟩
    exact h.below.transGen hFirst (by omega)

theorem HasForest.mem_tops_iff :
    q ∈ forest.tops 0 ↔ ∃ entry, outline.entries[q]? = some entry ∧ entry.parent = none := by
  constructor
  · intro hTop
    obtain ⟨entry, hEntry, hNone, -⟩ := hForest.of_mem_tops hTop
    exact ⟨entry, hEntry, hNone⟩
  · rintro ⟨entry, hEntry, hNone⟩
    obtain ⟨hTop, -⟩ | ⟨p, _, _, -, -, hParent, -⟩ := hForest.root_or_child hSize hEntry
    · exact hTop
    · rw [hNone] at hParent
      cases hParent

end

theorem entries_ids_ofForest (forest : Forest) :
    (ofForest forest).entries.toList.map Entry.id = forest.ids := by
  rw [entries_ofForest, Forest.ids, ← forest.map_snd_rows 0 none 0, List.map_map, List.map_map]
  exact List.map_congr_left fun _ hMem => Forest.id_of_mem_rows hMem

theorem inPreorder_ofForest (hIds : forest.ids.Nodup)
    (hTops : forest.tops 0 = [] ∨ forest.tops 0 = [0]) : (ofForest forest).InPreorder := by
  have hForest := hasForest_ofForest hIds
  have hSize := size_ofForest forest
  have hTree := fun p (hLt : p < (ofForest forest).size) =>
    hForest.exists_tree (Nat.zero_le p) (by omega)
  refine ⟨?ids, ?records, ?roots, ?mem_roots, ?children, ?above, ?block⟩
  case ids => rwa [entries_ids_ofForest]
  case records =>
    rw [entries_ids_ofForest, records_ofForest, List.map_map]
    rfl
  case roots => rwa [roots_ofForest]
  case mem_roots =>
    intro p
    rw [roots_ofForest]
    exact hForest.mem_tops_iff hSize
  case children =>
    intro p entry hEntry
    obtain ⟨entry', below, hBelow, -⟩ := hTree p (lt_size_of_getElem? hEntry)
    obtain rfl : entry = entry' := Option.some.inj (hEntry.symm.trans hBelow.stands)
    exact ⟨below.tops (p + 1), hBelow.childList, below.pairwise_tops _,
      fun q => hBelow.mem_tops_iff hForest hSize⟩
  case above =>
    intro q entry index hEntry hIndex
    obtain ⟨-, hNone⟩ | ⟨p, above, below, hBelow, hMem, hParent, hLevel⟩ :=
      hForest.root_or_child hSize hEntry
    · rw [hIndex] at hNone
      cases hNone
    · rw [hIndex] at hParent
      have hBounds := Forest.bounds_of_mem_tops hMem
      exact ⟨p, above, Option.some.inj hParent, by omega, hBelow.stands, hLevel⟩
  case block =>
    intro p hLt
    obtain ⟨entry, below, hBelow, -⟩ := hTree p hLt
    exact ⟨below.size, fun q => hBelow.block hForest hSize⟩

end Outline

theorem Yields.tops_of_single {σ : Type} {gate : Gate σ} {room : Nat} {above : Option String}
    {level : Int} {location : Location} {descent : Descent} {stock stock' : Stock σ}
    {forest : Forest} (h : Yields gate room above level location [descent] stock forest stock')
    (n : Nat) : forest.tops n = [] ∨ forest.tops n = [n] := by
  cases h with
  | passed _ hRest | keptOut _ _ _ _ hRest =>
    cases hRest
    exact .inl rfl
  | drawn _ _ _ _ _ _ hRest =>
    cases hRest
    exact .inr rfl

/-- A drawn outline is a forest in preorder, whatever is drawn and whatever the gate keeps out. -/
theorem Outline.inPreorder_of_draw {σ : Type} {gate : Gate σ} {start : σ} {ids : IdSource}
    {document : Json} {outline : Outline}
    (hDraw : (draw gate start ids document).1 = .ok outline) : outline.InPreorder := by
  obtain ⟨forest, hYields, hIds, rfl⟩ := exists_forest_of_draw (Prod.ext hDraw rfl)
  exact inPreorder_ofForest hIds (hYields.tops_of_single 0)

/-- Branches below items in place; the second one is a reference, and the third one is a tuple. -/
def Outline.branchesInPlace : Json :=
  .obj [("items", .obj [("items", .obj [("anyOf", .arr [
    .obj [("properties", .obj [("a", .obj []), ("b", .obj [])])], .obj [("$ref", .str "#/a")],
    .obj [("items", .arr [.obj [], .obj []])]])])])]

/-- References are kept out and five entries let in, so that nothing of the tuple is drawn. -/
theorem Outline.inPreorder_of_draw_branchesInPlace :
    ∃ outline,
      (draw ((Gate.rejecting fun kind _ => kind == .reference).followedBy (.quota 5)) ((), 0)
        (.numbered "n") branchesInPlace).1 = .ok outline ∧
      outline.entries.toList.map (·.children) =
        [some [1, 4], some [2, 3], none, none, some []] ∧ outline.InPreorder := by
  have hChildren :
      (draw ((Gate.rejecting fun kind _ => kind == .reference).followedBy (.quota 5)) ((), 0)
          (.numbered "n") branchesInPlace).1.toOption.map (·.entries.toList.map (·.children)) =
        some [some [1, 4], some [2, 3], none, none, some []] := by
    decide +kernel
  obtain ⟨outline, hDraw, hEntries⟩ := exists_ok_of_map_toOption hChildren
  exact ⟨outline, hDraw, hEntries, inPreorder_of_draw hDraw⟩

end SchemaOutline
