import SchemaOutline.Proofs.Outline.Pruning

/-!
# Pruned outlines

Drawing with a gate prunes the outline that is drawn without one (`Outline.PrunedBy`). The gate is
asked once about every entry above which nothing was kept out, in display order, and what it lets in
is drawn as it was, but for its identifier and its place. Each call takes one identifier, and so
nothing below what is kept out takes any.
-/

set_option autoImplicit false

namespace SchemaOutline

variable {σ α : Type}

/-- Every element of a list is as it should be behind the elements before it. -/
def EachBehind (p : List α → α → Prop) : List α → List α → Prop
  | _, [] => True
  | before, a :: rest => p before a ∧ EachBehind p (before ++ [a]) rest

theorem EachBehind.append {p : List α → α → Prop} {before l more : List α}
    (h : EachBehind p before l) (hMore : EachBehind p (before ++ l) more) :
    EachBehind p before (l ++ more) := by
  induction l generalizing before with
  | nil => rwa [List.append_nil] at hMore
  | cons a rest ih =>
    rw [List.append_cons] at hMore
    exact ⟨h.1, ih h.2 hMore⟩

theorem EachBehind.of_split {p : List α → α → Prop} {before earlier later : List α} {a : α}
    (h : EachBehind p before (earlier ++ a :: later)) : p (before ++ earlier) a := by
  induction earlier generalizing before with
  | nil =>
    rw [List.append_nil]
    exact h.1
  | cons b rest ih =>
    have hRest := ih h.2
    rwa [List.append_assoc] at hRest

namespace Entry

variable {id : String} {parent : Option Nat} {level : Int} {expandable : Bool} {children : List Nat}

theorem isExpandable_placed (h : expandable = false → children = []) :
    ((placed id parent level expandable).withChildren children).isExpandable = expandable := by
  cases expandable with
  | false =>
    rw [h rfl]
    rfl
  | true =>
    have hChildren := @children_withChildren (placed id parent level true) [] rfl children
    rw [isExpandable, hChildren]
    rfl

end Entry

namespace Outline

/-- The row of a parent before the entries of a forest are placed below it, from position `m` on,
while the outline already shows what becomes of it in the end. -/
structure RowBefore (pruned : Outline) (parent : Option Nat) (above : Option Entry) (m : Nat)
    (left : Forest) : Prop where
  final : ∃ later : List Nat, (∀ child ∈ later, m + left.size ≤ child) ∧
    pruned.rowOf parent = above.map (·.withChildren (left.tops m ++ later))
  present : ∀ row ∈ above, ∃ children : List Int, row.children = some children ∧
    ∀ child ∈ children, child < m

namespace RowBefore

variable {pruned : Outline} {parent : Option Nat} {above : Option Entry} {m : Nat} {left : Forest}

theorem none (pruned : Outline) (m : Nat) (left : Forest) :
    pruned.RowBefore .none .none m left where
  final := ⟨[], by simp, rfl⟩
  present := by
    rintro _ ⟨⟩

/-- The row has the children then that stand before the next position. -/
theorem above_eq (h : pruned.RowBefore parent above m left) :
    above = (pruned.rowOf parent).map (Entry.within m) := by
  obtain ⟨later, hLater, hFinal⟩ := h.final
  rw [hFinal]
  cases above with
  | none => rfl
  | some row =>
    obtain ⟨children, hChildren, hPresent⟩ := h.present row rfl
    have hLeft : (left.tops m ++ later).filter (· < m) = [] := by
      rw [List.filter_append, Forest.filter_tops_eq_nil left (Nat.le_refl m), List.nil_append,
        List.filter_eq_nil_iff]
      intro child hMem
      have hLe := hLater child hMem
      simp only [decide_eq_true_eq]
      omega
    have hSame : row.within m = row := by
      have hAll : children.filter (· < (m : Int)) = children :=
        List.filter_eq_self.mpr fun child hMem => decide_eq_true (hPresent child hMem)
      cases row
      simp only [Entry.within] at hChildren ⊢
      rw [hChildren, Option.map_some, hAll]
    rw [Option.map_some, Option.map_some, Entry.withChildren_within m hChildren, hLeft, hSame]
    rfl

theorem below {id : String} {level : Int} {record : Record}
    (h : pruned.Has m ((Entry.placed id parent level true).withChildren (left.tops (m + 1)))
      record) :
    pruned.RowBefore (some m) (some (.placed id parent level true)) (m + 1) left where
  final := by
    refine ⟨[], by simp, ?_⟩
    rw [List.append_nil]
    exact h.1
  present := by
    rintro _ ⟨⟩
    exact ⟨[], rfl, by simp⟩

theorem beside {record : Record} {expandable : Bool} {belowLeft besideLeft : Forest}
    (h : pruned.RowBefore parent above m (.tree record expandable belowLeft besideLeft)) :
    pruned.RowBefore parent (above.map (·.withChild m)) (m + 1 + belowLeft.size) besideLeft where
  final := by
    obtain ⟨later, hLater, hFinal⟩ := h.final
    refine ⟨later, fun child hMem => ?_, ?_⟩
    · have hLe := hLater child hMem
      rw [Forest.size] at hLe
      omega
    · rw [hFinal]
      cases above <;> rfl
  present := by
    intro row hRow
    obtain ⟨row, rfl, rfl⟩ := Option.map_eq_some_iff.mp hRow
    obtain ⟨children, hChildren, hPresent⟩ := h.present row rfl
    refine ⟨children ++ [(m : Int)], by simp [Entry.withChild, Entry.childList, hChildren], ?_⟩
    intro child hMem
    obtain hOld | hNew := List.mem_append.mp hMem
    · have hLess := hPresent child hOld
      omega
    · rw [List.mem_singleton] at hNew
      omega

end RowBefore

end Outline

theorem getElem?_admittedAt {all before : List Judgement} {call : Judgement}
    (hAll : before ++ [call] <+: all) (hAdmitted : call.admitted = true) :
    (admittedAt all)[(admittedAt before).length]? = some call.position := by
  obtain ⟨rest, rfl⟩ := hAll
  rw [admittedAt_append, admittedAt_append, admittedAt_cons, if_pos hAdmitted]
  simp

/-- A parent in the whole outline and the place of the same entry among those that are let in. -/
def SameParent (kept : List Nat) (parent : Option Int) (index : Option Nat) : Prop :=
  (parent = none ∧ index = none) ∨
    ∃ p k : Nat, parent = some (p : Int) ∧ index = some k ∧ kept[k]? = some p

/-- A call of a gate behind other calls, about an entry with its record, under a parent with a place
of its own in the pruned outline. -/
structure Judgement.Concerns (whole pruned : Outline) (ids : IdSource)
    (calls before : List Judgement) (call : Judgement) (entry : Entry) (record : Record)
    (index : Option Nat) : Prop where
  stands : whole.Has call.position entry record
  sameParent : SameParent (admittedAt calls) entry.parent index
  summary : call.summary = record.summary.withId (ids.nth (ids.taken + before.length))
  level : call.level = entry.level
  /-- The row above is shown with the children that it has at the time. -/
  above : call.above = (pruned.rowOf index).map (Entry.within (admittedAt before).length)
  /-- What is let in stands behind everything that was let in before. -/
  row : call.admitted = true → ∃ row,
    pruned.Has (admittedAt before).length row ⟨call.summary, record.location⟩ ∧
      row.level = entry.level ∧ row.isExpandable = entry.isExpandable ∧
      row.parent = index.map Nat.cast

section

variable {whole pruned : Outline} {ids : IdSource} {all before : List Judgement} {n m : Nat}
  {wholeParent parent : Option Nat} {above : Option Entry} {level : Int} {record : Record}
  {expandable : Bool} {below beside left : Forest}

/-- The call about the first entry of a forest. If it is let in then a tree is left of it, with
nothing below an entry without a list of children. -/
theorem Judgement.exists_concerns
    (hWhole : whole.HasForest n wholeParent level (.tree record expandable below beside))
    (hPruned : pruned.HasForest m parent level left) (hCount : (admittedAt before).length = m)
    (hParent : SameParent (admittedAt all) (wholeParent.map Nat.cast) parent)
    (hRow : pruned.RowBefore parent above m left) {summary : Summary} {admitted : Bool}
    (hSummary : summary = record.summary.withId (ids.nth (ids.taken + before.length)))
    (hLeft : admitted = true → ∃ belowLeft besideLeft,
      left = .tree ⟨summary, record.location⟩ expandable belowLeft besideLeft ∧
        (expandable = false → below = .bare ∧ belowLeft = .bare)) :
    ∃ entry record index, Concerns whole pruned ids all before ⟨n, summary, above, level, admitted⟩
      entry record index := by
  have hEntry : whole.Has n ((Entry.placed record.summary.id wholeParent level
    expandable).withChildren (below.tops (n + 1))) record := hWhole 0 _ _ rfl
  refine ⟨_, record, parent, hEntry, ?parent, hSummary, ?level, ?above, ?row⟩
  case parent => rwa [Entry.parent_withChildren]
  case level =>
    rw [Entry.level_withChildren]
    rfl
  case above =>
    rw [hCount]
    exact hRow.above_eq
  case row =>
    intro hAdmitted
    obtain ⟨belowLeft, besideLeft, rfl, hBare⟩ := hLeft hAdmitted
    have hOwn : pruned.Has m ((Entry.placed summary.id parent level expandable).withChildren
      (belowLeft.tops (m + 1))) ⟨summary, record.location⟩ := hPruned 0 _ _ rfl
    refine ⟨_, hCount ▸ hOwn, ?_, ?_, ?_⟩
    · rw [Entry.level_withChildren, Entry.level_withChildren]
      rfl
    · rw [Entry.isExpandable_placed, Entry.isExpandable_placed] <;> intro hLeaf
      · rw [(hBare hLeaf).1]
        rfl
      · rw [(hBare hLeaf).2]
        rfl
    · rw [Entry.parent_withChildren]
      rfl

end

namespace Prunes

variable {gate : Gate σ} {forest left : Forest} {n m : Nat} {parent wholeParent : Option Nat}
  {above : Option Entry} {level : Int} {stock stock' : Stock σ}
  {calls all before : List Judgement} {whole pruned : Outline} {ids : IdSource}

/-- Every call is about an entry of the forest. -/
theorem concerns (h : Prunes gate forest n m parent above level stock left calls stock')
    (hWhole : whole.HasForest n wholeParent level forest)
    (hPruned : pruned.HasForest m parent level left) (hOpens : forest.Opens)
    (hAll : before ++ calls <+: all) (hCount : (admittedAt before).length = m)
    (hIds : stock.ids = ⟨ids.nth, ids.taken + before.length⟩)
    (hParent : SameParent (admittedAt all) (wholeParent.map Nat.cast) parent)
    (hRow : pruned.RowBefore parent above m left) :
    EachBehind (fun before call => ∃ entry record index,
      call.Concerns whole pruned ids all before entry record index) before calls := by
  induction h generalizing wholeParent before with
  | bare => trivial
  | keptOut _ _ ih =>
    rw [hIds]
    rw [List.append_cons] at hAll
    refine ⟨Judgement.exists_concerns hWhole hPruned hCount hParent hRow rfl nofun,
      ih hWhole.tree.2.2 hPruned hOpens.2.2 (hIds ▸ hAll) ?_ ?_ hParent hRow⟩
    · rw [admittedAt_append, List.length_append, hCount]
      rfl
    · rw [hIds, List.length_append]
      rfl
  | @letIn n m parent above level stock stock' stock'' record expandable below beside belowLeft
      besideLeft inner outer s hJudge hBelow hBeside ihBelow ihBeside =>
    obtain ⟨hOpen, hBelowOpens, hBesideOpens⟩ := hOpens
    -- An entry without a list of children has nothing below it that could be asked about.
    have hBare : expandable = false → below = .bare ∧ belowLeft = .bare ∧ inner = [] := by
      intro hLeaf
      obtain rfl := hOpen hLeaf
      cases hBelow
      exact ⟨rfl, rfl, rfl⟩
    have hPeek : stock.ids.peek = ids.nth (ids.taken + before.length) := by
      rw [hIds]
      rfl
    rw [List.append_cons, ← List.append_assoc] at hAll
    have hInner := (List.prefix_append _ outer).trans hAll
    have hPlace := getElem?_admittedAt ((List.prefix_append _ inner).trans hInner) rfl
    rw [hCount] at hPlace
    refine ⟨Judgement.exists_concerns hWhole hPruned hCount hParent hRow
      (congrArg record.summary.withId hPeek) fun _ =>
        ⟨belowLeft, besideLeft, rfl, fun hLeaf => ⟨(hBare hLeaf).1, (hBare hLeaf).2.1⟩⟩,
      EachBehind.append ?_ ?_⟩
    · cases expandable with
      | false =>
        rw [(hBare rfl).2.2]
        trivial
      | true =>
        refine ihBelow hWhole.tree.2.1 hPruned.tree.2.1 hBelowOpens hInner ?_ ?_
          (.inr ⟨n, m, rfl, rfl, hPlace⟩) (.below (hPruned 0 _ _ rfl))
        · rw [admittedAt_append, List.length_append, hCount]
          rfl
        · rw [hIds, List.length_append]
          rfl
    · refine ihBeside hWhole.tree.2.2 hPruned.tree.2.2 hBesideOpens hAll ?_ ?_ hParent hRow.beside
      · rw [admittedAt_append, admittedAt_append, List.length_append, List.length_append, hCount,
          hBelow.length_admittedAt]
        rfl
      · rw [hBelow.ids.1, hIds, List.length_append, List.length_append]
        simp [IdSource.next, Nat.add_assoc]

theorem exists_call_of_mem_tops {q : Nat}
    (h : Prunes gate forest n m parent above level stock left calls stock')
    (hMem : q ∈ forest.tops n) : ∃ call ∈ calls, call.position = q := by
  induction h with
  | bare => cases hMem
  | keptOut _ _ ih =>
    obtain rfl | hBeside := List.mem_cons.mp hMem
    · exact ⟨_, List.mem_cons_self, rfl⟩
    · obtain ⟨call, hCall, hPosition⟩ := ih hBeside
      exact ⟨call, List.mem_cons_of_mem _ hCall, hPosition⟩
  | letIn _ _ _ _ ih =>
    obtain rfl | hBeside := List.mem_cons.mp hMem
    · exact ⟨_, List.mem_cons_self, rfl⟩
    · obtain ⟨call, hCall, hPosition⟩ := ih hBeside
      exact ⟨call, List.mem_cons_of_mem _ (List.mem_append_right _ hCall), hPosition⟩

/-- The gate is asked about all the children of what it lets in. -/
theorem exists_call_of_isParent {root : Forest} {p q : Nat}
    (hRoot : whole.HasForest 0 none 0 root) (hSize : whole.size = root.size)
    (h : Prunes gate forest n m parent above level stock left calls stock')
    (hWhole : whole.HasForest n wholeParent level forest) (hLetIn : p ∈ admittedAt calls)
    (hParent : whole.IsParent p q) : ∃ call ∈ calls, call.position = q := by
  induction h generalizing wholeParent with
  | bare => cases hLetIn
  | keptOut _ _ ih =>
    obtain ⟨call, hCall, hPosition⟩ := ih hWhole.tree.2.2 hLetIn
    exact ⟨call, List.mem_cons_of_mem _ hCall, hPosition⟩
  | letIn _ hBelow _ ihBelow ihBeside =>
    rw [admittedAt_cons, if_pos rfl, admittedAt_append] at hLetIn
    obtain rfl | hRest := List.mem_cons.mp hLetIn
    · obtain ⟨entry, hTree, -⟩ := hWhole.isTree
      have hTop := (hTree.mem_tops_iff hRoot hSize).mpr hParent
      obtain ⟨call, hCall, hPosition⟩ := hBelow.exists_call_of_mem_tops hTop
      exact ⟨call, List.mem_cons_of_mem _ (List.mem_append_left _ hCall), hPosition⟩
    · obtain hInner | hOuter := List.mem_append.mp hRest
      · obtain ⟨call, hCall, hPosition⟩ := ihBelow hWhole.tree.2.1 hInner
        exact ⟨call, List.mem_cons_of_mem _ (List.mem_append_left _ hCall), hPosition⟩
      · obtain ⟨call, hCall, hPosition⟩ := ihBeside hWhole.tree.2.2 hOuter
        exact ⟨call, List.mem_cons_of_mem _ (List.mem_append_right _ hCall), hPosition⟩

end Prunes

namespace Outline

/-- An outline that is drawn with a gate prunes the one that is drawn without: the calls of the gate
and what comes of them. -/
structure PrunedBy (whole : Outline) (gate : Gate σ) (start : σ) (ids : IdSource)
    (calls : List Judgement) (pruned : Outline) (growth : Growth σ) : Prop where
  /-- The gate is asked in display order, and about no entry twice. -/
  order : calls.Pairwise (·.position < ·.position)
  /-- It is asked about the entries with nothing above them that was kept out. -/
  asked : ∀ q, (∃ call ∈ calls, call.position = q) ↔
    q < whole.size ∧ ∀ p, Relation.TransGen whole.IsParent p q → p ∈ admittedAt calls
  /-- Its answers are its own, and what it remembers is passed on from call to call. -/
  answers : gate.Answers start calls growth.gate
  /-- It is shown the entry with its level and the row above it as it stands then, and what it lets
  in stands behind what was let in before, under the same parent and with the same record but for
  the identifier. -/
  concerns : ∀ before call after, calls = before ++ call :: after → ∃ entry record index,
    call.Concerns whole pruned ids calls before entry record index
  /-- Nothing else is drawn. -/
  size : pruned.size = (admittedAt calls).length
  records : pruned.records.map Prod.fst = pruned.entries.toList.map Entry.id
  /-- One identifier is taken for each call. -/
  ids : growth.ids = ⟨ids.nth, ids.taken + calls.length⟩

variable {ids : IdSource} {document : Json} {whole pruned : Outline} {calls : List Judgement}

/-- Above an entry that the gate is asked about everything was let in. -/
theorem mem_admittedAt_of_transGen {p q : Nat}
    (hConcerns : ∀ before call after, calls = before ++ call :: after → ∃ entry record index,
      call.Concerns whole pruned ids calls before entry record index)
    (hAsked : ∃ call ∈ calls, call.position = q)
    (hBelow : Relation.TransGen whole.IsParent p q) : p ∈ admittedAt calls := by
  have hParent : ∀ p q, (∃ call ∈ calls, call.position = q) → whole.IsParent p q →
      p ∈ admittedAt calls := by
    rintro p _ ⟨call, hCall, rfl⟩ ⟨entry, hEntry, hParent⟩
    obtain ⟨before, after, hSplit⟩ := List.append_of_mem hCall
    obtain ⟨entry', record, index, hConcern⟩ := hConcerns before call after hSplit
    obtain rfl : entry = entry' := Option.some.inj (hEntry.symm.trans hConcern.stands.1)
    obtain ⟨hNone, -⟩ | ⟨p', k, hSome, -, hKept⟩ := hConcern.sameParent
    · rw [hParent] at hNone
      cases hNone
    · rw [hParent, Option.some.injEq, Int.natCast_inj] at hSome
      exact hSome ▸ List.mem_of_getElem? hKept
  induction hBelow with
  | single hStep => exact hParent _ _ hAsked hStep
  | tail _ hStep ih =>
    obtain ⟨call, hCall, -, hPosition⟩ := mem_admittedAt_iff.mp (hParent _ _ hAsked hStep)
    exact ih ⟨call, hCall, hPosition⟩

/-- Where drawing without a gate succeeds, drawing with any gate succeeds too and prunes what is
drawn without one. -/
theorem prunedBy_of_draw (hDraw : (draw .unlimited () ids document).1 = .ok whole)
    (gate : Gate σ) (start : σ) :
    ∃ pruned growth calls, draw gate start ids document = (.ok pruned, growth) ∧
      whole.PrunedBy gate start ids calls pruned growth := by
  obtain ⟨forest, left, calls, stock', rfl, hIds, hOpens, hLeftIds, hPrunes, hGrowth⟩ :=
    exists_prunes_of_draw hDraw gate start
  have hWhole := hasForest_ofForest hIds
  have hPruned := hasForest_ofForest hLeftIds
  have hSize := size_ofForest forest
  have hEach : EachBehind (fun before call => ∃ entry record index,
      call.Concerns (ofForest forest) (ofForest left) ids calls before entry record index)
      [] calls :=
    hPrunes.concerns hWhole hPruned hOpens List.prefix_rfl rfl rfl (.inl ⟨rfl, rfl⟩)
      (.none _ _ _)
  have hConcerns : ∀ before call after, calls = before ++ call :: after →
      ∃ entry record index, call.Concerns (ofForest forest) (ofForest left) ids calls before entry
        record index := by
    intro before call after hSplit
    rw [hSplit] at hEach ⊢
    exact hEach.of_split
  refine ⟨_, _, calls, hGrowth, hPrunes.pairwise, ?asked, hPrunes.answers, hConcerns, ?size,
    ?records, hPrunes.ids.1⟩
  case asked =>
    intro q
    constructor
    · rintro ⟨call, hCall, rfl⟩
      have hBounds := hPrunes.bounds call hCall
      exact ⟨by omega, fun p => mem_admittedAt_of_transGen hConcerns ⟨call, hCall, rfl⟩⟩
    · rintro ⟨hLess, hAbove⟩
      obtain ⟨entry, hEntry⟩ : ∃ entry, (ofForest forest).entries[q]? = some entry :=
        ⟨_, Array.getElem?_eq_getElem hLess⟩
      obtain ⟨hTop, -⟩ | ⟨p, above, below, hTree, hMem, -⟩ := hWhole.root_or_child hSize hEntry
      · exact hPrunes.exists_call_of_mem_tops hTop
      · have hParent := hTree.isParent hMem
        exact hPrunes.exists_call_of_isParent hWhole hSize hWhole (hAbove p (.single hParent))
          hParent
  case size => rw [size_ofForest, hPrunes.length_admittedAt]
  case records =>
    rw [entries_ids_ofForest, records_ofForest, List.map_map]
    rfl

end Outline

/-- A gate that lets every other entry in. -/
def Gate.alternating : Gate Nat := ⟨fun asked _ _ _ => (asked % 2 == 0, asked + 1)⟩

/-- Of eight entries the first and the third one that the gate is asked about are let in; it is not
asked about those below the second and the fourth. -/
theorem Outline.prunedBy_of_draw_branchesInPlace :
    ∃ whole pruned growth calls,
      (draw .unlimited () (.numbered "n") branchesInPlace).1 = .ok whole ∧
      draw .alternating 0 (.numbered "n") branchesInPlace = (.ok pruned, growth) ∧
      whole.PrunedBy .alternating 0 (.numbered "n") calls pruned growth ∧
      whole.size = 8 ∧ calls.length = 4 ∧ pruned.size = 2 := by
  have hWhole : (draw .unlimited () (.numbered "n") branchesInPlace).1.toOption.map size =
      some 8 := by
    decide +kernel
  have hTaken : (draw .alternating 0 (.numbered "n") branchesInPlace).2.ids.taken = 4 := by
    decide +kernel
  have hLeft : (draw .alternating 0 (.numbered "n") branchesInPlace).1.toOption.map size =
      some 2 := by
    decide +kernel
  obtain ⟨whole, hDraw, hSize⟩ := exists_ok_of_map_toOption hWhole
  obtain ⟨pruned, growth, calls, hPruned, h⟩ := prunedBy_of_draw hDraw .alternating 0
  rw [hPruned] at hTaken hLeft
  have hCalls : calls.length = 4 := by
    rw [h.ids] at hTaken
    exact (Nat.zero_add _).symm.trans hTaken
  exact ⟨whole, pruned, growth, calls, hDraw, hPruned, h, hSize, hCalls, Option.some.inj hLeft⟩

end SchemaOutline
