import SchemaOutline.Proofs.Outline.Preview

/-!
# What a gate leaves of a forest

Any gate can be asked about the entries that are drawn without one. `Prunes` goes through their
forest and asks, as long as nothing above an entry was kept out, and it notes the calls of the gate
as it goes. What the gate is shown of the entry above is that entry as it stands at the time, with
the children that it has so far. Drawing with the gate comes to the same (`reaches_of_prunes`), and
so it succeeds wherever drawing without one does (`exists_prunes_of_draw`).
-/

set_option autoImplicit false

namespace SchemaOutline

variable {σ : Type}

/-- A call of a gate: the position that the entry has in the whole outline, what the gate is shown,
and what it answers. -/
structure Judgement where
  position : Nat
  summary : Summary
  above : Option Entry
  level : Int
  admitted : Bool

/-- The positions of the entries that are let in. -/
def admittedAt (calls : List Judgement) : List Nat :=
  (calls.filter (·.admitted)).map (·.position)

theorem admittedAt_append (calls more : List Judgement) :
    admittedAt (calls ++ more) = admittedAt calls ++ admittedAt more := by
  simp [admittedAt]

theorem admittedAt_cons (call : Judgement) (rest : List Judgement) :
    admittedAt (call :: rest) =
      if call.admitted then call.position :: admittedAt rest else admittedAt rest := by
  cases hAdmitted : call.admitted <;> simp [admittedAt, hAdmitted]

theorem mem_admittedAt_iff {q : Nat} {calls : List Judgement} :
    q ∈ admittedAt calls ↔ ∃ call ∈ calls, call.admitted = true ∧ call.position = q := by
  simp [admittedAt, and_assoc]

/-- The answers of the calls are those that a gate gives, from one state to another. -/
def Gate.Answers (gate : Gate σ) : σ → List Judgement → σ → Prop
  | s, [], s' => s = s'
  | s, call :: rest, s' => ∃ next,
      gate.judge s call.summary call.above call.level = (call.admitted, next) ∧
        gate.Answers next rest s'

theorem Gate.Answers.append {gate : Gate σ} {s next s' : σ} {calls more : List Judgement}
    (h : gate.Answers s calls next) (hMore : gate.Answers next more s') :
    gate.Answers s (calls ++ more) s' := by
  induction calls generalizing s with
  | nil =>
    cases h
    exact hMore
  | cons call rest ih =>
    obtain ⟨first, hFirst, hRest⟩ := h
    exact ⟨first, hFirst, ih hRest⟩

/-- An entry that was just placed. -/
def Entry.placed (id : String) (parent : Option Nat) (level : Int) (expandable : Bool) : Entry where
  id := id
  name := ""
  level := level
  parent := parent.map Nat.cast
  children := if expandable then some [] else none

/-- What a gate leaves of a forest that stands in the whole outline from position `n`. What is let
in stands from position `m`, under a parent that is shown to the gate as `above`. -/
inductive Prunes (gate : Gate σ) : Forest → Nat → Nat → Option Nat → Option Entry → Int →
    Stock σ → Forest → List Judgement → Stock σ → Prop where
  | bare {n m : Nat} {parent : Option Nat} {above : Option Entry} {level : Int} {stock : Stock σ} :
      Prunes gate .bare n m parent above level stock .bare [] stock
  | keptOut {n m : Nat} {parent : Option Nat} {above : Option Entry} {level : Int}
      {stock stock' : Stock σ} {record : Record} {expandable : Bool} {below beside left : Forest}
      {calls : List Judgement} {s : σ}
      (hJudge : gate.judge stock.gate (record.summary.withId stock.ids.peek) above level =
        (false, s))
      (hBeside : Prunes gate beside (n + 1 + below.size) m parent above level ⟨stock.ids.next, s⟩
        left calls stock') :
      Prunes gate (.tree record expandable below beside) n m parent above level stock left
        (⟨n, record.summary.withId stock.ids.peek, above, level, false⟩ :: calls) stock'
  | letIn {n m : Nat} {parent : Option Nat} {above : Option Entry} {level : Int}
      {stock stock' stock'' : Stock σ} {record : Record} {expandable : Bool}
      {below beside belowLeft besideLeft : Forest} {inner outer : List Judgement} {s : σ}
      (hJudge : gate.judge stock.gate (record.summary.withId stock.ids.peek) above level =
        (true, s))
      (hBelow : Prunes gate below (n + 1) (m + 1) (some m)
        (some (.placed stock.ids.peek parent level expandable)) (level + 1) ⟨stock.ids.next, s⟩
        belowLeft inner stock')
      (hBeside : Prunes gate beside (n + 1 + below.size) (m + 1 + belowLeft.size) parent
        (above.map (·.withChild m)) level stock' besideLeft outer stock'') :
      Prunes gate (.tree record expandable below beside) n m parent above level stock
        (.tree ⟨record.summary.withId stock.ids.peek, record.location⟩ expandable belowLeft
          besideLeft)
        (⟨n, record.summary.withId stock.ids.peek, above, level, true⟩ :: (inner ++ outer)) stock''

namespace Prunes

variable {gate : Gate σ} {forest left : Forest} {n m : Nat} {parent : Option Nat}
  {above : Option Entry} {level : Int} {stock stock' : Stock σ} {calls : List Judgement}

theorem exists_prunes (gate : Gate σ) (forest : Forest) (n m : Nat) (parent : Option Nat)
    (above : Option Entry) (level : Int) (stock : Stock σ) :
    ∃ left calls stock', Prunes gate forest n m parent above level stock left calls stock' := by
  induction forest generalizing n m parent above level stock with
  | bare => exact ⟨.bare, [], stock, .bare⟩
  | tree record expandable below beside ihBelow ihBeside =>
    cases hJudge : gate.judge stock.gate (record.summary.withId stock.ids.peek) above level with
    | mk admitted s =>
      cases admitted with
      | false =>
        obtain ⟨left, calls, stock', hBeside⟩ :=
          ihBeside (n + 1 + below.size) m parent above level ⟨stock.ids.next, s⟩
        exact ⟨_, _, _, .keptOut hJudge hBeside⟩
      | true =>
        obtain ⟨belowLeft, inner, mid, hBelow⟩ := ihBelow (n + 1) (m + 1) (some m)
          (some (.placed stock.ids.peek parent level expandable)) (level + 1) ⟨stock.ids.next, s⟩
        obtain ⟨besideLeft, outer, stock', hBeside⟩ := ihBeside (n + 1 + below.size)
          (m + 1 + belowLeft.size) parent (above.map (·.withChild m)) level mid
        exact ⟨_, _, _, .letIn hJudge hBelow hBeside⟩

/-- Every call takes one identifier, and what is let in keeps those that were taken for it. -/
theorem ids (h : Prunes gate forest n m parent above level stock left calls stock') :
    stock'.ids = ⟨stock.ids.nth, stock.ids.taken + calls.length⟩ ∧ calls.length ≤ forest.size ∧
      left.ids.Sublist ((List.range' stock.ids.taken calls.length).map stock.ids.nth) := by
  induction h with
  | bare => exact ⟨rfl, Nat.le_refl _, .slnil⟩
  | @keptOut n m parent above level stock stock' record expandable below beside left calls s _ _
      ih =>
    obtain ⟨hIds, hLength, hSublist⟩ := ih
    refine ⟨?_, ?_, ?_⟩
    · rw [hIds]
      simp [IdSource.next]
      omega
    · rw [List.length_cons, Forest.size]
      omega
    · rw [List.length_cons, List.range'_succ, List.map_cons]
      exact hSublist.cons _
  | @letIn n m parent above level stock stock' stock'' record expandable below beside belowLeft
      besideLeft inner outer s _ _ _ ihBelow ihBeside =>
    obtain ⟨hMid, hInner, hBelow⟩ := ihBelow
    obtain ⟨hLast, hOuter, hBeside⟩ := ihBeside
    rw [hMid] at hLast hBeside
    refine ⟨?_, ?_, ?_⟩
    · rw [hLast]
      simp [IdSource.next]
      omega
    · rw [List.length_cons, List.length_append, Forest.size]
      omega
    · rw [List.length_cons, List.length_append, List.range'_succ, List.map_cons,
        ← List.range'_append_1, List.map_append, Forest.ids_tree]
      exact (hBelow.append hBeside).cons_cons _

theorem answers (h : Prunes gate forest n m parent above level stock left calls stock') :
    gate.Answers stock.gate calls stock'.gate := by
  induction h with
  | bare => rfl
  | keptOut hJudge _ ih => exact ⟨_, hJudge, ih⟩
  | letIn hJudge _ _ ihBelow ihBeside => exact ⟨_, hJudge, ihBelow.append ihBeside⟩

theorem length_admittedAt (h : Prunes gate forest n m parent above level stock left calls stock') :
    (admittedAt calls).length = left.size := by
  induction h with
  | bare => rfl
  | keptOut _ _ ih => exact ih
  | letIn _ _ _ ihBelow ihBeside =>
    rw [admittedAt_cons, if_pos rfl, admittedAt_append, List.length_cons, List.length_append,
      ihBelow, ihBeside, Forest.size]
    omega

theorem bounds (h : Prunes gate forest n m parent above level stock left calls stock') :
    ∀ call ∈ calls, n ≤ call.position ∧ call.position < n + forest.size := by
  induction h with
  | bare =>
    intro call hMem
    cases hMem
  | keptOut _ _ ih =>
    intro call hMem
    rw [Forest.size]
    obtain rfl | hRest := List.mem_cons.mp hMem
    · dsimp only
      omega
    · have hBounds := ih call hRest
      omega
  | letIn _ _ _ ihBelow ihBeside =>
    intro call hMem
    rw [Forest.size]
    obtain rfl | hRest := List.mem_cons.mp hMem
    · dsimp only
      omega
    · obtain hInner | hOuter := List.mem_append.mp hRest
      · have hBounds := ihBelow call hInner
        omega
      · have hBounds := ihBeside call hOuter
        omega

/-- The calls go through the forest in order. -/
theorem pairwise (h : Prunes gate forest n m parent above level stock left calls stock') :
    calls.Pairwise (·.position < ·.position) := by
  induction h with
  | bare => exact .nil
  | keptOut _ hBeside ih =>
    refine List.pairwise_cons.mpr ⟨fun call hMem => ?_, ih⟩
    have hBounds := hBeside.bounds call hMem
    dsimp only
    omega
  | letIn _ hBelow hBeside ihBelow ihBeside =>
    refine List.pairwise_cons.mpr ⟨fun call hMem => ?_, List.pairwise_append.mpr
      ⟨ihBelow, ihBeside, fun call hInner other hOuter => ?_⟩⟩
    · dsimp only
      obtain hInner | hOuter := List.mem_append.mp hMem
      · have hBounds := hBelow.bounds call hInner
        omega
      · have hBounds := hBeside.bounds call hOuter
        omega
    · have hInnerBounds := hBelow.bounds call hInner
      have hOuterBounds := hBeside.bounds other hOuter
      omega

end Prunes

/-! ## Drawing with the gate -/

namespace Outline

/-- The row of a parent as it stands in an outline. -/
def rowOf (outline : Outline) (parent : Option Nat) : Option Entry :=
  parent.bind (outline.entries[·]?)

variable {outline : Outline} {parent : Option Nat} {level : Int}

theorem rowOf_stand (hParent : outline.HasParent parent) (record : Record) (expandable : Bool) :
    (outline.stand parent level record expandable).rowOf parent =
      (outline.rowOf parent).map (·.withChild outline.size) := by
  cases parent with
  | none => rfl
  | some p =>
    have hp : p < outline.entries.size := hParent p rfl
    simp [rowOf, stand, adopting, Array.getElem?_push, Array.getElem?_modify, Nat.ne_of_lt hp]

theorem rowOf_stand_size (outline : Outline) (parent : Option Nat) (level : Int) (record : Record)
    (expandable : Bool) :
    (outline.stand parent level record expandable).rowOf (some outline.size) =
      some (.placed record.summary.id parent level expandable) := by
  simp only [rowOf, stand, Option.bind_some]
  rw [Array.getElem?_push, if_pos (by simp [size])]
  rfl

theorem getElem?_adoptingAll_of_ne {entries : Array Entry} {p q : Nat} (hNe : p ≠ q)
    (children : List Nat) : (adoptingAll entries (some q) children)[p]? = entries[p]? := by
  rw [getElem?_adoptingAll]
  simp [Ne.symm hNe]

/-- Planting below an entry leaves the rows of the entries above it as they are. -/
theorem rowOf_plant {q : Nat} (hLess : ∀ p ∈ parent, p < q) (hq : q < outline.size)
    (forest : Forest) :
    (outline.plant (some q) level forest).rowOf parent = outline.rowOf parent := by
  cases parent with
  | none => rfl
  | some p =>
    have hp : p < q := hLess p rfl
    have hHas : outline.HasParent (some q) := by
      rintro _ ⟨⟩
      exact hq
    simp only [rowOf, Option.bind_some]
    rw [entries_plant hHas, Array.getElem?_append_left,
      getElem?_adoptingAll_of_ne (Nat.ne_of_lt hp)]
    rw [size_adoptingAll]
    exact Nat.lt_trans hp hq

end Outline

namespace Growth

open Outline

variable {gate : Gate σ} {room n m : Nat} {parent : Option Nat} {above : Option Entry}
  {id : Option String} {level : Int} {location : Location} {descents : List Descent}
  {forest left : Forest} {first last : Stock Unit} {stock stock' : Stock σ}
  {calls : List Judgement} {outline : Outline}

/-- Growing with a gate plants what the gate leaves of the forest that is yielded without one. -/
theorem reaches_of_prunes
    (hYields : Yields .unlimited room id level location descents first forest last)
    (hPrunes : Prunes gate forest n m parent above level stock left calls stock')
    (hSize : outline.size = m) (hParent : outline.HasParent parent)
    (hAbove : outline.rowOf parent = above) (hFree : outline.IsFreeFor left) :
    Reaches (visitAll gate room parent level location descents) ⟨outline, stock.ids, stock.gate⟩ ()
      ⟨outline.plant parent level left, stock'.ids, stock'.gate⟩ := by
  induction hYields generalizing n m parent above stock left calls stock' outline with
  | done =>
    cases hPrunes
    exact reaches_pure_iff.mpr ⟨rfl, rfl⟩
  | passed hValue _ ih =>
    exact reaches_cons_iff.mpr ⟨_, (reaches_visit_passed_iff hValue).mpr rfl,
      ih hPrunes hSize hParent hAbove hFree⟩
  | keptOut _ _ _ hJudge => cases hJudge
  | @drawn room id level location descent rest first mid last below beside fragment summary entry s
      expansion hValue hSummary _ _ hExpansion _ _ ihBelow ihRest =>
    have hOwn := Summary.ofFragment_of_ofFragment hSummary stock.ids.peek
    cases hPrunes with
    | keptOut hJudge hBeside =>
      refine reaches_cons_iff.mpr ⟨_, ?_, ihRest hBeside hSize hParent hAbove hFree⟩
      rw [hValue, reaches_visit_iff hParent]
      refine ⟨_, false, _, hOwn, ?_, rfl⟩
      rw [← hJudge, ← hAbove]
      rfl
    | letIn hJudge hBelow hBeside =>
      obtain ⟨hId, hBelowFree, hBesideFree⟩ := (isFreeFor_tree_iff parent level).mp hFree
      subst hSize
      have hBelowReaches := ihBelow hBelow (size_stand ..) (hasParent_stand _ _ _ _ _)
        (rowOf_stand_size ..) hBelowFree
      have hBesideReaches := ihRest hBeside (by rw [size_plant, size_stand])
        ((hParent.stand _ _ _ _).plant _ _ _)
        (by rw [rowOf_plant hParent (by simp), rowOf_stand hParent, hAbove]) hBesideFree
      refine reaches_cons_iff.mpr ⟨_, ?_, hBesideReaches⟩
      rw [hValue, reaches_visit_iff hParent]
      refine ⟨_, true, _, hOwn, ?_, hId, expansion, hExpansion, hBelowReaches⟩
      rw [← hJudge, ← hAbove]
      rfl

end Growth

namespace Outline

variable {ids : IdSource} {document : Json} {whole : Outline}

/-- Drawing with a gate succeeds where drawing without one does, and draws what the gate leaves of
the forest. -/
theorem exists_prunes_of_draw (hDraw : (draw .unlimited () ids document).1 = .ok whole)
    (gate : Gate σ) (start : σ) :
    ∃ forest left calls stock', whole = ofForest forest ∧ forest.ids.Nodup ∧ forest.Opens ∧
      left.ids.Nodup ∧ Prunes gate forest 0 0 none none 0 ⟨ids, start⟩ left calls stock' ∧
      draw gate start ids document =
        (.ok (ofForest left), ⟨ofForest left, stock'.ids, stock'.gate⟩) := by
  obtain ⟨forest, hYields, hIds, rfl⟩ := exists_forest_of_draw (Prod.ext hDraw rfl)
  obtain ⟨left, calls, stock', hPrunes⟩ :=
    Prunes.exists_prunes gate forest 0 0 none none 0 ⟨ids, start⟩
  have hLeft : left.ids.Nodup := by
    obtain ⟨-, hLength, hSublist⟩ := hPrunes.ids
    rw [hYields.ids_eq.1, ← Nat.add_sub_of_le hLength, ← List.range'_append_1, List.map_append]
      at hIds
    exact (List.nodup_append.mp hIds).1.sublist hSublist
  have hFree : empty.IsFreeFor left := ⟨hLeft, fun _ _ => rfl⟩
  have hReaches := Growth.reaches_of_prunes hYields hPrunes (Eq.refl empty.size)
    (hasParent_none empty) rfl hFree
  have hGrowth : draw gate start ids document =
      (.ok (ofForest left), ⟨ofForest left, stock'.ids, stock'.gate⟩) :=
    drawWithin_eq_ok_iff.mpr ⟨hReaches, rfl⟩
  exact ⟨forest, left, calls, stock', rfl, hIds, hYields.opens, hLeft, hPrunes, hGrowth⟩

end Outline

end SchemaOutline
