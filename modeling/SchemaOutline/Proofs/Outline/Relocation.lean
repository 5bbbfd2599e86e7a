import Mathlib.Data.List.Forall2
import SchemaOutline.Proofs.Outline.Sketch
import SchemaOutline.Proofs.Outline.Target

/-!
# Outlines at other locations

Nothing but the records of an outline depends on where its document stands. If the descents that are
visited are reached through some more steps, then the same entries come of them, and their records
have locations that are longer by these steps (`Yields.under`). Nor does it depend on that whether
anything comes of them at all (`Yields.exists_of_under`).
-/

set_option autoImplicit false

namespace SchemaOutline

section

variable (lead : List Step)

def Record.under (record : Record) : Record :=
  { record with location := lead ++ record.location }

def Descent.under (descent : Descent) : Descent := { descent with steps := lead ++ descent.steps }

def Expansion.under (expansion : Expansion) : Expansion where
  expandable := expansion.expandable
  descents := expansion.descents.map (Descent.under lead)
  arrays := lead.length + expansion.arrays

namespace Forest

def under : Forest → Forest
  | bare => .bare
  | tree record expandable below beside =>
    .tree (record.under lead) expandable below.under beside.under

variable (forest : Forest)

@[simp] theorem size_under : (forest.under lead).size = forest.size := by
  induction forest with
  | bare => rfl
  | tree record expandable below beside ihBelow ihBeside =>
    rw [under, size, size, ihBelow, ihBeside]

@[simp] theorem tops_under (n : Nat) : (forest.under lead).tops n = forest.tops n := by
  induction forest generalizing n with
  | bare => rfl
  | tree record expandable below beside _ ihBeside =>
    rw [under, tops, tops, size_under, ihBeside]

theorem records_under : (forest.under lead).records = forest.records.map (Record.under lead) := by
  induction forest with
  | bare => rfl
  | tree record expandable below beside ihBelow ihBeside =>
    rw [under, records, records, ihBelow, ihBeside, List.cons_append, List.cons_append,
      List.map_cons, List.map_append]

theorem ids_under : (forest.under lead).ids = forest.ids := by
  rw [ids, records_under, ids, List.map_map]
  rfl

theorem rows_under (n : Nat) (parent : Option Nat) (level : Int) :
    (forest.under lead).rows n parent level =
      (forest.rows n parent level).map fun (entry, record) => (entry, record.under lead) := by
  induction forest generalizing n parent level with
  | bare => rfl
  | tree record expandable below beside ihBelow ihBeside =>
    rw [under, rows, rows, size_under, tops_under, ihBelow, ihBeside, List.map_append,
      List.map_cons]
    rfl

end Forest

namespace Expansion

variable (steps : List Step)

theorem ofNamed_under (keyword : String) (named : Members) :
    ofNamed (lead ++ steps) keyword named =
      (ofNamed steps keyword named).map (Descent.under lead) := by
  simp [ofNamed, Descent.under]

theorem ofBranches_under (c : Combiner) (branches : List Json) (type : Json) :
    ofBranches (lead ++ steps) c branches type = (ofBranches steps c branches type).under lead := by
  simp [ofBranches, under, Descent.under]

theorem ofTuple_under (items : List Json) :
    ofTuple (lead ++ steps) items = (ofTuple steps items).under lead := by
  simp [ofTuple, under, Descent.under]

theorem ofProperties_under (properties patternProperties : Option Members) :
    ofProperties (lead ++ steps) properties patternProperties =
      (ofProperties steps properties patternProperties).under lead := by
  simp [ofProperties, under, ofNamed_under]

theorem roomBelow_under (step : Step) (expansion : Expansion) (room : Nat) :
    (expansion.under [step]).roomBelow (room + callsInPlace) = expansion.roomBelow room := by
  rw [roomBelow, roomBelow, under, List.length_singleton, Nat.add_comm 1, Nat.mul_succ,
    Nat.add_sub_add_right]

theorem leaf_under : leaf (lead ++ steps) = (leaf steps).under lead := by
  simp [leaf, under]

theorem ofParts_under (fragment : Members) (type : Json) :
    ofParts (lead ++ steps) fragment type = (ofParts steps fragment type).under lead := by
  unfold ofParts
  split
  · exact ofBranches_under lead steps _ _ _
  · split
    · split
      · exact ofTuple_under lead steps _
      · exact leaf_under lead steps
    · exact ofProperties_under lead steps _ _
    · exact leaf_under lead steps

end Expansion

end

namespace Yields

variable {σ : Type} {gate : Gate σ} {room : Nat} {above : Option String} {level : Int}
  {location : Location} {descents : List Descent} {stock stock' : Stock σ} {forest : Forest}

/-- From a longer location come the same entries at longer locations. -/
theorem at_longer (h : Yields gate room above level location descents stock forest stock')
    (lead : List Step) :
    Yields gate room above level (lead ++ location) descents stock (forest.under lead) stock' := by
  induction h with
  | done => exact .done
  | passed hValue _ ih => exact .passed hValue ih
  | keptOut hValue hSummary hAbove hJudge _ ih => exact .keptOut hValue hSummary hAbove hJudge ih
  | drawn hValue hSummary hAbove hJudge hExpansion _ _ ihBelow ihRest =>
    rw [← List.append_assoc] at ihBelow
    have hDrawn := Yields.drawn hValue hSummary hAbove hJudge hExpansion ihBelow ihRest
    rwa [List.append_assoc] at hDrawn

/-- Steps can be taken before the descents or with each of them. -/
theorem with_steps {lead : List Step}
    (h : Yields gate room above level (location ++ lead) descents stock forest stock') :
    Yields gate room above level location (descents.map (Descent.under lead)) stock forest
      stock' := by
  induction descents generalizing stock forest with
  | nil =>
    cases h
    exact .done
  | cons descent rest ih =>
    rw [List.map_cons]
    cases h with
    | passed hValue hRest => exact .passed hValue (ih hRest)
    | keptOut hValue hSummary hAbove hJudge hRest =>
      exact .keptOut hValue hSummary hAbove hJudge (ih hRest)
    | drawn hValue hSummary hAbove hJudge hExpansion hBelow hRest =>
      have hSteps : location ++ lead ++ descent.steps =
          location ++ (descent.under lead).steps := List.append_assoc ..
      rw [hSteps] at hBelow ⊢
      exact .drawn hValue hSummary hAbove hJudge hExpansion hBelow (ih hRest)

/-- What comes of descents at the root of a document comes, at longer locations, of descents that
are reached through more steps. -/
theorem under (h : Yields gate room above level [] descents stock forest stock')
    (lead : List Step) :
    Yields gate room above level [] (descents.map (Descent.under lead)) stock (forest.under lead)
      stock' := by
  have hLonger := h.at_longer lead
  rw [List.append_nil] at hLonger
  exact with_steps hLonger

theorem exists_elsewhere (h : Yields gate room above level location descents stock forest stock')
    {others : List Descent}
    (hSame : List.Forall₂ (fun descent other => descent.value = other.value ∧
      descent.inherited = other.inherited) descents others) (other : Location) :
    ∃ second, Yields gate room above level other others stock second stock' ∧
      second.ids = forest.ids := by
  induction h generalizing others other with
  | done =>
    cases hSame
    exact ⟨.bare, .done, rfl⟩
  | passed hValue _ ih =>
    obtain _ | ⟨⟨hDescent, -⟩, hRest⟩ := hSame
    obtain ⟨second, hSecond, hIds⟩ := ih hRest other
    exact ⟨second, .passed (hDescent ▸ hValue) hSecond, hIds⟩
  | keptOut hValue hSummary hAbove hJudge _ ih =>
    obtain _ | ⟨⟨hDescent, hInherited⟩, hRest⟩ := hSame
    obtain ⟨second, hSecond, hIds⟩ := ih hRest other
    exact ⟨second, .keptOut (hDescent ▸ hValue) (hInherited ▸ hSummary) hAbove hJudge hSecond, hIds⟩
  | drawn hValue hSummary hAbove hJudge hExpansion _ _ ihBelow ihRest =>
    obtain _ | @⟨_, descent, _, _, ⟨hDescent, hInherited⟩, hRest⟩ := hSame
    obtain ⟨below, hBelow, hBelowIds⟩ :=
      ihBelow (List.forall₂_same.mpr fun _ _ => ⟨rfl, rfl⟩) (other ++ descent.steps)
    obtain ⟨beside, hBeside, hBesideIds⟩ := ihRest hRest other
    refine ⟨_, .drawn (hDescent ▸ hValue) (hInherited ▸ hSummary) hAbove hJudge hExpansion hBelow
      hBeside, ?_⟩
    rw [Forest.ids_tree, Forest.ids_tree, hBelowIds, hBesideIds]

/-- What comes of descents that are reached through more steps comes of them without these steps
too. -/
theorem exists_of_under {lead : List Step}
    (h : Yields gate room above level [] (descents.map (Descent.under lead)) stock forest stock') :
    ∃ second, Yields gate room above level [] descents stock second stock' ∧
      second.ids = forest.ids := by
  apply h.exists_elsewhere
  rw [List.forall₂_map_left_iff]
  exact List.forall₂_same.mpr fun _ _ => ⟨rfl, rfl⟩

end Yields

end SchemaOutline
