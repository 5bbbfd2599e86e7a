import SchemaOutline.Outline.Expansion
import SchemaOutline.Proofs.Fragment.Inheritance

/-!
# What an expansion lists

The target of a fragment is the fragment itself or, where it is an array with a single schema for
its items, the target of that schema: what is listed below an entry are the parts of the target of
its fragment. `Fragment.listed?` names these parts by the passages that lead to them.
`ofSummary_cases` says that the expansion of a summary has just the parts of the target, and
`steps_ofParts` that they are the listed ones, in order.
-/

set_option autoImplicit false

namespace SchemaOutline

def throughItems (count : Nat) : List Step := List.replicate count (.key "items")

theorem throughItems_succ (count : Nat) :
    throughItems (count + 1) = .key "items" :: throughItems count := rfl

/-- The way from a fragment to a part of it that has an entry of its own: a keyword and then a
position or a name. -/
inductive Passage where
  | branch (c : Combiner) (position : Nat)
  | item (position : Nat)
  | property (name : String)
  | patternProperty (name : String)
deriving Repr, DecidableEq

def Passage.steps : Passage → List Step
  | .branch c position => [.key c.keyword, .index position]
  | .item position => [.key "items", .index position]
  | .property name => [.key "properties", .key name]
  | .patternProperty name => [.key "patternProperties", .key name]

theorem Passage.steps_ne_nil (passage : Passage) : passage.steps ≠ [] := by
  cases passage <;> nofun

theorem Passage.steps_cases (passage : Passage) :
    (∃ keyword ∈ ["allOf", "anyOf", "oneOf", "items"], ∃ position,
      passage.steps = [.key keyword, .index position]) ∨
    ∃ keyword ∈ ["properties", "patternProperties"], ∃ name,
      passage.steps = [.key keyword, .key name] := by
  cases passage with
  | branch c position => exact .inl ⟨c.keyword, by cases c <;> decide, _, rfl⟩
  | item position => exact .inl ⟨"items", by decide, _, rfl⟩
  | property name => exact .inr ⟨"properties", by decide, _, rfl⟩
  | patternProperty name => exact .inr ⟨"patternProperties", by decide, _, rfl⟩

/-- What is inherited along a passage from a fragment: branches of a combiner inherit the given
type, and all else nothing. -/
def Passage.Inherits (passage : Passage) (fragment : Members) (type inherited : Json) : Prop :=
  match passage with
  | .branch c _ => Fragment.combiner? fragment = some c ∧ inherited = type
  | _ => inherited = .null

namespace Fragment

/-- How many single schemas for items lead from a fragment to its target, and the target. -/
def target (fragment : Members) : Nat × Members :=
  match h : fragment.get "items" with
  | .obj inner =>
    if structuralKind fragment = .array then ((target inner).1 + 1, (target inner).2)
    else (0, fragment)
  | _ => (0, fragment)
termination_by sizeOf fragment
decreasing_by
  all_goals
    have hLt := Members.sizeOf_lt_of_get? (Members.get?_of_get_eq_obj h)
    simp only [Json.obj.sizeOf_spec] at hLt
    omega

def positions (items : List Json) : List Nat :=
  (items.zipIdx.filter fun (v, _) => v.members?.isSome).map Prod.snd

def fragmentNames (named : Members) : List String :=
  (named.filter fun member => member.2.members?.isSome).map Prod.fst

/-- The parts of a target that have entries of their own, in order; `none` where it has no parts at
all. -/
def listed? (target : Members) : Option (List Passage) :=
  match combiner? target with
  | some c => some ((positions ((target.get c.keyword).items?.getD [])).map (.branch c))
  | none =>
    match structuralKind target with
    | .array => (target.get "items").items?.map fun items => (positions items).map .item
    | .object =>
      let properties := (target.get "properties").members?
      let patternProperties := (target.get "patternProperties").members?
      if properties.isSome || patternProperties.isSome then
        some ((fragmentNames (properties.getD [])).map .property
          ++ (fragmentNames (patternProperties.getD [])).map .patternProperty)
      else none
    | _ => none

variable {fragment inner : Members}

theorem target_of_items (hKind : structuralKind fragment = .array)
    (hItems : fragment.get "items" = .obj inner) :
    target fragment = ((target inner).1 + 1, (target inner).2) := by
  rw [target]
  split
  · rename_i other hOther
    rw [hItems] at hOther
    cases hOther
    rw [if_pos hKind]
  · rename_i hOther
    exact absurd hItems (hOther inner)

theorem target_of_kind (hKind : structuralKind fragment ≠ .array) :
    target fragment = (0, fragment) := by
  rw [target]
  split
  · rw [if_neg hKind]
  · rfl

theorem target_of_items_ne (hItems : (fragment.get "items").members? = none) :
    target fragment = (0, fragment) := by
  rw [target]
  split
  · rename_i inner hInner
    rw [hInner] at hItems
    cases hItems
  · rfl

theorem target_eq_self (h : (target fragment).1 = 0) : (target fragment).2 = fragment := by
  rw [target] at h ⊢
  split at h
  · split at h
    · cases h
    · rename_i hKind
      rw [if_neg hKind]
  · rfl

theorem at?_target (fragment : Members) :
    (Json.obj fragment).at? (throughItems (target fragment).1) =
      some (.obj (target fragment).2) := by
  induction fragment using target.induct with
  | case1 fragment inner hItems hKind ih =>
    rw [target_of_items hKind hItems, throughItems_succ, Json.at?_cons]
    simp only [Json.step?, Members.get?_of_get_eq_obj hItems, Option.bind_some]
    exact ih
  | case2 fragment inner hItems hKind =>
    rw [target_of_kind hKind]
    rfl
  | case3 fragment hItems =>
    rw [target_of_items_ne (Json.members?_eq_none_of_ne hItems)]
    rfl

end Fragment

namespace Fragment

variable {fragment : Members}

theorem combiner?_eq_none_of_kind (h : structuralKind fragment ≠ .combiner) :
    combiner? fragment = none := by
  cases hCombiner : combiner? fragment with
  | none => rfl
  | some c => exact absurd (by simp [structuralKind, hCombiner]) h

theorem exists_combiner_of_kind (h : structuralKind fragment = .combiner) :
    ∃ c, combiner? fragment = some c := by
  cases hCombiner : combiner? fragment with
  | some c => exact ⟨c, rfl⟩
  | none =>
    unfold structuralKind at h
    rw [hCombiner, if_neg (by simp)] at h
    split at h
    · cases h
    · split at h <;> cases h

theorem kind_of_combiner? {c : Combiner} (h : combiner? fragment = some c) :
    structuralKind fragment = .combiner := by
  simp [structuralKind, h]

end Fragment

namespace Summary

/-- What a summary keeps of its fragment: a combiner with its branches and its type, a target, or
what leads further down by structure. -/
theorem shape_of_ofFragment {id : String} {fragment : Members} {inherited : Json}
    {summary : Summary} (h : ofFragment id fragment inherited = .ok summary) :
    (∃ c, Fragment.combiner? fragment = some c ∧
      summary.shape = .combiner c ((fragment.get c.keyword).items?.getD []) ∧
      summary.type = TypeName.ofJson? (fragment.get "type")) ∨
    (Fragment.combiner? fragment = none ∧ Fragment.isReference fragment = true ∧
      ∃ target, summary.shape = .reference target) ∨
    (Fragment.combiner? fragment = none ∧ Fragment.isReference fragment = false ∧
      match Fragment.structuralKind fragment with
      | .array =>
        summary.shape = .array (fragment.get "items") (fragment.get "additionalItems")
      | .object => ∃ additional required,
        summary.shape = .object (fragment.get "properties").members?
          (fragment.get "patternProperties").members? additional required
      | _ => summary.shape = .scalar) := by
  unfold ofFragment at h
  cases hCombiner : Fragment.combiner? fragment with
  | some c =>
    rw [hCombiner] at h
    cases h
    refine .inl ⟨c, rfl, rfl, ?_⟩
    simp only [typeOf]
    cases TypeName.ofJson? (fragment.get "type") <;> rfl
  | none =>
    rw [hCombiner] at h
    simp only at h
    split at h
    · rename_i hReference
      cases h
      exact .inr (.inl ⟨rfl, hReference, _, rfl⟩)
    · rename_i hReference
      refine .inr (.inr ⟨rfl, Bool.eq_false_iff.mpr hReference, ?_⟩)
      cases hKind : Fragment.structuralKind fragment with
      | object =>
        rw [hKind] at h
        cases hRequired : requiredOf fragment with
        | error failure =>
          rw [hRequired] at h
          cases h
        | ok required =>
          rw [hRequired] at h
          cases h
          exact ⟨_, _, rfl⟩
      | array | combiner | reference | scalar =>
        rw [hKind] at h
        cases h
        rfl

theorem kind_eq_reference_iff {id : String} {fragment : Members} {inherited : Json}
    {summary : Summary} (h : ofFragment id fragment inherited = .ok summary) :
    summary.kind = .reference ↔
      Fragment.combiner? fragment = none ∧ Fragment.isReference fragment = true := by
  unfold kind
  obtain ⟨c, hCombiner, hShape, -⟩ | ⟨hCombiner, hReference, target, hShape⟩ |
      ⟨hCombiner, hReference, hShape⟩ := shape_of_ofFragment h
  · simp [hShape, hCombiner, Shape.kind]
  · simp [hShape, hCombiner, hReference, Shape.kind]
  · rw [hReference]
    simp only [Bool.false_eq_true, and_false, iff_false]
    split at hShape
    · simp [hShape, Shape.kind]
    · obtain ⟨_, _, hShape⟩ := hShape
      simp [hShape, Shape.kind]
    · simp [hShape, Shape.kind]

end Summary

namespace Expansion

open Fragment

/-- The parts of a fragment that is not expanded in place any further, under a lead; `type` is what
its branches inherit. -/
def ofParts (lead : List Step) (fragment : Members) (type : Json) : Expansion :=
  match combiner? fragment with
  | some c => ofBranches lead c ((fragment.get c.keyword).items?.getD []) type
  | none =>
    match structuralKind fragment with
    | .array =>
      match fragment.get "items" with
      | .arr items => ofTuple lead items
      | _ => leaf lead
    | .object =>
      ofProperties lead (fragment.get "properties").members?
        (fragment.get "patternProperties").members?
    | _ => leaf lead

variable {room : Nat} {lead : List Step} {fragment : Members} {expansion : Expansion}

section

variable (lead : List Step) (type : Json)

theorem ofParts_of_combiner {c : Combiner} (h : combiner? fragment = some c) :
    ofParts lead fragment type =
      ofBranches lead c ((fragment.get c.keyword).items?.getD []) type := by
  simp only [ofParts, h]

theorem ofParts_of_array (h : structuralKind fragment = .array) :
    ofParts lead fragment type =
      match fragment.get "items" with
      | .arr items => ofTuple lead items
      | _ => leaf lead := by
  simp only [ofParts, combiner?_eq_none_of_kind (by rw [h]; nofun), h]

theorem ofParts_of_object (h : structuralKind fragment = .object) :
    ofParts lead fragment type =
      ofProperties lead (fragment.get "properties").members?
        (fragment.get "patternProperties").members? := by
  simp only [ofParts, combiner?_eq_none_of_kind (by rw [h]; nofun), h]

theorem ofParts_of_scalar (hCombiner : structuralKind fragment ≠ .combiner)
    (hArray : structuralKind fragment ≠ .array) (hObject : structuralKind fragment ≠ .object) :
    ofParts lead fragment type = leaf lead := by
  simp only [ofParts, combiner?_eq_none_of_kind hCombiner]

theorem ofParts_of_combiner?_eq_none (h : combiner? fragment = none) (other : Json) :
    ofParts lead fragment type = ofParts lead fragment other := by
  simp only [ofParts, h]

end

theorem ofItems_of_members?_eq_none (room : Nat) (lead : List Step) (v : Json) :
    v.members? = none →
      ofItems room lead v =
        .ok (match v with | .arr items => ofTuple lead items | _ => leaf lead) := by
  intro h
  rw [ofItems.eq_def]
  cases v with
  | obj inner => cases h
  | _ => rfl

theorem ofItems_of_lt (h : room < callsInPlace) (inner : Members) :
    ofItems room lead (.obj inner) = .error .tooDeep := by
  rw [ofItems, if_pos h]

section

variable (room : Nat) (lead : List Step) {inner : Members}

theorem ofItems_of_array (h : structuralKind inner = .array) :
    ofItems (room + callsInPlace) lead (.obj inner) =
      ofItems room (lead ++ [.key "items"]) (inner.get "items") := by
  rw [ofItems, if_neg (Nat.not_lt.mpr (Nat.le_add_left _ _)), h, Nat.add_sub_cancel]

/-- An item schema that is no array itself ends the way through arrays. -/
theorem ofItems_of_not_array (h : structuralKind inner ≠ .array) :
    ofItems (room + callsInPlace) lead (.obj inner) =
      .ok (ofParts (lead ++ [.key "items"]) inner (inner.get "type")) := by
  rw [ofItems, if_neg (Nat.not_lt.mpr (Nat.le_add_left _ _))]
  cases hKind : structuralKind inner with
  | array => exact absurd hKind h
  | object => rw [ofParts_of_object _ _ hKind]
  | combiner =>
    obtain ⟨c, hCombiner⟩ := exists_combiner_of_kind hKind
    rw [ofParts_of_combiner _ _ hCombiner, hCombiner]
  | reference | scalar =>
    rw [ofParts_of_scalar] <;> rw [hKind] <;> decide

end

/-- The items of an array are the parts of its target, if there is room for all the arrays on the
way. -/
theorem ofItems_eq_ite (hKind : structuralKind fragment = .array) (room : Nat) (lead : List Step) :
    ofItems room lead (fragment.get "items") =
      if callsInPlace * (target fragment).1 ≤ room then
        .ok (ofParts (lead ++ throughItems (target fragment).1) (target fragment).2
          ((target fragment).2.get "type"))
      else .error .tooDeep := by
  induction fragment using target.induct generalizing room lead with
  | case1 fragment inner hItems _ ih =>
    rw [hItems, target_of_items hKind hItems, throughItems_succ, List.append_cons, Nat.mul_succ]
    by_cases hRoom : room < callsInPlace
    · rw [ofItems_of_lt hRoom, if_neg (by omega)]
    obtain ⟨left, rfl⟩ := Nat.exists_eq_add_of_le' (Nat.le_of_not_lt hRoom)
    simp only [Nat.add_le_add_iff_right]
    by_cases hInner : structuralKind inner = .array
    · rw [ofItems_of_array _ _ hInner]
      exact ih hInner left _
    · rw [ofItems_of_not_array _ _ hInner, target_of_kind hInner]
      simp [throughItems]
  | case2 fragment inner _ hOther => exact absurd hKind hOther
  | case3 fragment hOther =>
    have hMembers : (fragment.get "items").members? = none := Json.members?_eq_none_of_ne hOther
    rw [ofItems_of_members?_eq_none _ _ _ hMembers, target_of_items_ne hMembers]
    simp [throughItems, ofParts_of_array _ _ hKind]

theorem ofItems_eq (hKind : structuralKind fragment = .array)
    (h : ofItems room lead (fragment.get "items") = .ok expansion) :
    expansion = ofParts (lead ++ throughItems (target fragment).1) (target fragment).2
      ((target fragment).2.get "type") := by
  rw [ofItems_eq_ite hKind] at h
  split at h
  · exact (Except.ok.inj h).symm
  · cases h

@[simp]
theorem arrays_ofParts (lead : List Step) (fragment : Members) (type : Json) :
    (ofParts lead fragment type).arrays = lead.length := by
  unfold ofParts
  split
  · rfl
  · split
    · split <;> rfl
    · rfl
    · rfl

theorem expandable_ofParts (lead : List Step) (fragment : Members) (type : Json) :
    (ofParts lead fragment type).expandable = (listed? fragment).isSome := by
  unfold ofParts listed?
  cases combiner? fragment with
  | some c => rfl
  | none =>
    cases structuralKind fragment with
    | array => cases fragment.get "items" <;> rfl
    | object =>
      simp only [ofProperties]
      split <;> simp_all
    | _ => rfl

theorem steps_map {α : Type} (parts : List α) (descent : α → Descent) (isFragment : α → Bool)
    (hFragment : ∀ part, (descent part).value.members?.isSome = isFragment part) :
    ((parts.map descent).filter (·.value.members?.isSome)).map Descent.steps =
      (parts.filter isFragment).map fun part => (descent part).steps := by
  rw [List.filter_map, List.map_map]
  congr 2
  funext part
  exact hFragment part

theorem steps_ofBranches (lead : List Step) (c : Combiner) (branches : List Json) (type : Json) :
    ((ofBranches lead c branches type).descents.filter (·.value.members?.isSome)).map
        Descent.steps =
      ((positions branches).map (Passage.branch c)).map (lead ++ ·.steps) := by
  simp only [ofBranches, positions, List.map_map]
  exact steps_map _ _ _ fun (v, _) => Json.isSome_members?_inheriting v type

theorem steps_ofTuple (lead : List Step) (items : List Json) :
    ((ofTuple lead items).descents.filter (·.value.members?.isSome)).map Descent.steps =
      ((positions items).map Passage.item).map (lead ++ ·.steps) := by
  simp only [ofTuple, positions, List.map_map]
  exact steps_map _ _ _ fun _ => rfl

theorem steps_ofNamed (lead : List Step) (keyword : String) (named : Members) :
    ((ofNamed lead keyword named).filter (·.value.members?.isSome)).map Descent.steps =
      (fragmentNames named).map fun name => lead ++ [.key keyword, .key name] := by
  simp only [ofNamed, fragmentNames, List.map_map]
  exact steps_map _ _ _ fun _ => rfl

theorem steps_ofParts (lead : List Step) (fragment : Members) (type : Json) :
    ((ofParts lead fragment type).descents.filter (·.value.members?.isSome)).map Descent.steps =
      ((listed? fragment).getD []).map (lead ++ ·.steps) := by
  unfold ofParts listed?
  cases combiner? fragment with
  | some c => exact steps_ofBranches _ _ _ _
  | none =>
    cases structuralKind fragment with
    | array =>
      cases fragment.get "items" with
      | arr items => exact steps_ofTuple _ _
      | _ => rfl
    | object =>
      simp only [ofProperties, List.filter_append, List.map_append, steps_ofNamed]
      split
      · simp [Passage.steps, Function.comp_def]
      · rename_i hNone
        simp only [Bool.or_eq_true, not_or, Bool.not_eq_true, Option.isSome_eq_false_iff,
          Option.isNone_iff_eq_none] at hNone
        rw [hNone.1, hNone.2]
        rfl
    | _ => rfl

theorem at?_position {keyword : String} {items : List Json} {v : Json} {i : Nat}
    (hItems : (fragment.get keyword).items? = some items) (hMem : (v, i) ∈ items.zipIdx) :
    (Json.obj fragment).at? [.key keyword, .index i] = some v := by
  have hGet : fragment.get keyword = .arr items := Json.items?_eq_some_iff.mp hItems
  have hStep : (Json.arr items).step? (.index i) = some v := by
    simpa [Json.step?] using List.mk_mem_zipIdx_iff_getElem?.mp hMem
  rw [Json.at?_cons, Json.step?, Members.get?_of_get_eq_arr hGet, Option.bind_some, Json.at?_cons,
    hStep]
  rfl

theorem at?_name {keyword name : String} {named : Members} {v : Json}
    (hNamed : (fragment.get keyword).members? = some named)
    (hNames : (fragment.get keyword).NoDuplicates) (hMem : (name, v) ∈ named) :
    (Json.obj fragment).at? [.key keyword, .key name] = some v := by
  have hGet : fragment.get keyword = .obj named := Json.members?_eq_some_iff.mp hNamed
  rw [hGet] at hNames
  rw [Json.at?_cons, Json.step?, Members.get?_of_get_eq_obj hGet, Option.bind_some, Json.at?_cons,
    Json.step?, Members.get?_of_mem hNames.names hMem]
  rfl

theorem exists_name_of_mem {keyword : String} {descent : Descent}
    (hNames : (fragment.get keyword).NoDuplicates)
    (h : descent ∈ ofNamed lead keyword ((fragment.get keyword).members?.getD [])) :
    ∃ name v, descent = ⟨lead ++ [.key keyword, .key name], v, .null⟩ ∧
      (Json.obj fragment).at? [.key keyword, .key name] = some v := by
  obtain ⟨⟨name, v⟩, hMem, rfl⟩ := List.mem_map.mp h
  cases hNamed : (fragment.get keyword).members? with
  | none =>
    rw [hNamed] at hMem
    cases hMem
  | some named =>
    rw [hNamed] at hMem
    exact ⟨name, v, rfl, at?_name hNamed hNames hMem⟩

theorem exists_passage_of_mem {type : Json} {descent : Descent}
    (hNames : ∀ keyword ≠ "type", (fragment.get keyword).NoDuplicates)
    (h : descent ∈ (ofParts lead fragment type).descents) :
    ∃ (passage : Passage) (v : Json), descent.steps = lead ++ passage.steps ∧
      (Json.obj fragment).at? passage.steps = some v ∧
      descent.value = v.inheriting descent.inherited ∧
      passage.Inherits fragment type descent.inherited := by
  unfold ofParts at h
  cases hCombiner : combiner? fragment with
  | some c =>
    rw [hCombiner] at h
    obtain ⟨⟨branch, i⟩, hMem, rfl⟩ := List.mem_map.mp h
    cases hItems : (fragment.get c.keyword).items? with
    | none =>
      rw [hItems] at hMem
      cases hMem
    | some branches =>
      rw [hItems] at hMem
      exact ⟨.branch c i, branch, rfl, at?_position hItems hMem, rfl, hCombiner, rfl⟩
  | none =>
    rw [hCombiner] at h
    cases hKind : structuralKind fragment with
    | array =>
      simp only [hKind] at h
      split at h
      · rename_i items hItems
        obtain ⟨⟨item, i⟩, hMem, rfl⟩ := List.mem_map.mp h
        exact ⟨.item i, item, rfl, at?_position (by rw [hItems]; rfl) hMem,
          (Json.inheriting_null item).symm, rfl⟩
      · cases h
    | object =>
      simp only [hKind, ofProperties, List.mem_append] at h
      rcases h with h | h
      · obtain ⟨name, v, rfl, hAt⟩ := exists_name_of_mem (hNames _ (by decide)) h
        exact ⟨.property name, v, rfl, hAt, (Json.inheriting_null v).symm, rfl⟩
      · obtain ⟨name, v, rfl, hAt⟩ := exists_name_of_mem (hNames _ (by decide)) h
        exact ⟨.patternProperty name, v, rfl, hAt, (Json.inheriting_null v).symm, rfl⟩
    | combiner | reference | scalar =>
      simp only [hKind] at h
      cases h

/-- What the branches of a target inherit: the type as recorded, where the target is the fragment
itself, and otherwise the type as written. -/
def typeBelow (summary : Summary) (count : Nat) (target : Members) : Json :=
  if count = 0 then summary.typeValue else target.get "type"

/-- A summary that is no reference is expanded into the parts of the target of its fragment; a
reference has no parts and is expandable where it points into the document, but not to its root. -/
theorem ofSummary_cases {id : String} {inherited : Json} {summary : Summary}
    (hSummary : Summary.ofFragment id fragment inherited = .ok summary)
    (h : ofSummary room summary = .ok expansion) :
    (∃ reference, summary.shape = .reference reference ∧
      expansion =
        ⟨Summary.isLocalTarget reference && !Summary.isRootTarget reference, [], 0⟩) ∨
    (summary.kind ≠ .reference ∧
      expansion = ofParts (throughItems (target fragment).1) (target fragment).2
        (typeBelow summary (target fragment).1 (target fragment).2)) := by
  obtain ⟨c, hCombiner, hShape, -⟩ | ⟨-, -, reference, hShape⟩ | ⟨hCombiner, -, hShape⟩ :=
    Summary.shape_of_ofFragment hSummary
  · rw [ofSummary, hShape] at h
    cases h
    refine .inr ⟨by rw [Summary.kind, hShape]; nofun, ?_⟩
    rw [target_of_kind (by rw [kind_of_combiner? hCombiner]; nofun),
      ofParts_of_combiner _ _ hCombiner]
    rfl
  · rw [ofSummary, hShape] at h
    cases h
    exact .inl ⟨reference, hShape, rfl⟩
  · refine .inr ?_
    unfold ofSummary at h
    cases hKind : structuralKind fragment with
    | array =>
      rw [hKind] at hShape
      rw [hShape] at h
      refine ⟨by rw [Summary.kind, hShape]; nofun, ?_⟩
      rw [ofItems_eq hKind h, List.nil_append]
      by_cases hCount : (target fragment).1 = 0
      · rw [target_eq_self hCount]
        exact ofParts_of_combiner?_eq_none _ _ hCombiner _
      · rw [typeBelow, if_neg hCount]
    | object =>
      rw [hKind] at hShape
      obtain ⟨additional, required, hShape⟩ := hShape
      rw [hShape] at h
      cases h
      refine ⟨by rw [Summary.kind, hShape]; nofun, ?_⟩
      rw [target_of_kind (by rw [hKind]; nofun), ofParts_of_object _ _ hKind]
      rfl
    | combiner =>
      obtain ⟨c, hSome⟩ := exists_combiner_of_kind hKind
      rw [hSome] at hCombiner
      cases hCombiner
    | reference | scalar =>
      rw [hKind] at hShape
      rw [hShape] at h
      cases h
      refine ⟨by rw [Summary.kind, hShape]; nofun, ?_⟩
      rw [target_of_kind (by rw [hKind]; nofun), ofParts_of_scalar]
      · rfl
      all_goals
        rw [hKind]
        nofun

theorem descents_ofParts_of_not_expandable {type : Json}
    (h : (ofParts lead fragment type).expandable = false) :
    (ofParts lead fragment type).descents = [] := by
  unfold ofParts at h ⊢
  cases hCombiner : combiner? fragment with
  | some c =>
    rw [hCombiner] at h
    cases h
  | none =>
    rw [hCombiner] at h
    cases hKind : structuralKind fragment with
    | array =>
      simp only [hKind] at h ⊢
      split at h
      · cases h
      · rfl
    | object =>
      simp only [hKind, ofProperties, Bool.or_eq_false_iff, Option.isSome_eq_false_iff,
        Option.isNone_iff_eq_none] at h ⊢
      rw [h.1, h.2]
      rfl
    | combiner | reference | scalar => rfl

/-- What cannot be expanded has nothing listed below it. -/
theorem descents_of_not_expandable {id : String} {inherited : Json} {summary : Summary}
    (hSummary : Summary.ofFragment id fragment inherited = .ok summary)
    (h : ofSummary room summary = .ok expansion) (hLeaf : expansion.expandable = false) :
    expansion.descents = [] := by
  obtain ⟨_, -, rfl⟩ | ⟨-, rfl⟩ := ofSummary_cases hSummary h
  · rfl
  · exact descents_ofParts_of_not_expandable hLeaf

end Expansion

end SchemaOutline
