import SchemaOutline.Proofs.Fragment.RearrangedFolding
import SchemaOutline.Proofs.Outline.Respelling
import SchemaOutline.Proofs.Outline.Shallow

/-!
# Counting and searching with keywords in another order

What is listed below an entry keeps its place whatever the order of keywords (`ofItems_agree`), and
so entries are counted alike (`entryCount_eq`). The search for `allOf` goes through the keywords
from the left and stops where it finds something or gets too deep. So it may find something in a
document where the search of a rearranged one fails, and this is the only difference
(`mentionsAllOf_rearranged`).
-/

set_option autoImplicit false

namespace SchemaOutline

open Json Fragment

/-- Both computations succeed, with results that are related, or both fail in the same way. -/
def Agree {α β : Type} (R : α → β → Prop) (x : Except Failure α) (y : Except Failure β) : Prop :=
  (∃ a b, x = .ok a ∧ y = .ok b ∧ R a b) ∨ ∃ failure, x = .error failure ∧ y = .error failure

theorem Agree.exists_of_ok {α β : Type} {R : α → β → Prop} {x : Except Failure α}
    {y : Except Failure β} {a : α} (h : Agree R x y) (hOk : x = .ok a) :
    ∃ b, y = .ok b ∧ R a b := by
  obtain ⟨_, b, hLeft, hRight, hRel⟩ | ⟨failure, hLeft, -⟩ := h
  · rw [hOk] at hLeft
    cases hLeft
    exact ⟨b, hRight, hRel⟩
  · rw [hOk] at hLeft
    cases hLeft

theorem forall₂_zipIdx {α β : Type} {R : α → β → Prop} {xs : List α} {ys : List β}
    (h : List.Forall₂ R xs ys) (n : Nat) :
    List.Forall₂ (fun x y => R x.1 y.1 ∧ x.2 = y.2) (xs.zipIdx n) (ys.zipIdx n) := by
  induction h generalizing n with
  | nil => exact .nil
  | cons hFirst _ ih => exact .cons ⟨hFirst, rfl⟩ (ih (n + 1))

variable {first second : Members} {v w : Json}

/-! ### Expansions -/

/-- Two descents go the same way, to values that are rearranged into each other. -/
structure Descent.Alike (descent other : Descent) : Prop where
  steps : descent.steps = other.steps
  value : Rearranged .schema descent.value other.value
  inherited : descent.inherited = other.inherited

structure Expansion.Alike (expansion other : Expansion) : Prop where
  expandable : expansion.expandable = other.expandable
  descents : List.Forall₂ Descent.Alike expansion.descents other.descents
  arrays : expansion.arrays = other.arrays

namespace Expansion

theorem Alike.roomBelow_eq {expansion other : Expansion} (h : expansion.Alike other) (room : Nat) :
    expansion.roomBelow room = other.roomBelow room := by
  rw [roomBelow, roomBelow, h.arrays]

theorem Alike.refl (expansion : Expansion) : expansion.Alike expansion where
  expandable := rfl
  descents := List.forall₂_same.mpr fun _ _ => ⟨rfl, .same _, rfl⟩
  arrays := rfl

theorem ofBranches_alike (lead : List Step) (c : Combiner) {branches others : List Json}
    (h : List.Forall₂ (Rearranged .schema) branches others) (type : Json) :
    (ofBranches lead c branches type).Alike (ofBranches lead c others type) where
  expandable := rfl
  descents := by
    rw [ofBranches, ofBranches, List.forall₂_map_left_iff, List.forall₂_map_right_iff]
    refine (forall₂_zipIdx h 0).imp ?_
    rintro ⟨branch, i⟩ ⟨other, _⟩ ⟨hBranch, rfl⟩
    exact ⟨rfl, hBranch.inheriting type, rfl⟩
  arrays := rfl

theorem ofTuple_alike (lead : List Step) {items others : List Json}
    (h : List.Forall₂ (Rearranged .schema) items others) :
    (ofTuple lead items).Alike (ofTuple lead others) where
  expandable := rfl
  descents := by
    rw [ofTuple, ofTuple, List.forall₂_map_left_iff, List.forall₂_map_right_iff]
    refine (forall₂_zipIdx h 0).imp ?_
    rintro ⟨item, i⟩ ⟨other, _⟩ ⟨hItem, rfl⟩
    exact ⟨rfl, hItem, rfl⟩
  arrays := rfl

theorem ofNamed_alike (lead : List Step) (keyword : String) {named others : Members}
    (h : named.Aligned others) :
    List.Forall₂ Descent.Alike (ofNamed lead keyword named) (ofNamed lead keyword others) := by
  rw [ofNamed, ofNamed, List.forall₂_map_left_iff, List.forall₂_map_right_iff]
  refine List.Forall₂.imp ?_ h
  rintro ⟨name, v⟩ ⟨_, w⟩ ⟨rfl, hValue⟩
  exact ⟨rfl, hValue, rfl⟩

theorem ofProperties_alike (lead : List Step)
    {properties properties' patternProperties patternProperties' : Option Members}
    (hProperties : Option.Rel Members.Aligned properties properties')
    (hPatternProperties : Option.Rel Members.Aligned patternProperties patternProperties') :
    (ofProperties lead properties patternProperties).Alike
      (ofProperties lead properties' patternProperties') where
  expandable := by
    simp only [ofProperties, isSome_eq_of_rel hProperties, isSome_eq_of_rel hPatternProperties]
  descents := List.rel_append (ofNamed_alike lead _ (rel_getD hProperties .nil))
    (ofNamed_alike lead _ (rel_getD hPatternProperties .nil))
  arrays := rfl

theorem ofItems_agree (room : Nat) (lead : List Step) (h : Rearranged .schema v w) :
    Agree Alike (ofItems room lead v) (ofItems room lead w) := by
  induction room using Nat.strongRecOn generalizing lead v w with
  | ind room ih =>
    obtain ⟨first, second, rfl, rfl, hMatches⟩ | ⟨xs, ys, rfl, rfl, hItems⟩ |
      ⟨rfl, hMembers, hItems⟩ := h.cases
    · by_cases hRoom : room < callsInPlace
      · rw [ofItems_of_lt hRoom, ofItems_of_lt hRoom]
        exact .inr ⟨_, rfl, rfl⟩
      rw [ofItems, ofItems, if_neg hRoom, if_neg hRoom, structuralKind_eq hMatches]
      cases hKind : structuralKind second with
      | array => exact ih _ (sub_callsInPlace_lt hRoom) _ (items_rearranged hMatches)
      | object =>
        exact .inl ⟨_, _, rfl, rfl, ofProperties_alike _ (named_aligned hMatches (by decide))
          (named_aligned hMatches (by decide))⟩
      | combiner =>
        obtain ⟨c, hCombiner⟩ := exists_combiner_of_kind hKind
        simp only [combiner?_eq hMatches, hCombiner,
          hMatches.get_eq (show "type" ∈ plainKeywords by decide)]
        exact .inl ⟨_, _, rfl, rfl, ofBranches_alike _ c (branches_rearranged hMatches c) _⟩
      | _ => exact .inl ⟨_, _, rfl, rfl, .refl _⟩
    · rw [ofItems_of_members?_eq_none room lead (.arr xs) rfl,
        ofItems_of_members?_eq_none room lead (.arr ys) rfl]
      exact .inl ⟨_, _, rfl, rfl, ofTuple_alike lead hItems⟩
    · rw [ofItems_of_members?_eq_none _ _ _ hMembers]
      exact .inl ⟨_, _, rfl, rfl, .refl _⟩

theorem values_rearranged {expansion other : Expansion} (h : expansion.Alike other) :
    List.Forall₂ (Rearranged .schema) expansion.values other.values := by
  rw [values, values, List.forall₂_map_left_iff, List.forall₂_map_right_iff]
  exact h.descents.imp fun _ _ hDescent => hDescent.value

end Expansion

/-! ### Counting -/

open Expansion

theorem Json.Rearranged.depth_le {place : Place} (h : Rearranged place v w)
    (hNames : w.NoDuplicates) : w.depth ≤ v.depth := by
  induction h with
  | same v => exact Nat.le_refl _
  | @items place xs ys _ hLength _ ih =>
    rw [depth, depth, Nat.add_le_add_iff_right, depthOfItems_le_iff]
    intro w hMem
    obtain ⟨i, v, hLeft, hRight⟩ := exists_getElem? hLength hMem
    exact Nat.le_trans (ih i v w hLeft hRight (hNames.of_mem_items hMem))
      (depthOfItems_le_iff.mp (Nat.le_refl _) v (List.mem_of_getElem? hLeft))
  | @named xs ys hSame _ ih =>
    rw [depth, depth, Nat.add_le_add_iff_right, depthOfMembers_le_iff]
    intro member hMem
    obtain ⟨i, v, hLeft, hRight⟩ :=
      exists_getElem? (Members.length_values_eq hSame) (List.mem_map_of_mem hMem)
    obtain ⟨other, hOther, rfl⟩ := List.mem_map.mp (List.mem_of_getElem? hLeft)
    exact Nat.le_trans
      (ih i _ _ hLeft hRight (hNames.of_mem_values (List.mem_map_of_mem hMem)))
      (depthOfMembers_le_iff.mp (Nat.le_refl _) other hOther)
  | @fragment first second hKeywords _ ih =>
    rw [depth, depth, Nat.add_le_add_iff_right, depthOfMembers_le_iff]
    rintro ⟨keyword, w⟩ hMem
    obtain ⟨v, hLeft, hRight⟩ := Members.exists_get?_of_mem hKeywords hNames hMem
    exact Nat.le_trans (ih keyword v w hLeft hRight (hNames.get? hRight))
      (depthOfMembers_le_iff.mp (Nat.le_refl _) (keyword, v) (Members.mem_of_get? hLeft))

/-- The same is found behind as many arrays, up to the order of keywords. -/
structure Held.Alike (found other : Held) : Prop where
  values : List.Forall₂ (Rearranged .schema) found.values other.values
  arrays : found.arrays = other.arrays

theorem Fragment.held_agree (room : Nat) (h : first.Matches second) :
    Agree Held.Alike (held room first) (held room second) := by
  have hKind := structuralKind_eq h
  cases hSecond : structuralKind second with
  | combiner =>
    obtain ⟨c, hCombiner⟩ := exists_combiner_of_kind hSecond
    rw [held_of_combiner ((combiner?_eq h).trans hCombiner), held_of_combiner hCombiner,
      h.get_eq (show "type" ∈ plainKeywords by decide)]
    refine .inl ⟨_, _, rfl, rfl, ?_, rfl⟩
    rw [List.forall₂_map_left_iff, List.forall₂_map_right_iff]
    exact (branches_rearranged h c).imp fun _ _ hBranch => hBranch.inheriting _
  | array =>
    rw [held_of_array (hKind.trans hSecond), held_of_array hSecond]
    obtain ⟨expansion, other, hLeft, hRight, hAlike⟩ | ⟨failure, hLeft, hRight⟩ :=
      ofItems_agree room [] (items_rearranged h)
    · rw [hLeft, hRight]
      exact .inl ⟨_, _, rfl, rfl, values_rearranged hAlike, hAlike.arrays⟩
    · rw [hLeft, hRight]
      exact .inr ⟨failure, rfl, rfl⟩
  | object =>
    rw [held_of_object (hKind.trans hSecond), held_of_object hSecond, ← values_ofProperties [],
      ← values_ofProperties []]
    exact .inl ⟨_, _, rfl, rfl, values_rearranged (ofProperties_alike []
      (named_aligned h (by decide)) (named_aligned h (by decide))), rfl⟩
  | reference | scalar =>
    have hFirst := hKind.trans hSecond
    rw [held_of_scalar (by rw [hFirst]; decide) (by rw [hFirst]; decide) (by rw [hFirst]; decide),
      held_of_scalar (by rw [hSecond]; decide) (by rw [hSecond]; decide) (by rw [hSecond]; decide)]
    exact .inl ⟨⟨[], 0⟩, ⟨[], 0⟩, rfl, rfl, .nil, rfl⟩

namespace Estimate

theorem foldlM_congr {α β : Type} {R : α → α → Prop} {f : β → α → Except Failure β}
    {xs ys : List α} (h : List.Forall₂ R xs ys) (hStep : ∀ b x y, R x y → f b x = f b y)
    (start : β) : xs.foldlM f start = ys.foldlM f start := by
  induction h generalizing start with
  | nil => rfl
  | @cons x y _ _ hFirst _ ih =>
    rw [List.foldlM_cons, List.foldlM_cons, hStep start x y hFirst]
    congr 1
    funext b
    exact ih b

theorem countFrom_eq (limit : Option Int) (room total : Nat) (h : Rearranged .schema v w) :
    countFrom limit room total v = countFrom limit room total w := by
  induction room using Nat.strongRecOn generalizing total v w with
  | ind room ih =>
    obtain ⟨first, second, rfl, rfl, hMatches⟩ | ⟨xs, ys, rfl, rfl, -⟩ | ⟨rfl, -⟩ := h.cases
    · rw [countFrom, countFrom, combiner?_eq hMatches, isReference_eq hMatches]
      by_cases hRoom : room < callsPerCount
      · rw [if_pos hRoom, if_pos hRoom]
      rw [if_neg hRoom, if_neg hRoom]
      obtain ⟨found, other, hLeft, hRight, hAlike⟩ | ⟨failure, hLeft, hRight⟩ :=
        held_agree (room - callsPerCount) hMatches
      · have hBelow : found.roomBelow (room - callsPerCount) =
            other.roomBelow (room - callsPerCount) := by
          rw [Held.roomBelow, Held.roomBelow, hAlike.arrays]
        have hFold := foldlM_congr hAlike.values
          (fun total _ _ hValue => ih _ (other.roomBelow_lt hRoom) total hValue) (total + 1)
        simp only [hLeft, hRight, bind, Except.bind, hBelow, hFold]
      · rw [hLeft, hRight]
    · rw [countFrom_of_members?_eq_none _ _ _ rfl, countFrom_of_members?_eq_none _ _ _ rfl]
    · rfl

/-- Documents that are rearranged into each other have the same number of entries, whether the
counting is limited or not. -/
theorem entryCount_eq (h : Rearranged .schema v w) (limit : Option Int) :
    entryCount v limit = entryCount w limit := by
  rw [entryCount, countFrom_eq limit callLimit 0 h, entryCount]

/-! ### Searching -/

theorem searchUnder_of_named {keyword : String} (hData : keyword ∉ dataKeywords)
    (hNamed : keyword ∈ Estimate.namedSchemaKeywords) (room : Nat) (named : Members) :
    searchUnder room (keyword, .obj named) = named.anyM fun entry => findAllOf room entry.2 := by
  simp [searchUnder, hData, hNamed]

theorem searchUnder_of_other {keyword : String} (hData : keyword ∉ dataKeywords)
    (hOther : keyword ∉ Estimate.namedSchemaKeywords ∨ v.members? = none) (room : Nat) :
    searchUnder room (keyword, v) = findAllOf room v := by
  cases v with
  | obj named =>
    obtain hOther | hNone := hOther
    · simp [searchUnder, hData, hOther]
    · cases hNone
  | _ => simp [searchUnder, hData]

/-- Where nothing is found under a keyword there is nothing to be found in a rearranged value. -/
theorem searchUnder_eq_false {room : Nat} {keyword : String}
    (hValues : ∀ {v w : Json}, Rearranged .schema v w → w.NoDuplicates →
      findAllOf room v = .ok false → findAllOf room w = .ok false)
    (h : Rearranged (placeUnder keyword) v w) (hNames : w.NoDuplicates)
    (hFound : searchUnder room (keyword, v) = .ok false) :
    searchUnder room (keyword, w) = .ok false := by
  by_cases hPlain : keyword ∈ plainKeywords
  · rw [placeUnder_plain keyword hPlain] at h
    rwa [← h.eq_of_plain]
  have hData : keyword ∉ dataKeywords := fun hMem => hPlain (List.mem_append_left _ hMem)
  by_cases hNamed : keyword ∈ Estimate.namedSchemaKeywords
  · rw [placeUnder_named keyword hNamed] at h
    obtain ⟨hNone, hNone'⟩ | ⟨named, others, hLeft, hRight, hAligned⟩ := rel_cases h.named?
    · rw [searchUnder_of_other hData (.inr hNone)] at hFound
      rw [searchUnder_of_other hData (.inr hNone')]
      exact hValues (h.to_schema (by decide) hNone) hNames hFound
    · obtain rfl := members?_eq_some_iff.mp hLeft
      obtain rfl := members?_eq_some_iff.mp hRight
      rw [searchUnder_of_named hData hNamed, anyM_eq_ok_false_iff] at hFound ⊢
      intro entry hMem
      obtain ⟨other, hOther, -, hEntry⟩ := exists_of_mem_right hAligned hMem
      exact hValues hEntry (hNames.of_mem_values (List.mem_map_of_mem hMem)) (hFound other hOther)
  · have hSchema : placeUnder keyword = .schema := by simp [placeUnder, hPlain, hNamed]
    rw [hSchema] at h
    rw [searchUnder_of_other hData (.inl hNamed)] at hFound ⊢
    exact hValues h hNames hFound

theorem findAllOf_eq_false {room : Nat} (h : Rearranged .schema v w) (hNames : w.NoDuplicates)
    (hFound : findAllOf room v = .ok false) : findAllOf room w = .ok false := by
  induction room generalizing v w with
  | zero =>
    rw [findAllOf] at hFound
    cases hFound
  | succ room ih =>
    obtain ⟨first, second, rfl, rfl, hMatches⟩ | ⟨xs, ys, rfl, rfl, hItems⟩ | ⟨rfl, -⟩ := h.cases
    · rw [findAllOf_obj, isSome_eq_of_rel ((hMatches.get "allOf").items? (by decide))] at hFound
      rw [findAllOf_obj]
      split at hFound
      · cases hFound
      · rename_i hAllOf
        rw [if_neg hAllOf, anyM_eq_ok_false_iff]
        rw [anyM_eq_ok_false_iff] at hFound
        rintro ⟨keyword, w⟩ hMem
        obtain ⟨v, hLeft, hRight⟩ := Members.exists_get?_of_mem hMatches.has_eq hNames hMem
        have hRel := hMatches keyword
        rw [hLeft, hRight] at hRel
        obtain ⟨hRel⟩ := hRel
        exact searchUnder_eq_false ih hRel (hNames.get? hRight)
          (hFound _ (Members.mem_of_get? hLeft))
    · rw [findAllOf, anyM_eq_ok_false_iff] at hFound ⊢
      intro w hMem
      obtain ⟨v, hLeft, hItem⟩ := exists_of_mem_right hItems hMem
      exact ih hItem (hNames.of_mem_items hMem) (hFound v hLeft)
    · exact hFound

/-- The search can fail in one way only. -/
theorem findAllOf_cases (room : Nat) (v : Json) :
    (∃ found, findAllOf room v = .ok found) ∨ findAllOf room v = .error .tooDeep := by
  induction room generalizing v with
  | zero => exact .inr (by rw [findAllOf])
  | succ room ih =>
    cases v with
    | obj fragment =>
      rw [findAllOf_obj]
      split
      · exact .inl ⟨true, rfl⟩
      · apply anyM_cases
        rintro ⟨keyword, v⟩ -
        unfold searchUnder
        split
        · exact .inl ⟨false, rfl⟩
        · split
          · split
            · exact anyM_cases fun entry _ => ih entry.2
            · exact ih _
          · exact ih _
    | arr items =>
      rw [findAllOf]
      exact anyM_cases fun item _ => ih item
    | _ => exact .inl ⟨false, rfl⟩

/-- One search fails for want of room while the other one has found something. -/
def OneGivesUp (x y : Except Failure Bool) : Prop :=
  x = .error .tooDeepToDraw ∧ y = .ok true ∨ x = .ok true ∧ y = .error .tooDeepToDraw

/-- Searching documents that are rearranged into each other comes to the same, except that one
search may give up where the other one has found something before. -/
theorem mentionsAllOf_rearranged (h : Rearranged .schema v w) (hFirst : v.NoDuplicates)
    (hSecond : w.NoDuplicates) :
    mentionsAllOf v = mentionsAllOf w ∨ OneGivesUp (mentionsAllOf v) (mentionsAllOf w) := by
  have hForth : findAllOf nestingLimit v = .ok false → findAllOf nestingLimit w = .ok false :=
    findAllOf_eq_false h hSecond
  have hBack : findAllOf nestingLimit w = .ok false → findAllOf nestingLimit v = .ok false :=
    findAllOf_eq_false h.symm hFirst
  unfold mentionsAllOf OneGivesUp
  obtain ⟨_ | _, hLeft⟩ | hLeft := findAllOf_cases nestingLimit v
  · rw [hLeft, hForth hLeft]
    exact .inl rfl
  · obtain ⟨_ | _, hRight⟩ | hRight := findAllOf_cases nestingLimit w
    · rw [hBack hRight, hRight]
      exact .inl rfl
    · rw [hLeft, hRight]
      exact .inl rfl
    · rw [hLeft, hRight]
      exact .inr (.inr ⟨rfl, rfl⟩)
  · obtain ⟨_ | _, hRight⟩ | hRight := findAllOf_cases nestingLimit w
    · rw [hBack hRight, hRight]
      exact .inl rfl
    · rw [hLeft, hRight]
      exact .inr (.inl ⟨rfl, rfl⟩)
    · rw [hLeft, hRight]
      exact .inl rfl

/-- A negated negation of a negation and so on. -/
def negations : Nat → Json
  | 0 => .obj []
  | count + 1 => .obj [("not", negations count)]

theorem noDuplicates_negations (count : Nat) : (negations count).NoDuplicates := by
  induction count with
  | zero => simp [negations, NoDuplicates, NoDuplicatesInMembers]
  | succ count ih => simp [negations, NoDuplicates, NoDuplicatesInMembers, ih]

theorem findAllOf_negations {room count : Nat} (h : room ≤ count) :
    findAllOf room (negations count) = .error .tooDeep := by
  induction count generalizing room with
  | zero =>
    obtain rfl := Nat.le_zero.mp h
    rw [findAllOf]
  | succ count ih =>
    cases room with
    | zero => rw [findAllOf]
    | succ room =>
      have hUnder : searchUnder room ("not", negations count) = .error .tooDeep := by
        rw [searchUnder_of_other (by decide) (.inl (by decide)), ih (Nat.le_of_succ_le_succ h)]
      have hAllOf : Members.get [("not", negations count)] "allOf" = .null := rfl
      rw [negations, findAllOf_obj, hAllOf, if_neg (by decide), List.anyM_cons, hUnder]
      rfl

/-- An empty `allOf` in the first branch, and next to the branches the negations. -/
def branchAndNegations : Members :=
  [("anyOf", .arr [.obj [("allOf", .arr [])]]), ("not", negations 4000)]

/-- The search that comes to the negations first gives up. -/
theorem oneGivesUp_branchAndNegations :
    Rearranged .schema (.obj branchAndNegations) (.obj branchAndNegations.reverse) ∧
    (obj branchAndNegations).NoDuplicates ∧ (obj branchAndNegations.reverse).NoDuplicates ∧
    mentionsAllOf (.obj branchAndNegations) = .ok true ∧
    mentionsAllOf (.obj branchAndNegations.reverse) = .error .tooDeepToDraw := by
  have hLimit : nestingLimit = 999 + 1 := rfl
  refine ⟨.of_perm ?_ (List.reverse_perm _).symm, ?_, ?_, ?_, ?_⟩
  · simp [branchAndNegations, Members.names]
  · simp [branchAndNegations, NoDuplicates, NoDuplicatesInMembers, NoDuplicatesInItems,
      noDuplicates_negations]
  · simp [branchAndNegations, NoDuplicates, NoDuplicatesInMembers, NoDuplicatesInItems,
      noDuplicates_negations]
  · have hBranch : searchUnder 999 ("anyOf", .arr [.obj [("allOf", .arr [])]]) = .ok true := rfl
    rw [mentionsAllOf, hLimit, findAllOf_obj, branchAndNegations, if_neg (by decide),
      List.anyM_cons, hBranch]
    rfl
  · have hNegations : searchUnder 999 ("not", negations 4000) = .error .tooDeep := by
      rw [searchUnder_of_other (by decide) (.inl (by decide)), findAllOf_negations (by decide)]
    rw [mentionsAllOf, hLimit, findAllOf_obj, branchAndNegations, List.reverse_cons,
      if_neg (by decide), List.reverse_singleton, List.singleton_append, List.anyM_cons, hNegations]
    rfl

/-- In a document that nests within the limit the order of keywords does not matter to the
search. -/
theorem mentionsAllOf_eq_of_depth (h : Rearranged .schema v w) (hFirst : v.NoDuplicates)
    (hSecond : w.NoDuplicates) (hDepth : v.depth < nestingLimit) :
    mentionsAllOf v = mentionsAllOf w := by
  have hOther : w.depth < nestingLimit := Nat.lt_of_le_of_lt (h.depth_le hSecond) hDepth
  obtain ⟨-, found, hLeft⟩ := exists_of_depth hDepth
  obtain ⟨-, other, hRight⟩ := exists_of_depth hOther
  obtain hSame | ⟨hError, -⟩ | ⟨-, hError⟩ := mentionsAllOf_rearranged h hFirst hSecond
  · exact hSame
  · rw [hLeft] at hError
    cases hError
  · rw [hRight] at hError
    cases hError

end Estimate

end SchemaOutline
