import SchemaOutline.Outline.Growth

/-!
# The arena of an outline

What the operations of an outline do at a position that is a natural number. Standing an entry with
its record in an outline is one operation here (`Outline.stand`), and it is what appending the
entry, adding its record and giving it a list of children come to.
-/

set_option autoImplicit false

namespace SchemaOutline

section

variable {α : Type} {xs : Array α} {i : Nat}

theorem modify_append_of_lt (h : i < xs.size) (ys : Array α) (f : α → α) :
    (xs ++ ys).modify i f = xs.modify i f ++ ys := by
  apply Array.ext_getElem?
  intro j
  grind

theorem modify_push_of_lt (h : i < xs.size) (y : α) (f : α → α) :
    (xs.push y).modify i f = (xs.modify i f).push y := by
  apply Array.ext_getElem?
  intro j
  grind

theorem modify_push_of_eq (h : i = xs.size) (y : α) (f : α → α) :
    (xs.push y).modify i f = xs.push (f y) := by
  apply Array.ext_getElem?
  intro j
  grind

end

namespace Outline

variable {outline outline' : Outline} {p index : Nat} {entry : Entry}

theorem position?_natCast (outline : Outline) (p : Nat) :
    outline.position? p = if p < outline.size then some p else none := by
  have hNonneg : ¬ (p : Int) < 0 := by omega
  simp [position?, hNonneg]

theorem entry_natCast_eq_ok_iff :
    outline.entry p = .ok entry ↔ outline.entries[p]? = some entry := by
  unfold Outline.entry
  rw [position?_natCast]
  by_cases hp : p < outline.size
  · rw [if_pos hp, Option.bind_some, Array.getElem?_eq_getElem hp]
    simp
  · rw [if_neg hp, Option.bind_none, Array.getElem?_eq_none (Nat.le_of_not_lt hp)]
    simp

theorem modify_natCast (hp : p < outline.size) (f : Entry → Entry) :
    outline.modify p f = .ok { outline with entries := outline.entries.modify p f } := by
  unfold Outline.modify
  rw [position?_natCast, if_pos hp]

/-- The entries after a parent, if there is one, has got one more child. -/
def adopting (entries : Array Entry) (parent : Option Nat) (child : Nat) : Array Entry :=
  match parent with
  | some p => entries.modify p (·.withChild child)
  | none => entries

@[simp] theorem size_adopting (entries : Array Entry) (parent : Option Nat) (child : Nat) :
    (adopting entries parent child).size = entries.size := by
  cases parent <;> simp [adopting]

theorem getElem?_adopting (entries : Array Entry) (parent : Option Nat) (child p : Nat) :
    (adopting entries parent child)[p]? = (entries[p]?).map fun entry =>
      if parent = some p then entry.withChild child else entry := by
  cases parent with
  | none => simp [adopting]
  | some q =>
    rw [adopting, Array.getElem?_modify]
    by_cases hSame : q = p
    · simp [hSame]
    · simp [hSame]

/-- The outline with one more entry, which has a list of children or none, and its record. -/
def stand (outline : Outline) (parent : Option Nat) (level : Int) (record : Record)
    (expandable : Bool) : Outline where
  entries := (adopting outline.entries parent outline.size).push
    { id := record.summary.id, name := "", level, parent := parent.map Nat.cast
      children := if expandable then some [] else none }
  roots := outline.roots ++ if parent.isNone then [outline.size] else []
  records := outline.records ++ [(record.summary.id, record)]

def HasParent (outline : Outline) (parent : Option Nat) : Prop := ∀ p ∈ parent, p < outline.size

@[simp] theorem hasParent_none (outline : Outline) : outline.HasParent none := nofun

theorem HasParent.isSome {parent : Option Nat} (h : outline.HasParent parent) :
    parent.isSome → (parent.bind (outline.entries[·]?)).isSome := by
  cases parent with
  | none => nofun
  | some p =>
    intro _
    rw [Option.bind_some, Array.getElem?_eq_getElem (h p rfl)]
    rfl

@[simp] theorem size_stand (outline : Outline) (parent : Option Nat) (level : Int)
    (record : Record) (expandable : Bool) :
    (outline.stand parent level record expandable).size = outline.size + 1 := by
  simp [stand, size]

theorem append_addRecord_iff (outline' : Outline) (index : Nat) (level : Int) (record : Record)
    {parent : Option Nat} (hParent : outline.HasParent parent) :
    (∃ longer, outline.append record.summary.id (parent.map Nat.cast) level = (.ok index, longer) ∧
      longer.addRecord record.summary.id record = .ok outline') ↔
    outline.record? record.summary.id = none ∧ index = outline.size ∧
      outline' = outline.stand parent level record false := by
  have hAppend : outline.append record.summary.id (parent.map Nat.cast) level =
      (.ok outline.size,
        { outline.stand parent level record false with records := outline.records }) := by
    cases parent with
    | none => rfl
    | some p =>
      have hp : p < outline.size := hParent p rfl
      simp only [append, Option.map_some, stand]
      rw [modify_natCast (by simpa [size] using Nat.lt_succ_of_lt hp)]
      rw [modify_push_of_lt hp]
      simp [adopting]
  rw [hAppend]
  unfold addRecord
  constructor
  · rintro ⟨longer, hLonger, hRecord⟩
    cases hLonger
    split at hRecord
    · cases hRecord
    · rename_i hFree
      exact ⟨hFree, rfl, (Except.ok.inj hRecord).symm⟩
  · rintro ⟨hFree, rfl, rfl⟩
    refine ⟨_, rfl, ?_⟩
    have hFree' : ({ outline.stand parent level record false with
        records := outline.records } : Outline).record? record.summary.id = none := hFree
    rw [hFree']
    rfl

theorem expand_stand (outline : Outline) (parent : Option Nat) (level : Int) (record : Record) :
    (outline.stand parent level record false).expand outline.size =
      .ok (outline.stand parent level record true) := by
  unfold expand
  rw [modify_natCast (by simp)]
  congr 1
  simp only [stand, mk.injEq, and_true]
  rw [modify_push_of_eq (by simp [size])]
  simp [Entry.expanded, Entry.childList]

end Outline

end SchemaOutline
