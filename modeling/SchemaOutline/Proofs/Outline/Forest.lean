import SchemaOutline.Proofs.Outline.Arena

/-!
# Forests and where they stand

A forest holds the records of entries as trees. Planting one in an outline stands its entries there
one by one and depth first (`Outline.plant`); `Forest.rows` lists what then is new in the arena, in
display order and with all links, and `entries_plant`, `roots_plant` and `records_plant` say that
planting adds exactly these rows.
-/

set_option autoImplicit false

namespace SchemaOutline

def Entry.withChildren (entry : Entry) (children : List Nat) : Entry :=
  children.foldl Entry.withChild entry

@[simp] theorem Entry.withChildren_nil (entry : Entry) : entry.withChildren [] = entry := rfl

/-- Trees side by side: the record of the first one's own entry and whether that entry has a list of
children, the trees below it, and the trees beside it. -/
inductive Forest where
  | bare
  | tree (record : Record) (expandable : Bool) (below beside : Forest)

namespace Forest

def size : Forest → Nat
  | bare => 0
  | tree _ _ below beside => below.size + 1 + beside.size

def records : Forest → List Record
  | bare => []
  | tree record _ below beside => record :: below.records ++ beside.records

def ids (forest : Forest) : List String := forest.records.map (·.summary.id)

theorem ids_tree (record : Record) (expandable : Bool) (below beside : Forest) :
    (tree record expandable below beside).ids =
      record.summary.id :: (below.ids ++ beside.ids) := by
  simp [ids, records]

def tops : Forest → Nat → List Nat
  | bare, _ => []
  | tree _ _ below beside, n => n :: beside.tops (n + 1 + below.size)

theorem bounds_of_mem_tops {forest : Forest} {n p : Nat} (h : p ∈ forest.tops n) :
    n ≤ p ∧ p < n + forest.size := by
  induction forest generalizing n with
  | bare => cases h
  | tree record expandable below beside _ ihBeside =>
    rw [size]
    rcases List.mem_cons.mp h with rfl | hBeside
    · omega
    · have hBounds := ihBeside hBeside
      omega

theorem pairwise_tops (forest : Forest) (n : Nat) : (forest.tops n).Pairwise (· < ·) := by
  induction forest generalizing n with
  | bare => exact .nil
  | tree record expandable below beside _ ihBeside =>
    refine List.pairwise_cons.mpr ⟨fun p hMem => ?_, ihBeside _⟩
    have hBounds := bounds_of_mem_tops hMem
    omega

/-- The entries and their records in display order when the first one stands at a given position. -/
def rows : Forest → Nat → Option Nat → Int → List (Entry × Record)
  | bare, _, _, _ => []
  | tree record expandable below beside, n, parent, level =>
    let entry : Entry :=
      { id := record.summary.id, name := "", level, parent := parent.map Nat.cast
        children := if expandable then some [] else none }
    (entry.withChildren (below.tops (n + 1)), record)
      :: below.rows (n + 1) (some n) (level + 1)
      ++ beside.rows (n + 1 + below.size) parent level

theorem length_rows (forest : Forest) (n : Nat) (parent : Option Nat) (level : Int) :
    (forest.rows n parent level).length = forest.size := by
  induction forest generalizing n parent level with
  | bare => rfl
  | tree record expandable below beside ihBelow ihBeside =>
    simp only [rows, size, List.length_append, List.length_cons, ihBelow, ihBeside]

theorem map_snd_rows (forest : Forest) (n : Nat) (parent : Option Nat) (level : Int) :
    (forest.rows n parent level).map Prod.snd = forest.records := by
  induction forest generalizing n parent level with
  | bare => rfl
  | tree record expandable below beside ihBelow ihBeside =>
    simp only [rows, records, List.map_append, List.map_cons, ihBelow, ihBeside]

end Forest

namespace Outline

def plant : Outline → Option Nat → Int → Forest → Outline
  | outline, _, _, .bare => outline
  | outline, parent, level, .tree record expandable below beside =>
    ((outline.stand parent level record expandable).plant (some outline.size) (level + 1)
      below).plant parent level beside

def adoptingAll (entries : Array Entry) (parent : Option Nat) (children : List Nat) : Array Entry :=
  children.foldl (fun entries child => adopting entries parent child) entries

@[simp] theorem size_adoptingAll (entries : Array Entry) (parent : Option Nat)
    (children : List Nat) : (adoptingAll entries parent children).size = entries.size := by
  unfold adoptingAll
  induction children generalizing entries with
  | nil => rfl
  | cons child children ih => rw [List.foldl_cons, ih, size_adopting]

theorem getElem?_adoptingAll (entries : Array Entry) (parent : Option Nat) (children : List Nat)
    (p : Nat) : (adoptingAll entries parent children)[p]? = (entries[p]?).map fun entry =>
      if parent = some p then entry.withChildren children else entry := by
  unfold adoptingAll
  induction children generalizing entries with
  | nil => simp
  | cons child rest ih =>
    rw [List.foldl_cons, ih, getElem?_adopting, Option.map_map]
    congr 1
    funext entry
    by_cases hHere : parent = some p
    · simp [hHere, Entry.withChildren]
    · simp [hHere]

theorem adoptingAll_none (entries : Array Entry) (children : List Nat) :
    adoptingAll entries none children = entries := by
  unfold adoptingAll
  induction children with
  | nil => rfl
  | cons child children ih => exact ih

theorem adoptingAll_append {entries : Array Entry} {parent : Option Nat}
    (hParent : ∀ p ∈ parent, p < entries.size) (more : Array Entry) (children : List Nat) :
    adoptingAll (entries ++ more) parent children =
      adoptingAll entries parent children ++ more := by
  unfold adoptingAll
  induction children generalizing entries with
  | nil => rfl
  | cons child children ih =>
    have hChild :
        adopting (entries ++ more) parent child = adopting entries parent child ++ more := by
      cases parent with
      | none => rfl
      | some p => exact modify_append_of_lt (hParent p rfl) more _
    rw [List.foldl_cons, List.foldl_cons, hChild]
    exact ih (by simpa using hParent)

theorem adoptingAll_push (entries : Array Entry) (entry : Entry) (children : List Nat) :
    adoptingAll (entries.push entry) (some entries.size) children =
      entries.push (entry.withChildren children) := by
  unfold adoptingAll Entry.withChildren
  induction children generalizing entry with
  | nil => rfl
  | cons child children ih =>
    rw [List.foldl_cons, List.foldl_cons, ← ih]
    congr 1
    exact modify_push_of_eq rfl entry _

@[simp] theorem size_plant (outline : Outline) (parent : Option Nat) (level : Int)
    (forest : Forest) : (outline.plant parent level forest).size = outline.size + forest.size := by
  induction forest generalizing outline parent level with
  | bare => rfl
  | tree record expandable below beside ihBelow ihBeside =>
    rw [plant, ihBeside, ihBelow, size_stand, Forest.size]
    omega

theorem roots_plant (outline : Outline) (parent : Option Nat) (level : Int) (forest : Forest) :
    (outline.plant parent level forest).roots =
      outline.roots ++ if parent.isNone then forest.tops outline.size else [] := by
  induction forest generalizing outline parent level with
  | bare => simp [plant, Forest.tops]
  | tree record expandable below beside ihBelow ihBeside =>
    rw [plant, ihBeside, ihBelow, size_plant, size_stand, Forest.tops]
    cases parent <;> simp [stand]

theorem records_plant (outline : Outline) (parent : Option Nat) (level : Int) (forest : Forest) :
    (outline.plant parent level forest).records =
      outline.records ++ forest.records.map fun record => (record.summary.id, record) := by
  induction forest generalizing outline parent level with
  | bare => simp [plant, Forest.records]
  | tree record expandable below beside ihBelow ihBeside =>
    rw [plant, ihBeside, ihBelow, Forest.records]
    simp [stand]

theorem HasParent.stand {outline : Outline} {parent : Option Nat} (h : outline.HasParent parent)
    (above : Option Nat) (level : Int) (record : Record) (expandable : Bool) :
    (outline.stand above level record expandable).HasParent parent := by
  intro p hp
  rw [size_stand]
  exact Nat.lt_succ_of_lt (h p hp)

theorem HasParent.plant {outline : Outline} {parent : Option Nat} (h : outline.HasParent parent)
    (above : Option Nat) (level : Int) (forest : Forest) :
    (outline.plant above level forest).HasParent parent := by
  intro p hp
  rw [size_plant]
  exact Nat.lt_add_right _ (h p hp)

theorem hasParent_stand (outline : Outline) (parent : Option Nat) (level : Int) (record : Record)
    (expandable : Bool) :
    (outline.stand parent level record expandable).HasParent (some outline.size) := by
  rintro _ ⟨⟩
  rw [size_stand]
  exact Nat.lt_succ_self _

theorem entries_plant {outline : Outline} {parent : Option Nat} (hParent : outline.HasParent parent)
    (level : Int) (forest : Forest) :
    (outline.plant parent level forest).entries =
      adoptingAll outline.entries parent (forest.tops outline.size) ++
        ((forest.rows outline.size parent level).map Prod.fst).toArray := by
  induction forest generalizing outline parent level with
  | bare => simp [plant, Forest.tops, Forest.rows, adoptingAll]
  | tree record expandable below beside ihBelow ihBeside =>
    let adopted := adopting outline.entries parent outline.size
    let own : Entry :=
      { id := record.summary.id, name := "", level, parent := parent.map Nat.cast
        children := if expandable then some [] else none }
    have hAdopted : adopted.size = outline.size := size_adopting _ _ _
    have hStand := hParent.stand parent level record expandable
    -- The new entry takes the trees below it, and only then the parent takes those beside it.
    have hBelow : adoptingAll (outline.stand parent level record expandable).entries
        (some outline.size) (below.tops (outline.size + 1)) =
          adopted.push (own.withChildren (below.tops (outline.size + 1))) := by
      rw [← hAdopted]
      exact adoptingAll_push adopted own _
    have hBeside : ∀ (more : Array Entry) (children : List Nat),
        adoptingAll (adopted ++ more) parent children =
          adoptingAll outline.entries parent (outline.size :: children) ++ more := by
      intro more children
      rw [adoptingAll_append (by rwa [hAdopted])]
      rfl
    rw [plant, ihBeside (hStand.plant _ _ below), ihBelow (hasParent_stand _ _ _ _ _), size_plant,
      size_stand, hBelow, Array.push_eq_append, Array.append_assoc, hBeside, Forest.tops,
      Forest.rows]
    simp [own]

def ofForest (forest : Forest) : Outline := empty.plant none 0 forest

@[simp] theorem size_ofForest (forest : Forest) : (ofForest forest).size = forest.size := by
  rw [ofForest, size_plant]
  exact Nat.zero_add _

theorem entries_ofForest (forest : Forest) :
    (ofForest forest).entries = ((forest.rows 0 none 0).map Prod.fst).toArray := by
  rw [ofForest, entries_plant (hasParent_none empty), adoptingAll_none]
  exact Array.empty_append

theorem roots_ofForest (forest : Forest) : (ofForest forest).roots = forest.tops 0 := by
  rw [ofForest, roots_plant]
  rfl

theorem records_ofForest (forest : Forest) :
    (ofForest forest).records = forest.records.map fun record => (record.summary.id, record) := by
  rw [ofForest, records_plant]
  rfl

theorem record?_eq_none_iff {outline : Outline} {id : String} :
    outline.record? id = none ↔ id ∉ outline.records.map Prod.fst := by
  unfold record?
  rw [List.lookup_eq_none_iff]
  simp only [List.mem_map, not_exists, not_and, bne_iff_ne, ne_eq]
  constructor
  · intro h member hMember hId
    exact h member hMember hId.symm
  · intro h member hMember hId
    exact h member hMember hId.symm

/-- No identifier of a forest is taken in an outline, and none occurs twice in the forest. -/
def IsFreeFor (outline : Outline) (forest : Forest) : Prop :=
  forest.ids.Nodup ∧ ∀ id ∈ forest.ids, outline.record? id = none

theorem isFreeFor_bare (outline : Outline) : outline.IsFreeFor .bare :=
  ⟨List.nodup_nil, nofun⟩

theorem isFreeFor_tree_iff {outline : Outline} {record : Record} {expandable : Bool}
    {below beside : Forest} (parent : Option Nat) (level : Int) :
    outline.IsFreeFor (.tree record expandable below beside) ↔
      outline.record? record.summary.id = none ∧
      (outline.stand parent level record expandable).IsFreeFor below ∧
      ((outline.stand parent level record expandable).plant (some outline.size) (level + 1)
        below).IsFreeFor beside := by
  have hKeys : (below.records.map fun record => (record.summary.id, record)).map Prod.fst =
      below.ids := by
    simp [Forest.ids]
  simp only [IsFreeFor, record?_eq_none_iff, records_plant, Forest.ids_tree, stand,
    List.map_append, hKeys, List.map_cons, List.map_nil, List.nodup_cons, List.nodup_append,
    List.mem_append, List.mem_cons, List.not_mem_nil]
  grind

end Outline

end SchemaOutline
