import SchemaOutline.Summary

/-!
# Outlines

An outline is an arena of entries in display order. Entries name each other by index, and records
with the summary and the location of an entry are kept beside the arena under its identifier. An
index may be negative and then counts from the end. Entries and records are only ever added; an
operation that fails keeps what it had done before (`Outline.append`).
-/

set_option autoImplicit false

namespace SchemaOutline

/-- One entry of an outline. `children` is `none` where nothing can be shown below the entry. -/
structure Entry where
  id : String
  name : String
  level : Int
  parent : Option Int
  children : Option (List Int)
deriving Repr, DecidableEq, Inhabited

namespace Entry

def isExpandable (entry : Entry) : Bool := entry.children.isSome

def childList (entry : Entry) : List Int := entry.children.getD []

def expanded (entry : Entry) : Entry := { entry with children := some entry.childList }

def withChild (entry : Entry) (child : Nat) : Entry :=
  { entry with children := some (entry.childList ++ [(child : Int)]) }

end Entry

structure Record where
  summary : Summary
  location : Location
deriving Repr, DecidableEq, Inhabited

abbrev Records := List (String × Record)

structure Outline where
  entries : Array Entry
  roots : List Nat
  records : Records
deriving Repr, DecidableEq, Inhabited

namespace Outline

def empty : Outline := ⟨#[], [], []⟩

def size (outline : Outline) : Nat := outline.entries.size

/-- The position in the arena that an index means. -/
def position? (outline : Outline) (index : Int) : Option Nat :=
  let position := if index < 0 then index + outline.size else index
  if 0 ≤ position ∧ position < outline.size then some position.toNat else none

def entry (outline : Outline) (index : Int) : Except Failure Entry :=
  match (outline.position? index).bind fun position => outline.entries[position]? with
  | some entry => .ok entry
  | none => .error .noSuchIndex

def modify (outline : Outline) (index : Int) (f : Entry → Entry) : Except Failure Outline :=
  match outline.position? index with
  | some position => .ok { outline with entries := outline.entries.modify position f }
  | none => .error .noSuchIndex

def expand (outline : Outline) (index : Int) : Except Failure Outline :=
  outline.modify index Entry.expanded

def rename (outline : Outline) (index : Int) (name : String) : Except Failure Outline :=
  outline.modify index fun entry => { entry with name := name }

/-- Adds an entry and enters it with its parent or among the roots. An entry whose parent does not
exist stays, entered nowhere. -/
def append (outline : Outline) (id : String) (parent : Option Int) (level : Int) :
    Except Failure Nat × Outline :=
  let index := outline.size
  let entry : Entry := { id, level, parent, name := "", children := none }
  let longer := { outline with entries := outline.entries.push entry }
  match parent with
  | none => (.ok index, { longer with roots := longer.roots ++ [index] })
  | some above =>
    match longer.modify above (·.withChild index) with
    | .ok linked => (.ok index, linked)
    | .error failure => (.error failure, longer)

def childrenOf (outline : Outline) (index : Int) : Except Failure (List Entry) := do
  let entry ← outline.entry index
  entry.childList.mapM outline.entry

def parentOf (outline : Outline) (index : Int) : Except Failure (Option Entry) := do
  let entry ← outline.entry index
  match entry.parent with
  | none => .ok none
  | some above => return some (← outline.entry above)

def record? (outline : Outline) (id : String) : Option Record := outline.records.lookup id

def record (outline : Outline) (id : String) : Except Failure Record :=
  match outline.record? id with
  | some record => .ok record
  | none => .error (.noRecord id)

def addRecord (outline : Outline) (id : String) (record : Record) : Except Failure Outline :=
  match outline.record? id with
  | some _ => .error (.recordTaken id)
  | none => .ok { outline with records := outline.records ++ [(id, record)] }

/-- An outline with the given entries and records, its roots being the entries without a parent. -/
def ofParts (entries : Array Entry) (records : Records) : Outline :=
  let roots := entries.toList.zipIdx.filterMap fun (entry, index) =>
    if entry.parent.isNone then some index else none
  { entries, roots, records }

end Outline

end SchemaOutline
