import SchemaOutline.Binary64

/-!
# JSON values

Objects keep their members in the order in which they were written, because every outline follows
that order. Nothing in the type forbids two members of one name; documents that come out of the
reader never have them (`Json.NoDuplicates`). Integers are unbounded and distinct from doubles,
and `Json.agrees` is the looser comparison in which `1`, `1.0` and `true` are the same value.
-/

set_option autoImplicit false

namespace SchemaOutline

inductive Json where
  | null
  | bool (b : Bool)
  | int (n : Int)
  | float (x : Float)
  | str (s : String)
  | arr (items : List Json)
  | obj (members : List (String × Json))
deriving Inhabited, Repr

abbrev Members := List (String × Json)

namespace Members

def get? (members : Members) (name : String) : Option Json :=
  members.lookup name

def get (members : Members) (name : String) : Json :=
  (members.get? name).getD .null

def has (members : Members) (name : String) : Bool :=
  (members.get? name).isSome

/-- Replaces the value under a name where it stands, or appends a member. -/
def set : Members → String → Json → Members
  | [], name, value => [(name, value)]
  | (n, v) :: rest, name, value =>
    if n == name then (n, value) :: rest else (n, v) :: set rest name value

def erase (members : Members) (name : String) : Members :=
  members.filter fun member => member.1 != name

def names (members : Members) : List String :=
  members.map Prod.fst

def values (members : Members) : List Json :=
  members.map Prod.snd

/-- Reads a list of pairs in which a later value replaces an earlier one of the same name. -/
def ofPairs (pairs : List (String × Json)) : Members :=
  pairs.foldl (fun members pair => members.set pair.1 pair.2) []

end Members

namespace Json

mutual
/-- The number of containers on the longest way into a value. -/
def depth : Json → Nat
  | .arr items => depthOfItems items + 1
  | .obj members => depthOfMembers members + 1
  | _ => 0

def depthOfItems : List Json → Nat
  | [] => 0
  | v :: rest => max (depth v) (depthOfItems rest)

def depthOfMembers : List (String × Json) → Nat
  | [] => 0
  | (_, v) :: rest => max (depth v) (depthOfMembers rest)
end

mutual
def NoDuplicates : Json → Prop
  | .arr items => NoDuplicatesInItems items
  | .obj members => (members.map Prod.fst).Nodup ∧ NoDuplicatesInMembers members
  | _ => True

def NoDuplicatesInItems : List Json → Prop
  | [] => True
  | v :: rest => NoDuplicates v ∧ NoDuplicatesInItems rest

def NoDuplicatesInMembers : List (String × Json) → Prop
  | [] => True
  | (_, v) :: rest => NoDuplicates v ∧ NoDuplicatesInMembers rest
end

/-- Empty containers, the empty string, zeros, `false` and `null` count as absent. -/
def isTruthy : Json → Bool
  | .null => false
  | .bool b => b
  | .int n => n != 0
  | .float x => x != 0.0
  | .str s => !s.isEmpty
  | .arr items => !items.isEmpty
  | .obj members => !members.isEmpty

def members? : Json → Option Members
  | .obj members => some members
  | _ => none

def items? : Json → Option (List Json)
  | .arr items => some items
  | _ => none

def text? : Json → Option String
  | .str s => some s
  | _ => none

def number? : Json → Option (Int ⊕ Float)
  | .bool b => some (.inl b.toNat)
  | .int n => some (.inl n)
  | .float x => some (.inr x)
  | _ => none

def numbersAgree : Int ⊕ Float → Int ⊕ Float → Bool
  | .inl m, .inl n => m == n
  | .inl m, .inr x | .inr x, .inl m => wholeNumber? x == some m
  | .inr x, .inr y => x == y || (x.isNaN && y.isNaN)

mutual
/-- The two values count as equal: numbers by exact value, objects in any order of members. -/
def agrees : Json → Json → Bool
  | .null, .null => true
  | .str s, .str t => s == t
  | .arr xs, .arr ys => itemsAgree xs ys
  | .obj xs, .obj ys => xs.length == ys.length && membersAgree xs ys
  | v, w =>
    match v.number?, w.number? with
    | some m, some n => numbersAgree m n
    | _, _ => false

def itemsAgree : List Json → List Json → Bool
  | [], [] => true
  | x :: xs, y :: ys => agrees x y && itemsAgree xs ys
  | _, _ => false

def membersAgree : List (String × Json) → List (String × Json) → Bool
  | [], _ => true
  | (name, v) :: rest, ys =>
    (match ys.lookup name with
      | some w => agrees v w
      | none => false) && membersAgree rest ys
end

mutual
def decideEq : (v w : Json) → Decidable (v = w)
  | .null, .null => isTrue rfl
  | .bool a, .bool b => decidable_of_iff (a = b) (by simp)
  | .int a, .int b => decidable_of_iff (a = b) (by simp)
  | .float a, .float b => decidable_of_iff (a = b) (by simp)
  | .str a, .str b => decidable_of_iff (a = b) (by simp)
  | .arr xs, .arr ys =>
    match decideItemsEq xs ys with
    | isTrue h => isTrue (h ▸ rfl)
    | isFalse h => isFalse fun e => h (Json.arr.inj e)
  | .obj xs, .obj ys =>
    match decideMembersEq xs ys with
    | isTrue h => isTrue (h ▸ rfl)
    | isFalse h => isFalse fun e => h (Json.obj.inj e)
  | .null, .bool _ | .null, .int _ | .null, .float _ | .null, .str _ | .null, .arr _
  | .null, .obj _ => isFalse nofun
  | .bool _, .null | .bool _, .int _ | .bool _, .float _ | .bool _, .str _ | .bool _, .arr _
  | .bool _, .obj _ => isFalse nofun
  | .int _, .null | .int _, .bool _ | .int _, .float _ | .int _, .str _ | .int _, .arr _
  | .int _, .obj _ => isFalse nofun
  | .float _, .null | .float _, .bool _ | .float _, .int _ | .float _, .str _ | .float _, .arr _
  | .float _, .obj _ => isFalse nofun
  | .str _, .null | .str _, .bool _ | .str _, .int _ | .str _, .float _ | .str _, .arr _
  | .str _, .obj _ => isFalse nofun
  | .arr _, .null | .arr _, .bool _ | .arr _, .int _ | .arr _, .float _ | .arr _, .str _
  | .arr _, .obj _ => isFalse nofun
  | .obj _, .null | .obj _, .bool _ | .obj _, .int _ | .obj _, .float _ | .obj _, .str _
  | .obj _, .arr _ => isFalse nofun

def decideItemsEq : (xs ys : List Json) → Decidable (xs = ys)
  | [], [] => isTrue rfl
  | [], _ :: _ => isFalse nofun
  | _ :: _, [] => isFalse nofun
  | x :: xs, y :: ys =>
    match decideEq x y with
    | isFalse h => isFalse fun e => h (List.cons.inj e).1
    | isTrue h =>
      match decideItemsEq xs ys with
      | isFalse h' => isFalse fun e => h' (List.cons.inj e).2
      | isTrue h' => isTrue (h ▸ h' ▸ rfl)

def decideMembersEq : (xs ys : List (String × Json)) → Decidable (xs = ys)
  | [], [] => isTrue rfl
  | [], _ :: _ => isFalse nofun
  | _ :: _, [] => isFalse nofun
  | (name, x) :: xs, (other, y) :: ys =>
    if hn : name = other then
      match decideEq x y with
      | isFalse h => isFalse fun e => h (Prod.mk.inj (List.cons.inj e).1).2
      | isTrue h =>
        match decideMembersEq xs ys with
        | isFalse h' => isFalse fun e => h' (List.cons.inj e).2
        | isTrue h' => isTrue (hn ▸ h ▸ h' ▸ rfl)
    else isFalse fun e => hn (Prod.mk.inj (List.cons.inj e).1).1
end

instance : DecidableEq Json := decideEq

end Json

end SchemaOutline
