import SchemaOutline.Outline

/-!
# Gates

A gate decides, entry by entry and in display order, which fragments get into an outline. What it
keeps out is not drawn and nothing below it is looked at. A gate may remember what it has seen.
-/

set_option autoImplicit false

namespace SchemaOutline

structure Gate (σ : Type) where
  judge : σ → Summary → Option Entry → Int → Bool × σ

namespace Gate

def unlimited : Gate Unit := ⟨fun _ _ _ _ => (true, ())⟩

def quota (limit : Int) : Gate Nat :=
  ⟨fun admitted _ _ _ => if limit ≤ admitted then (false, admitted) else (true, admitted + 1)⟩

def rejecting (test : Kind → Int → Bool) : Gate Unit :=
  ⟨fun _ summary _ level => (!test summary.kind level, ())⟩

/-- Asks the first gate and, if that lets the entry through, the second. -/
def followedBy {σ τ : Type} (first : Gate σ) (second : Gate τ) : Gate (σ × τ) :=
  ⟨fun (s, t) summary above level =>
    match first.judge s summary above level with
    | (false, s) => (false, (s, t))
    | (true, s) =>
      let (admitted, t) := second.judge t summary above level
      (admitted, (s, t))⟩

structure Call where
  id : String
  above : Option String
  level : Int
deriving Repr, DecidableEq

def recorded {σ : Type} (gate : Gate σ) : Gate (σ × List Call) :=
  ⟨fun (s, calls) summary above level =>
    let (admitted, s) := gate.judge s summary above level
    (admitted, (s, calls ++ [⟨summary.id, above.map Entry.id, level⟩]))⟩

end Gate

end SchemaOutline
