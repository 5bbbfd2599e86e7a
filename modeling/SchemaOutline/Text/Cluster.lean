import SchemaOutline.Text.CellWidth

/-!
# Clusters

A cluster is a character together with what belongs to it: the marks that combine with it, picture
selectors, and what joiners tie to it. Texts are cut between clusters only, and nothing is lost by
taking a text apart (`flatMap_chars_clusters`).
-/

set_option autoImplicit false

namespace SchemaOutline.Text

structure Cluster where
  chars : List Char
  width : Nat
deriving Repr, DecidableEq

namespace Cluster

def add (cluster : Cluster) (c : Char) (more : Nat) : Cluster :=
  ⟨cluster.chars ++ [c], cluster.width + more⟩

end Cluster

/-- The clusters of a text whose first characters may still belong to a given one. `symbol` is what
a picture selector would act on, and `ties` says whether a joiner stands in front. -/
def clustersFrom : Cluster → Option Char → Bool → List Char → List Cluster
  | cluster, _, _, [] => [cluster]
  | cluster, symbol, true, c :: rest => clustersFrom (cluster.add c 0) symbol false rest
  | cluster, symbol, false, c :: rest =>
    if c == joiner then clustersFrom (cluster.add c 0) symbol true rest
    else if c == pictureSelector then
      if symbol.any isWidened then clustersFrom (cluster.add c 1) none false rest
      else clustersFrom (cluster.add c 0) symbol false rest
    else if cellsOf c == 0 then clustersFrom (cluster.add c 0) symbol false rest
    else cluster :: clustersFrom ⟨[c], cellsOf c⟩ (some c) false rest

def clusters : List Char → List Cluster
  | [] => []
  | c :: rest => clustersFrom ⟨[c], cellsOf c⟩ (if cellsOf c == 0 then none else some c) false rest

theorem flatMap_chars_clustersFrom (cs : List Char) (cluster : Cluster) (symbol : Option Char)
    (ties : Bool) :
    (clustersFrom cluster symbol ties cs).flatMap Cluster.chars = cluster.chars ++ cs := by
  induction cs generalizing cluster symbol ties with
  | nil => simp [clustersFrom]
  | cons c rest ih =>
    cases ties with
    | true => simp [clustersFrom, ih, Cluster.add]
    | false =>
      simp only [clustersFrom]
      split
      · simp [ih, Cluster.add]
      · split
        · split <;> simp [ih, Cluster.add]
        · split <;> simp [ih, Cluster.add]

theorem flatMap_chars_clusters (cs : List Char) : (clusters cs).flatMap Cluster.chars = cs := by
  cases cs with
  | nil => rfl
  | cons c rest => simp [clusters, flatMap_chars_clustersFrom]

/-- As many cells as wanted from the start of a text; a cluster that would stand on the edge gives
way to a space. -/
def cutOff : Nat → List Cluster → List Char
  | 0, _ => []
  | _, [] => []
  | width, cluster :: rest =>
    if cluster.width ≤ width then cluster.chars ++ cutOff (width - cluster.width) rest
    else [' ']

def sized (width : Nat) (cs : List Char) : List Char :=
  if cells cs ≤ width then cs ++ spaces (width - cells cs) else cutOff width (clusters cs)

/-- Lines of whole clusters, each as full as the width allows, behind a line with some cells. -/
def foldedFrom (width : Nat) : Nat → List Char → List Cluster → List (List Char)
  | _, line, [] => [line]
  | used, line, cluster :: rest =>
    if used + cluster.width ≤ width then
      foldedFrom width (used + cluster.width) (line ++ cluster.chars) rest
    else line :: foldedFrom width cluster.width cluster.chars rest

def folded (width : Nat) (cs : List Char) : List (List Char) := foldedFrom width 0 [] (clusters cs)

theorem flatten_foldedFrom (width used : Nat) (line : List Char) (cs : List Cluster) :
    (foldedFrom width used line cs).flatten = line ++ cs.flatMap Cluster.chars := by
  induction cs generalizing used line with
  | nil => simp [foldedFrom]
  | cons cluster rest ih =>
    simp only [foldedFrom]
    split <;> simp [ih]

theorem flatten_folded (width : Nat) (cs : List Char) : (folded width cs).flatten = cs := by
  simp [folded, flatten_foldedFrom, flatMap_chars_clusters]

end SchemaOutline.Text
