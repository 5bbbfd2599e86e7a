import SchemaOutline.Proofs.Outline.Arena
import SchemaOutline.Proofs.Success

/-!
# Steps of growth that succeed

`Growth.Reaches` says that a step of growth succeeds with a value and leads from one state to
another. Each step has one lemma that says when it does, and `reaches_visit_iff` puts them together:
it says everything that visiting a fragment can do when it succeeds.
-/

set_option autoImplicit false

namespace SchemaOutline

namespace Growth

variable {σ α β : Type}

def outcome (x : Growing σ α) (g : Growth σ) : Except Failure α × Growth σ := x.run.run g

theorem outcome_bind (x : Growing σ α) (f : α → Growing σ β) (g : Growth σ) :
    outcome (x >>= f) g = match outcome x g with
      | (.ok a, g') => outcome (f a) g'
      | (.error failure, g') => (.error failure, g') := by
  simp only [outcome, ExceptT.run_bind, StateT.run_bind]
  rcases x.run.run g with ⟨_ | _, _⟩ <;> rfl

/-- A step of growth succeeds with a value and leads from one state to another. -/
def Reaches (x : Growing σ α) (g : Growth σ) (a : α) (g' : Growth σ) : Prop :=
  outcome x g = (.ok a, g')

variable {g g' g'' : Growth σ}

theorem Reaches.outcome_bind {x : Growing σ α} {a : α} (h : Reaches x g a g')
    (f : α → Growing σ β) : outcome (x >>= f) g = outcome (f a) g' := by
  have hOutcome : outcome x g = (.ok a, g') := h
  rw [Growth.outcome_bind, hOutcome]

theorem reaches_bind_iff {x : Growing σ α} {f : α → Growing σ β} {b : β} :
    Reaches (x >>= f) g b g'' ↔ ∃ a g', Reaches x g a g' ∧ Reaches (f a) g' b g'' := by
  unfold Reaches
  rw [outcome_bind]
  rcases outcome x g with ⟨_ | a, g'⟩
  · simp
  · simp only [Prod.mk.injEq, Except.ok.injEq]
    constructor
    · intro h
      exact ⟨a, g', ⟨rfl, rfl⟩, h⟩
    · rintro ⟨_, _, ⟨rfl, rfl⟩, h⟩
      exact h

theorem reaches_pure_iff {a b : α} : Reaches (pure a : Growing σ α) g b g' ↔ a = b ∧ g = g' := by
  change ((Except.ok a, g) : Except Failure α × Growth σ) = (.ok b, g') ↔ _
  simp

theorem not_reaches_throw {failure : Failure} {a : α} :
    ¬ Reaches (throw failure : Growing σ α) g a g' := by
  intro h
  cases h

theorem reaches_lift_iff {x : Except Failure α} {a : α} :
    Reaches (liftM x : Growing σ α) g a g' ↔ x = .ok a ∧ g = g' := by
  change ((x, g) : Except Failure α × Growth σ) = (.ok a, g') ↔ _
  simp

theorem reaches_get_iff {h : Growth σ} :
    Reaches (get : Growing σ (Growth σ)) g h g' ↔ g = h ∧ g = g' := by
  change ((Except.ok g, g) : Except Failure (Growth σ) × Growth σ) = (.ok h, g') ↔ _
  simp

theorem reaches_modify_iff {f : Growth σ → Growth σ} {u : Unit} :
    Reaches (modify f : Growing σ Unit) g u g' ↔ f g = g' := by
  change ((Except.ok (), f g) : Except Failure Unit × Growth σ) = (.ok u, g') ↔ _
  simp

theorem reaches_freshId_iff {id : String} :
    Reaches freshId g id g' ↔ g.ids.peek = id ∧ { g with ids := g.ids.next } = g' := by
  change ((Except.ok g.ids.peek, { g with ids := g.ids.next }) :
    Except Failure String × Growth σ) = (.ok id, g') ↔ _
  simp

theorem reaches_isAdmitted_iff {gate : Gate σ} {summary : Summary} {entry : Option Entry}
    {level : Int} {admitted : Bool} :
    Reaches (isAdmitted gate summary entry level) g admitted g' ↔
      ∃ s, gate.judge g.gate summary entry level = (admitted, s) ∧ { g with gate := s } = g' := by
  change ((Except.ok (gate.judge g.gate summary entry level).1,
    { g with gate := (gate.judge g.gate summary entry level).2 }) :
      Except Failure Bool × Growth σ) = (.ok admitted, g') ↔ _
  rcases gate.judge g.gate summary entry level with ⟨_, _⟩
  simp only [Prod.mk.injEq, Except.ok.injEq]
  constructor
  · rintro ⟨rfl, rfl⟩
    exact ⟨_, ⟨rfl, rfl⟩, rfl⟩
  · rintro ⟨_, ⟨rfl, rfl⟩, rfl⟩
    exact ⟨rfl, rfl⟩

theorem reaches_expand_iff {index : Nat} {u : Unit} :
    Reaches (expand index) g u g' ↔
      ∃ outline, g.outline.expand index = .ok outline ∧ { g with outline } = g' := by
  unfold expand
  simp only [reaches_bind_iff, reaches_get_iff, reaches_lift_iff, reaches_modify_iff]
  grind

theorem reaches_cons_iff {γ : Type} {f : γ → Growing σ Unit} {a : γ} {rest : List γ} {u : Unit} :
    Reaches ((a :: rest).forM f) g u g'' ↔
      ∃ g', Reaches (f a) g () g' ∧ Reaches (rest.forM f) g' u g'' := by
  change Reaches (f a >>= fun _ => rest.forM f) g u g'' ↔ _
  rw [reaches_bind_iff]
  constructor
  · rintro ⟨_, g', h⟩
    exact ⟨g', h⟩
  · rintro ⟨g', h⟩
    exact ⟨(), g', h⟩

theorem Reaches.outcome_cons {γ : Type} {f : γ → Growing σ Unit} {a : γ}
    (h : Reaches (f a) g () g') (rest : List γ) :
    outcome ((a :: rest).forM f) g = outcome (rest.forM f) g' :=
  h.outcome_bind fun _ => rest.forM f

theorem outcome_cons_of_error {γ : Type} {f : γ → Growing σ Unit} {a : γ} {failure : Failure}
    (h : (outcome (f a) g).1 = .error failure) (rest : List γ) :
    (outcome ((a :: rest).forM f) g).1 = .error failure := by
  change (outcome (f a >>= fun _ => rest.forM f) g).1 = _
  rw [outcome_bind]
  generalize outcome (f a) g = first at h
  obtain ⟨_ | _, mid⟩ := first
  · exact h
  · cases h

theorem outcome_singleton {γ : Type} (f : γ → Growing σ Unit) (a : γ) (g : Growth σ) :
    outcome ([a].forM f) g = outcome (f a) g := by
  change outcome (f a >>= fun _ => pure ()) g = _
  rw [outcome_bind]
  rcases outcome (f a) g with ⟨_ | _, mid⟩ <;> rfl

theorem reaches_above_iff {parent : Option Nat} {entry : Option Entry} :
    Reaches (above (parent.map Nat.cast)) g entry g' ↔
      entry = parent.bind (g.outline.entries[·]?) ∧ (parent.isSome → entry.isSome) ∧ g = g' := by
  unfold above
  cases parent with
  | none =>
    simp only [Option.map_none, reaches_pure_iff]
    grind
  | some p =>
    simp only [Option.map_some, reaches_bind_iff, reaches_get_iff, reaches_lift_iff,
      reaches_pure_iff, Outline.entry_natCast_eq_ok_iff]
    grind

theorem reaches_place_iff {record : Record} {parent : Option Nat} {level : Int} {index : Nat}
    (hParent : g.outline.HasParent parent) :
    Reaches (place record.summary (parent.map Nat.cast) level record.location) g index g' ↔
      g.outline.record? record.summary.id = none ∧ index = g.outline.size ∧
        { g with outline := g.outline.stand parent level record false } = g' := by
  have hAppend := fun outline' =>
    Outline.append_addRecord_iff outline' index level record hParent
  unfold place
  simp only [reaches_bind_iff, reaches_get_iff, reaches_lift_iff, reaches_modify_iff,
    reaches_pure_iff]
  constructor
  · rintro ⟨_, _, hIndex, _, _, ⟨rfl, rfl⟩, outline', _, ⟨hRecord, rfl⟩, _, _, rfl, rfl, rfl⟩
    obtain ⟨hResult, rfl⟩ := Prod.mk.inj hIndex
    obtain ⟨hFree, hSize, rfl⟩ := (hAppend outline').mp ⟨_, Prod.ext hResult rfl, hRecord⟩
    exact ⟨hFree, hSize, rfl⟩
  · rintro ⟨hFree, hSize, rfl⟩
    obtain ⟨longer, hLonger, hRecord⟩ := (hAppend _).mpr ⟨hFree, hSize, rfl⟩
    refine ⟨index, { g with outline := longer }, ?_, _, _, ⟨rfl, rfl⟩, _, _, ⟨hRecord, rfl⟩, (), _,
      rfl, rfl, rfl⟩
    change ((g.outline.append _ _ _).1, { g with outline := (g.outline.append _ _ _).2 }) = _
    rw [hLonger]

def visitAll (gate : Gate σ) (room : Nat) (parent : Option Nat) (level : Int) (location : Location)
    (descents : List Descent) : Growing σ Unit :=
  descents.forM fun descent =>
    visit gate room (parent.map Nat.cast) level (location ++ descent.steps) descent.value
      descent.inherited

theorem reaches_drawn_iff {gate : Gate σ} {room : Nat} {parent : Option Nat} {level : Int}
    {record : Record} {u : Unit} (hParent : g.outline.HasParent parent) :
    Reaches (do
        let index ← place record.summary (parent.map Nat.cast) level record.location
        let expansion ← Expansion.ofSummary room record.summary
        if expansion.expandable then expand index
        visitAll gate (expansion.roomBelow room) (some index) (level + 1) record.location
          expansion.descents) g u g' ↔
      g.outline.record? record.summary.id = none ∧ ∃ expansion,
        Expansion.ofSummary room record.summary = .ok expansion ∧
        Reaches (visitAll gate (expansion.roomBelow room) (some g.outline.size) (level + 1)
            record.location expansion.descents)
          { g with outline := g.outline.stand parent level record expansion.expandable } u g' := by
  simp only [reaches_bind_iff, reaches_place_iff hParent, reaches_lift_iff]
  constructor
  · rintro ⟨_, _, ⟨hFree, rfl, rfl⟩, expansion, _, ⟨hExpansion, rfl⟩, hRest⟩
    refine ⟨hFree, expansion, hExpansion, ?_⟩
    cases hExpandable : expansion.expandable with
    | false => simpa [hExpandable] using hRest
    | true =>
      simp only [hExpandable, if_true, reaches_bind_iff, reaches_expand_iff] at hRest
      obtain ⟨_, _, ⟨outline, hOutline, rfl⟩, hRest⟩ := hRest
      rw [Outline.expand_stand] at hOutline
      cases hOutline
      exact hRest
  · rintro ⟨hFree, expansion, hExpansion, hRest⟩
    refine ⟨_, _, ⟨hFree, rfl, rfl⟩, expansion, _, ⟨hExpansion, rfl⟩, ?_⟩
    cases hExpandable : expansion.expandable with
    | false => simpa [hExpandable] using hRest
    | true =>
      simp only [hExpandable, if_true, reaches_bind_iff, reaches_expand_iff] at hRest ⊢
      exact ⟨(), _, ⟨_, Outline.expand_stand _ parent level record, rfl⟩, hRest⟩

theorem visit_of_members?_eq_none {gate : Gate σ} {room : Nat} {parent : Option Int} {level : Int}
    {location : Location} {value inherited : Json} (hValue : value.members? = none) :
    visit gate room parent level location value inherited = pure () := by
  rw [visit]
  rintro fragment rfl
  cases hValue

theorem visit_of_lt {gate : Gate σ} {room : Nat} {parent : Option Int} {level : Int}
    {location : Location} {fragment : Members} {inherited : Json} (h : room < callsPerEntry) :
    visit gate room parent level location (.obj fragment) inherited = throw .tooDeep := by
  rw [visit, if_pos h]

/-- The visit of a fragment that there is room for. -/
theorem visit_obj {gate : Gate σ} {room : Nat} {parent : Option Int} {level : Int}
    {location : Location} {fragment : Members} {inherited : Json} :
    visit gate (room + callsPerEntry) parent level location (.obj fragment) inherited = (do
      let above ← above parent
      let id ← freshId
      let summary ← Summary.ofFragment id fragment inherited
      if ← isAdmitted gate summary above level then
        let index ← place summary parent level location
        let expansion ← Expansion.ofSummary room summary
        if expansion.expandable then expand index
        visitAll gate (expansion.roomBelow room) (some index) (level + 1) location
          expansion.descents) := by
  rw [visit, if_neg (Nat.not_lt.mpr (Nat.le_add_left _ _)), Nat.add_sub_cancel]
  rfl

theorem reaches_visit_passed_iff {gate : Gate σ} {room : Nat} {parent : Option Int} {level : Int}
    {location : Location} {value inherited : Json} {u : Unit} (hValue : value.members? = none) :
    Reaches (visit gate room parent level location value inherited) g u g' ↔ g = g' := by
  rw [visit_of_members?_eq_none hValue, reaches_pure_iff]
  simp

theorem exists_room_of_reaches {gate : Gate σ} {room : Nat} {parent : Option Int} {level : Int}
    {location : Location} {fragment : Members} {inherited : Json} {u : Unit}
    (h : Reaches (visit gate room parent level location (.obj fragment) inherited) g u g') :
    ∃ left, room = left + callsPerEntry := by
  refine ⟨room - callsPerEntry, (Nat.sub_add_cancel (Nat.le_of_not_lt fun hLt => ?_)).symm⟩
  rw [visit_of_lt hLt] at h
  exact not_reaches_throw h

/-- Everything that a visit of a fragment can do when it succeeds. -/
theorem reaches_visit_iff {gate : Gate σ} {room : Nat} {parent : Option Nat} {level : Int}
    {location : Location} {fragment : Members} {inherited : Json} {u : Unit}
    (hParent : g.outline.HasParent parent) :
    Reaches (visit gate (room + callsPerEntry) (parent.map Nat.cast) level location (.obj fragment)
      inherited) g u g' ↔
    ∃ summary admitted s, Summary.ofFragment g.ids.peek fragment inherited = .ok summary ∧
      gate.judge g.gate summary (parent.bind (g.outline.entries[·]?)) level = (admitted, s) ∧
      if admitted then
        g.outline.record? summary.id = none ∧ ∃ expansion,
          Expansion.ofSummary room summary = .ok expansion ∧
          Reaches (visitAll gate (expansion.roomBelow room) (some g.outline.size) (level + 1)
              location expansion.descents)
            ⟨g.outline.stand parent level ⟨summary, location⟩ expansion.expandable, g.ids.next, s⟩
            u g'
      else ⟨g.outline, g.ids.next, s⟩ = g' := by
  have hDrawn := fun summary s =>
    @reaches_drawn_iff σ ⟨g.outline, g.ids.next, s⟩ g' gate room parent level ⟨summary, location⟩ u
      hParent
  rw [visit_obj]
  simp only [reaches_bind_iff, reaches_above_iff, reaches_freshId_iff, reaches_lift_iff,
    reaches_isAdmitted_iff]
  constructor
  · rintro ⟨_, _, ⟨rfl, -, rfl⟩, _, _, ⟨rfl, rfl⟩, summary, _, ⟨hSummary, rfl⟩, admitted, _,
      ⟨s, hJudge, rfl⟩, hRest⟩
    refine ⟨summary, admitted, s, hSummary, hJudge, ?_⟩
    cases admitted with
    | false => exact (reaches_pure_iff.mp hRest).2
    | true => exact (hDrawn summary s).mp hRest
  · rintro ⟨summary, admitted, s, hSummary, hJudge, hRest⟩
    refine ⟨_, _, ⟨rfl, hParent.isSome, rfl⟩, _, _, ⟨rfl, rfl⟩, summary, _, ⟨hSummary, rfl⟩,
      admitted, _, ⟨s, hJudge, rfl⟩, ?_⟩
    cases admitted with
    | false => exact reaches_pure_iff.mpr ⟨rfl, hRest⟩
    | true => exact (hDrawn summary s).mpr hRest

/-- The visit of a fragment that is let in and cannot be expanded fails like its expansion. -/
theorem outcome_visit_of_error {gate : Gate σ} {room : Nat} {parent : Option Nat} {level : Int}
    {location : Location} {fragment : Members} {inherited : Json} {summary : Summary} {s : σ}
    {failure : Failure} (hParent : g.outline.HasParent parent)
    (hSummary : Summary.ofFragment g.ids.peek fragment inherited = .ok summary)
    (hJudge : gate.judge g.gate summary (parent.bind (g.outline.entries[·]?)) level = (true, s))
    (hFree : g.outline.record? summary.id = none)
    (hExpansion : Expansion.ofSummary room summary = .error failure) :
    (outcome (visit gate (room + callsPerEntry) (parent.map Nat.cast) level location (.obj fragment)
      inherited) g).1 = .error failure := by
  let named : Growth σ := ⟨g.outline, g.ids.next, g.gate⟩
  let asked : Growth σ := ⟨g.outline, g.ids.next, s⟩
  have hAdmitted : Reaches (isAdmitted gate summary (parent.bind (g.outline.entries[·]?)) level)
      named true asked := reaches_isAdmitted_iff.mpr ⟨s, hJudge, rfl⟩
  have hPlace := (@reaches_place_iff σ asked
    { asked with outline := g.outline.stand parent level ⟨summary, location⟩ false }
    ⟨summary, location⟩ parent level g.outline.size hParent).mpr ⟨hFree, rfl, rfl⟩
  rw [visit_obj, (reaches_above_iff.mpr ⟨rfl, hParent.isSome, rfl⟩).outcome_bind,
    (reaches_freshId_iff.mpr ⟨rfl, rfl⟩).outcome_bind,
    (reaches_lift_iff.mpr ⟨hSummary, rfl⟩).outcome_bind,
    hAdmitted.outcome_bind, if_pos rfl, hPlace.outcome_bind, outcome_bind, hExpansion]
  rfl

/-- The visit of a fragment that is let in and can be expanded goes on below the new entry. -/
theorem outcome_visit_of_ok {gate : Gate σ} {room : Nat} {parent : Option Nat} {level : Int}
    {location : Location} {fragment : Members} {inherited : Json} {summary : Summary} {s : σ}
    {expansion : Expansion} (hParent : g.outline.HasParent parent)
    (hSummary : Summary.ofFragment g.ids.peek fragment inherited = .ok summary)
    (hJudge : gate.judge g.gate summary (parent.bind (g.outline.entries[·]?)) level = (true, s))
    (hFree : g.outline.record? summary.id = none)
    (hExpansion : Expansion.ofSummary room summary = .ok expansion) :
    outcome (visit gate (room + callsPerEntry) (parent.map Nat.cast) level location (.obj fragment)
      inherited) g =
        outcome (visitAll gate (expansion.roomBelow room) (some g.outline.size) (level + 1) location
          expansion.descents)
          ⟨g.outline.stand parent level ⟨summary, location⟩ expansion.expandable, g.ids.next,
            s⟩ := by
  let named : Growth σ := ⟨g.outline, g.ids.next, g.gate⟩
  let asked : Growth σ := ⟨g.outline, g.ids.next, s⟩
  let placed : Growth σ :=
    { asked with outline := g.outline.stand parent level ⟨summary, location⟩ false }
  have hAdmitted : Reaches (isAdmitted gate summary (parent.bind (g.outline.entries[·]?)) level)
      named true asked := reaches_isAdmitted_iff.mpr ⟨s, hJudge, rfl⟩
  have hPlace := (@reaches_place_iff σ asked placed ⟨summary, location⟩ parent level
    g.outline.size hParent).mpr ⟨hFree, rfl, rfl⟩
  rw [visit_obj, (reaches_above_iff.mpr ⟨rfl, hParent.isSome, rfl⟩).outcome_bind,
    (reaches_freshId_iff.mpr ⟨rfl, rfl⟩).outcome_bind,
    (reaches_lift_iff.mpr ⟨hSummary, rfl⟩).outcome_bind, hAdmitted.outcome_bind, if_pos rfl,
    hPlace.outcome_bind, (reaches_lift_iff.mpr ⟨hExpansion, rfl⟩).outcome_bind]
  -- Only now does the entry get the list of children that its expansion gives it.
  cases hExpandable : expansion.expandable with
  | false => rfl
  | true =>
    have hExpand : Reaches (expand g.outline.size) placed ()
        { asked with outline := g.outline.stand parent level ⟨summary, location⟩ true } :=
      reaches_expand_iff.mpr ⟨_, Outline.expand_stand _ parent level ⟨summary, location⟩, rfl⟩
    rw [if_pos rfl, hExpand.outcome_bind]

end Growth

end SchemaOutline
