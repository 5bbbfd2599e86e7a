import SchemaOutline.CommandLine.Run
import SchemaOutline.Proofs.Outline.Capping
import SchemaOutline.Proofs.Session.Answer

/-!
# Whether a job is needed

A session counts up to its limit to find out whether a document needs a job, and the estimate that
is printed for a document counts all entries. Both come to the same verdict, for every limit and
whether or not `allOf` lists are folded, because the count that stops beyond the limit is exact up
to there (`Estimate.entryCount_capped`).
-/

set_option autoImplicit false

namespace SchemaOutline

namespace Session

variable {document : Json} {count : Nat} {mentions : Bool}

/-- A session decides as if it had counted everything. -/
theorem exists_needsJob (session : Session)
    (hCount : Estimate.entryCount document none = .ok count)
    (hMentions : Estimate.mentionsAllOf document = .ok mentions) :
    ∃ event, session.needsJob document =
      .ok (decide (session.limit < count) || (mentions && session.foldsAllOf), event) := by
  obtain ⟨shown, hShown, hExceeds⟩ := Estimate.exists_entryCount_iff hCount session.limit
  refine ⟨.estimated shown session.limit mentions, ?_⟩
  unfold needsJob
  rw [hShown, hMentions, ← decide_eq_decide.mpr hExceeds]
  rfl

end Session

namespace CommandLine

namespace Command

def verdict (delegated : Bool) : String :=
  if delegated then "Full build would be delegated" else "Full build runs synchronously"

variable {command : Command} {surroundings : Surroundings} {document : Json} {settings : Settings}
  {count : Nat} {mentions : Bool}

/-- A verdict holds no markup, and is shown as it is. -/
theorem sayMarked_verdict (transcript : Transcript) (delegated : Bool) :
    transcript.sayMarked (verdict delegated) = transcript.say (verdict delegated) := by
  have hShown : (Markup.shown (verdict delegated)).toOption.map
      (fun lines => "\n".intercalate (lines.map String.ofList)) = some (verdict delegated) := by
    cases delegated <;> decide +kernel
  obtain ⟨lines, hLines, hText⟩ := exists_ok_of_map_toOption hShown
  unfold Transcript.sayMarked
  rw [hLines]
  exact congrArg transcript.say hText

/-- The last line of an estimate is its verdict. -/
theorem exists_said_of_estimate (hPrepare : command.prepare surroundings = .ok (document, settings))
    (hCount : Estimate.entryCount document none = .ok count)
    (hMentions : Estimate.mentionsAllOf document = .ok mentions) :
    ∃ said : Transcript, command.estimate surroundings =
      said.say (verdict (delegates settings count mentions)) := by
  unfold estimate
  rw [hPrepare]
  simp only [bind, Except.bind, hCount, hMentions, Transcript.after, List.foldl_cons,
    List.foldl_nil]
  exact ⟨_, sayMarked_verdict _ _⟩

/-- The entries of a document that nests within the limit can be counted and its `allOf` lists
found. What is counted up to a limit is the number of all entries, as far as that is at most one
beyond the limit. And the verdict of the estimate, from the number of all entries, is that of a
session, which counts up to its limit. -/
theorem verdict_of_estimate :
    (∀ document : Json, document.depth < nestingLimit →
      (∃ count, Estimate.entryCount document none = .ok count) ∧
        ∃ mentions, Estimate.mentionsAllOf document = .ok mentions) ∧
    (∀ (document : Json) (count limit : Nat), Estimate.entryCount document none = .ok count →
      Estimate.entryCount document (some limit) = .ok (min count (limit + 1))) ∧
    ∀ (settings : Settings) (session : Session) (members : Members) (count : Nat)
      (mentions : Bool), session.limit = settings.limit →
      session.foldsAllOf = settings.foldsAllOf →
      Estimate.entryCount (.obj members) none = .ok count →
      Estimate.mentionsAllOf (.obj members) = .ok mentions →
      ∃ delegated event, session.needsJob (.obj members) = .ok (delegated, event) ∧
        ∀ (command : Command) (surroundings : Surroundings),
          command.prepare surroundings = .ok (.obj members, settings) →
          ∃ said : Transcript,
            command.estimate surroundings = said.say (verdict delegated) := by
  refine ⟨fun _ => Estimate.exists_of_depth, fun _ _ limit h => Estimate.entryCount_capped h limit,
    ?_⟩
  intro settings session members count mentions hLimit hFolds hCount hMentions
  obtain ⟨event, hNeeds⟩ := session.exists_needsJob hCount hMentions
  rw [hLimit, hFolds] at hNeeds
  refine ⟨_, event, hNeeds, ?_⟩
  intro command surroundings hPrepare
  exact exists_said_of_estimate hPrepare hCount hMentions

/-- A combiner with two branches, which makes three entries. -/
def twoBranches : Members := [("anyOf", .arr [.obj [], .obj []])]

/-- The command line `estimate s.json --max-rows 2`. -/
def estimatingUpToTwo : Command :=
  ⟨.estimate, Path.ofText "s.json", some 2, none, true, none, .unlimited, false⟩

/-- A working directory with the two branches in the file `s.json`. -/
def besideTwoBranches : Surroundings where
  view := Files.view ⟨[(["s.json"],
    .file ((Json.obj twoBranches).compact.toList.map fun c => c.toNat.toUInt8))]⟩
  environment := []
  ids := .numbered "n"
  stalls := false

theorem verdict_of_estimate_twoBranches :
    (Json.obj twoBranches).depth < nestingLimit ∧
      Estimate.entryCount (.obj twoBranches) (some (1 : Nat)) = .ok 2 ∧
      ∃ event, (Session.mk 2 true .empty none (.numbered "n") (.numbered "t") false []).needsJob
          (.obj twoBranches) = .ok (true, event) ∧
        ∃ said : Transcript, estimatingUpToTwo.estimate besideTwoBranches =
          said.say "Full build would be delegated" := by
  obtain ⟨hWithin, hCapped, hVerdict⟩ := verdict_of_estimate
  have hDepth : (Json.obj twoBranches).depth < nestingLimit := by decide
  obtain ⟨⟨count, hCount⟩, mentions, hMentions⟩ := hWithin _ hDepth
  have hThree : Estimate.entryCount (.obj twoBranches) none = .ok 3 := by decide +kernel
  obtain rfl : count = 3 := Except.ok.inj (hCount.symm.trans hThree)
  have hPrepared : (estimatingUpToTwo.prepare besideTwoBranches).toOption.map id =
      some (.obj twoBranches, ⟨2, true, .thread, 1⟩) := by
    decide +kernel
  obtain ⟨_, hPrepare, rfl⟩ := exists_ok_of_map_toOption hPrepared
  obtain ⟨delegated, event, hNeeds, hSaid⟩ := hVerdict ⟨2, true, .thread, 1⟩
    (Session.mk 2 true .empty none (.numbered "n") (.numbered "t") false []) _ _ _ rfl rfl hCount
    hMentions
  -- Three entries are more than two, whatever else is found in the document.
  obtain rfl : delegated = true := by
    obtain ⟨shown, _, hShown, -, hDelegated, -⟩ := Session.needsJob_eq_ok _ _ hNeeds
    obtain rfl : shown = 3 := Except.ok.inj (hShown.symm.trans (hCapped _ _ 2 hCount))
    rw [hDelegated]
    rfl
  exact ⟨hDepth, hCapped _ _ 1 hCount, event, hNeeds, hSaid _ _ hPrepare⟩

end Command

end CommandLine

end SchemaOutline
