import SchemaOutline.Event
import SchemaOutline.Markup
import SchemaOutline.Text.ControlSequence

/-!
# Transcripts

A transcript is what a run of the program leaves behind: the text it has printed, the file it has
written, what was reported meanwhile, and how it ended. Some failures are what a user can mend and
are told in one line of error text; the others end the program.
-/

set_option autoImplicit false

namespace SchemaOutline

def Failure.isTold : Failure → Bool
  | .tooDeep | .noRecord _ | .noSuchIndex | .labelNotText _ _ | .poolClosed | .straySlashTag
  | .unreadableParameters | .unwritable _ | .endlessWait => false
  | .tooDeepToDraw | .recordTaken _ | .refused _ _ | .hugeInteger _ | .notText _ | .noDocument _
  | .exportTooDeep | .unreadableNumber _ | .zeroInPath => true

namespace CommandLine

inductive Ending where
  | finished
  | misused
  | failed (failure : Failure)
deriving Repr, DecidableEq

structure Transcript where
  printed : String
  written : Option (Path × String)
  events : List Event
  ending : Ending
deriving Repr, DecidableEq

namespace Transcript

def empty : Transcript := ⟨"", none, [], .finished⟩

def misused : Transcript := { empty with ending := .misused }

def say (transcript : Transcript) (text : String) : Transcript :=
  { transcript with printed := transcript.printed ++ text ++ "\n" }

def report (transcript : Transcript) (events : List Event) : Transcript :=
  { transcript with events := transcript.events ++ events }

def fail (transcript : Transcript) (failure : Failure) : Transcript :=
  { transcript with ending := .failed failure }

def after {α : Type} (transcript : Transcript) (result : Except Failure α)
    (next : α → Transcript) : Transcript :=
  match result with
  | .ok value => next value
  | .error failure => transcript.fail failure

def sayMarked (transcript : Transcript) (text : String) : Transcript :=
  transcript.after (Markup.shown text) fun lines =>
    transcript.say ("\n".intercalate (lines.map String.ofList))

/-- Prints a text, without what only a terminal understands, or writes it where a path is given and
says so. -/
def publish (transcript : Transcript) (view : FileView) (output : Option Path) (text : String) :
    Transcript :=
  match output with
  | none => transcript.say (String.ofList (Text.withoutSequences text.toList))
  | some path =>
    match view.obstacle? path with
    | some cause => transcript.fail (.unwritable cause)
    | none =>
      { transcript with written := some (path, text) }.sayMarked
        ("✓ Tree written to " ++ path.text)

def errorLine? (transcript : Transcript) : Option (Except Failure String) :=
  match transcript.ending with
  | .failed failure =>
    if failure.isTold then
      some ((Markup.shown ("Error: " ++ failure.message)).map fun lines =>
        String.ofList (Text.trimEnd Text.isSpacing (lines.headD [])))
    else none
  | _ => none

/-- The failure that ends the program without a word of its own. -/
def crash? (transcript : Transcript) : Option Failure :=
  match transcript.ending, transcript.errorLine? with
  | _, some (.error failure) => some failure
  | .failed failure, none => some failure
  | _, _ => none

def exitCode (transcript : Transcript) : Nat :=
  match transcript.ending with
  | .finished => 0
  | .failed _ => 1
  | .misused => 2

def heard (transcript : Transcript) (verbose : Bool) : Transcript :=
  { transcript with
    events := transcript.events.filter fun event => verbose || event.severity == .warning }

end Transcript

end CommandLine

end SchemaOutline
