import SchemaOutline.CommandLine.Command
import SchemaOutline.CommandLine.Transcript
import SchemaOutline.Json.Writer
import SchemaOutline.Outline.Display
import SchemaOutline.Outline.Export
import SchemaOutline.Session.Workshop
import SchemaOutline.Settings
import SchemaOutline.Table

/-!
# Running commands

A command is run in some surroundings: the files, the environment, and whether jobs ever get done.
All identifiers of a run come from one source. Showing a document starts a session; where a job is
needed its ticket follows the identifiers of the preview, and the entries of the whole outline
follow the ticket.
-/

set_option autoImplicit false

namespace SchemaOutline.CommandLine

structure Surroundings where
  view : FileView
  environment : List (String × String)
  ids : IdSource
  /-- Whether jobs beside the program are taken on and never done. -/
  stalls : Bool

namespace Command

def prepare (command : Command) (surroundings : Surroundings) :
    Except Failure (Json × Settings) := do
  let document ← Document.load surroundings.view command.path
  let settings ← Settings.gather [] surroundings.environment surroundings.view
  .ok (.obj document, settings.overriding command.limit command.foldsAllOf)

/-! ## Showing -/

def delegation (settings : Settings) (stalls : Bool) : Delegation :=
  match settings.workplace with
  | .process => .remote
  | .thread => if stalls then .pooled else .prompt

def workshop (surroundings : Surroundings) (settings : Settings) (document : Json) : Workshop :=
  let ids := surroundings.ids
  let afterPreview := (Outline.draw (Gate.quota settings.limit) 0 ids document).2.ids
  { session :=
      { limit := settings.limit
        foldsAllOf := settings.foldsAllOf
        outline := Outline.empty
        latest := none
        nodeIds := ids
        tickets := afterPreview
        notifies := false
        updates := [] }
    delegation := delegation settings surroundings.stalls
    shelf := []
    pool := Pool.empty
    deliveries := []
    shown := none
    ids := afterPreview.next }

def table (path : Path) (lines : List Line) : Table where
  title := "Schema: " ++ path.text
  heading := ["Name", "Type", "Path"]
  rows := lines.map fun line => [line.indentedName, line.label, line.pointer]

def present (command : Command) (surroundings : Surroundings) (outline : Outline)
    (transcript : Transcript) : Transcript :=
  if command.asTable && command.output.isNone then
    transcript.after (outline.lines.bind fun lines => (table command.path lines).render)
      fun text => { transcript with printed := transcript.printed ++ text }
  else
    transcript.after outline.text fun text =>
      transcript.publish surroundings.view command.output text

inductive Waiting where
  | served
  | unserved
  | refused (failure : Failure)

/-- Jobs that are done at once are never waited for, and those that are never done end every wait
but an unlimited one. A job of another process takes some time. -/
def waiting : Delegation → Patience → Waiting
  | .shelved, _ | .prompt, _ => .served
  | .pooled, .endless | .remote, .endless => .refused .endlessWait
  | .pooled, _ | .remote, .none => .unserved
  | .remote, .unlimited | .remote, .limited => .served

def conclude (command : Command) (surroundings : Surroundings) (workshop : Workshop)
    (transcript : Transcript) : Transcript :=
  match workshop.fillNames with
  | (some failure, _) => transcript.fail failure
  | (none, named) => command.present surroundings named.session.outline transcript

/-- Shows a document. What is waited for is announced; where it does not come in time, the preview
is shown, though the job is still brought to its end. -/
def display (command : Command) (surroundings : Surroundings) : Transcript :=
  Transcript.empty.after (command.prepare surroundings) fun (document, settings) =>
    let start := workshop surroundings settings document
    let drawn := start.draw document
    let transcript := Transcript.empty.report drawn.events
    transcript.after drawn.result fun previewed =>
      if drawn.state.session.latest.isNone then
        command.conclude surroundings drawn.state transcript
      else
        let announced :=
          transcript.say s!"Pre-rendered {previewed} rows, waiting for the full build..."
        match waiting start.delegation command.patience with
        | .served => command.conclude surroundings drawn.state announced
        | .refused failure => announced.fail failure
        | .unserved =>
          let preview := { start with delegation := .pooled }.draw document
          command.conclude surroundings preview.state
            (announced.say "Full build did not finish, showing pre-render")

/-! ## Estimating -/

def delegates (settings : Settings) (count : Nat) (mentionsAllOf : Bool) : Bool :=
  settings.limit < count || (mentionsAllOf && settings.foldsAllOf)

def estimate (command : Command) (surroundings : Surroundings) : Transcript :=
  let counted := do
    let (document, settings) ← command.prepare surroundings
    let count ← Estimate.entryCount document none
    let mentionsAllOf ← Estimate.mentionsAllOf document
    .ok (settings, count, mentionsAllOf)
  Transcript.empty.after counted fun (settings, count, mentionsAllOf) =>
    let present := if mentionsAllOf then "yes" else "no"
    let verdict :=
      if delegates settings count mentionsAllOf then "Full build would be delegated"
      else "Full build runs synchronously"
    [s!"Estimated rows: {count}", s!"allOf present: {present}", s!"Max rows: {settings.limit}",
      verdict].foldl Transcript.sayMarked Transcript.empty

/-! ## Exporting -/

def serialize (command : Command) (surroundings : Surroundings) : Transcript :=
  let drawn := do
    let (document, settings) ← command.prepare surroundings
    let job ← Wire.jobFor "export" document settings.foldsAllOf
    (job.run surroundings.ids).1
  Transcript.empty.after drawn fun delivery =>
    let transcript := Transcript.empty.report [.drawn delivery.entries.size]
    match delivery.outline.fillNames with
    | (some failure, _) => transcript.fail failure
    | (none, named) =>
      transcript.after named.exported fun v =>
        transcript.publish surroundings.view command.output v.indented

def run (command : Command) (surroundings : Surroundings) : Transcript :=
  if surroundings.view.isDirectory command.path then Transcript.misused
  else
    let transcript := match command.action with
      | .display => command.display surroundings
      | .estimate => command.estimate surroundings
      | .serialize => command.serialize surroundings
    transcript.heard command.verbose

end Command

def helpText : String :=
  "Usage: show FILE | estimate FILE | export FILE\n\n" ++
  "  -n, --max-rows N                      entries that are drawn at once (show, estimate)\n" ++
  "  --merge-all-of / --no-merge-all-of    whether allOf lists are folded\n" ++
  "  -f, --format table|text               form of the outline (show)\n" ++
  "  -o, --output PATH                     file for the result (show, export)\n" ++
  "  --timeout SECONDS                     longest wait for the whole outline (show)\n" ++
  "  -v, --verbose                         report what is going on"

def run (words : List String) (surroundings : Surroundings) : Transcript :=
  match Request.ofWords? words with
  | none => Transcript.misused
  | some .help => Transcript.empty.say helpText
  | some (.command command) => command.run surroundings

end SchemaOutline.CommandLine
