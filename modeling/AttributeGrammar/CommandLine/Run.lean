import AttributeGrammar.CommandLine.Arguments
import AttributeGrammar.Description.Document
import AttributeGrammar.Files.Tree
import AttributeGrammar.Synthesis.Generate

/-!
# Running a command

* `JobError` — why no parser is written.
* `Job.code` — the text of the parser for a description.
* `Job.run` — the files after a job.
* `execute` — the outcome of a command: its exit status, what it reports, and the files after it.
-/

set_option autoImplicit false

namespace AttributeGrammar.CommandLine

/-- Why no parser is written. -/
inductive JobError where
  | notOpened (path : String) (cause : FileError)
  | notRead (path : String) (cause : GrammarError)
  | notGenerated (cause : SynthesisError)
  | directoryNotCreated (path : String) (cause : FileError)
  | fileNotCreated (path : String) (cause : FileError)
deriving DecidableEq, Repr

namespace JobError

/-- What was not done. -/
def message : JobError → String
  | .notOpened path _ => s!"file {path} can not be opened"
  | .notRead path _ => s!"reading {path}"
  | .notGenerated cause => cause.message
  | .directoryNotCreated path _ => s!"creating {path}"
  | .fileNotCreated path _ => s!"file {path} can not be created"

/-- Why it was not done, if the message does not tell. -/
def cause? : JobError → Option String
  | .notOpened _ cause => some cause.message
  | .notRead _ cause => some cause.message
  | .notGenerated _ => none
  | .directoryNotCreated _ cause => some cause.message
  | .fileNotCreated _ cause => some cause.message

/-- Whether a diagnosis of a pattern belongs behind the message. It is not part of the report, so the line
of the message stays open. -/
def staysOpen : JobError → Bool
  | .notGenerated (.inconsistent (.invalidRegex _ _)) => true
  | _ => false

/-- The lines of a text, each one moved to the right. -/
def indented (text : String) : String :=
  "\n".intercalate ((Text.cutAt '\n' text.toList).map fun line => "    " ++ String.ofList line)

/-- What is reported about an error. -/
def report (e : JobError) : String :=
  match e.cause? with
  | some cause => s!"Error: {e.message}\n\nCaused by:\n{indented cause}\n"
  | none => s!"Error: {e.message}" ++ if e.staysOpen then "" else "\n"

end JobError

namespace Job

/-- The path of the file for the parser. -/
def output (job : Job) : String := joinPath job.directory (job.name ++ ".rs")

/-- The text of the parser for a description. -/
def code (job : Job) (description : String) : Except JobError String := do
  let grammar ← match (Description.readResolved description).1 with
    | .ok grammar => pure grammar
    | .error cause => throw (.notRead job.description cause)
  match Synthesis.generateFile grammar job.main with
  | .ok code => return code
  | .error cause => throw (.notGenerated cause)

/-- Marks a file error with what was not done. -/
def within {α : Type} (mark : FileError → JobError) : Except FileError α → Except JobError α
  | .ok a => .ok a
  | .error cause => .error (mark cause)

/-- The files after a job. -/
def run (job : Job) (files : FileTree) : Except JobError FileTree := do
  let description ← within (.notOpened job.description) (files.read (.ofText job.description))
  let code ← job.code description
  let files ← within (.directoryNotCreated job.directory)
    (files.createDirectories (.ofText job.directory))
  within (.fileNotCreated job.output) (files.write (.ofText job.output) code)

end Job

/-- The outcome of a command. -/
structure Outcome where
  status : Nat
  /-- What is reported; none where the usage is explained instead. -/
  report : Option String
  files : FileTree

/-- Runs a command in a working directory. -/
def execute (arguments : List String) (files : FileTree) : Outcome :=
  match Request.ofArguments arguments with
  | .help => ⟨0, none, files⟩
  | .misuse => ⟨2, none, files⟩
  | .generate job =>
    match job.run files with
    | .ok files => ⟨0, some "", files⟩
    | .error e => ⟨1, some e.report, files⟩

end AttributeGrammar.CommandLine
