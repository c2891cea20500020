import AttributeGrammar.CommandLine.Run

/-!
# The command

`main` runs a command on the files of the system.
-/

set_option autoImplicit false

namespace AttributeGrammar.CommandLine

/-- What the usage explains. -/
def usage : String :=
  "Generate an LL(1) recursive-descent parser from a grammar description\n\n" ++
  "Usage: descent [OPTIONS] <GRAMMAR> <OUT_DIR>\n\n" ++
  "Options:\n" ++
  "  -n, --name <NAME>  Name of the generated file, without extension [default: parser]\n" ++
  "      --main         Also emit a main that parses one line of stdin\n" ++
  "  -h, --help         Print help"

/-- The file error that a failure of the system is. -/
def fileError (e : IO.Error) : FileError :=
  match e with
  | .alreadyExists .. => .alreadyThere
  | .noFileOrDirectory .. => .missing
  | .inappropriateType _ code _ => if code = 21 then .isDirectory else .notDirectory
  | _ => .missing

/-- Runs an action on files and marks its failure with what was not done. -/
def attempt {α : Type} (mark : FileError → JobError) (action : IO α) : ExceptT JobError IO α := do
  match ← action.toBaseIO with
  | .ok a => return a
  | .error e => throw (mark (fileError e))

/-- Does a job on the files of the system. -/
def perform (job : Job) : ExceptT JobError IO Unit := do
  let description ← attempt (.notOpened job.description) (IO.FS.readFile job.description)
  let code ← job.code description
  attempt (.directoryNotCreated job.directory) (IO.FS.createDirAll job.directory)
  attempt (.fileNotCreated job.output) (IO.FS.writeFile job.output code)

end AttributeGrammar.CommandLine

open AttributeGrammar.CommandLine in
def main (arguments : List String) : IO UInt32 := do
  match Request.ofArguments arguments with
  | .help =>
    IO.println usage
    return 0
  | .misuse =>
    IO.eprintln usage
    return 2
  | .generate job =>
    match ← (perform job).run with
    | .ok _ => return 0
    | .error e =>
      IO.eprint e.report
      return 1
