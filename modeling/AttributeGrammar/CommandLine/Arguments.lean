/-!
# The arguments of the command line

* `Job` — what a command asks for.
* `Request.ofArguments` — the request that some arguments make.
-/

set_option autoImplicit false

namespace AttributeGrammar.CommandLine

/-- The generation of a parser: `<directory>/<name>.rs` gets the parser of a description. -/
structure Job where
  /-- The path of the description. -/
  description : String
  /-- The path of the directory for the parser. -/
  directory : String
  /-- The name of the parser's file without its ending. -/
  name : String
  /-- Whether the program that parses one line is added. -/
  main : Bool
deriving DecidableEq, Repr

/-- What some arguments ask for. -/
inductive Request where
  | generate (job : Job)
  | help
  | misuse
deriving DecidableEq, Repr

/-- The name of a parser's file if none is given. -/
def defaultName : String := "parser"

/-- The arguments that were read so far. -/
structure Given where
  paths : List String
  name : Option String
  main : Bool
deriving DecidableEq, Repr

namespace Given

def empty : Given := ⟨[], none, false⟩

/-- Adds a path. There are at most two, and none is empty. -/
def addPath (given : Given) (path : String) : Option Given :=
  if path = "" || 2 ≤ given.paths.length then none
  else some { given with paths := given.paths ++ [path] }

/-- Sets the name, which may be given once. -/
def setName (given : Given) (name : String) : Option Given :=
  if given.name.isSome then none else some { given with name := some name }

/-- Sets the mark for the program, which may be given once. -/
def setMain (given : Given) : Option Given :=
  if given.main then none else some { given with main := true }

/-- The request of all arguments. -/
def request (given : Given) : Request :=
  match given.paths with
  | [description, directory] =>
    .generate ⟨description, directory, given.name.getD defaultName, given.main⟩
  | _ => .misuse

end Given

/-- What an argument is. -/
inductive Argument where
  | path (text : String)
  /-- The end of the options. -/
  | endOfOptions
  | help
  | main
  /-- The option for the name; its value may be in the same argument. -/
  | name (value : Option String)
  | unknown
deriving DecidableEq, Repr

/-- What an argument is where options may still come. An option of one letter takes the rest of its
argument as its value, without an equals sign in front of it. -/
def Argument.ofText (text : String) : Argument :=
  match text.toList with
  | ['-', '-'] => .endOfOptions
  | '-' :: '-' :: option =>
    match option.span (· ≠ '=') with
    | (word, _ :: value) =>
      if word = "name".toList then .name (some (String.ofList value)) else .unknown
    | (word, []) =>
      if word = "name".toList then .name none
      else if word = "main".toList then .main
      else if word = "help".toList then .help
      else .unknown
  | ['-', 'n'] => .name none
  | '-' :: 'n' :: '=' :: value => .name (some (String.ofList value))
  | '-' :: 'n' :: value => .name (some (String.ofList value))
  | '-' :: 'h' :: _ => .help
  | '-' :: _ :: _ => .unknown
  | _ => .path text

/-- The request of paths that follow the end of the options. -/
def readPaths (given : Given) (paths : List String) : Request :=
  match paths.foldlM Given.addPath given with
  | some given => given.request
  | none => .misuse

/-- The request of arguments that follow others. Help is given as soon as it is asked for, unless there
was a mistake before. -/
def readArguments (given : Given) : List String → Request
  | [] => given.request
  | text :: rest =>
    match Argument.ofText text with
    | .endOfOptions => readPaths given rest
    | .help => .help
    | .unknown => .misuse
    | .path path =>
      match given.addPath path with
      | some given => readArguments given rest
      | none => .misuse
    | .main =>
      match given.setMain with
      | some given => readArguments given rest
      | none => .misuse
    | .name (some value) =>
      match given.setName value with
      | some given => readArguments given rest
      | none => .misuse
    | .name none =>
      match rest with
      | [] => .misuse
      | value :: rest =>
        match Argument.ofText value with
        | .path value =>
          match given.setName value with
          | some given => readArguments given rest
          | none => .misuse
        | _ => .misuse

/-- The request that some arguments make. -/
def Request.ofArguments (arguments : List String) : Request := readArguments .empty arguments

example : Request.ofArguments ["g", "-nq", "out"] = .generate ⟨"g", "out", "q", false⟩ := by
  decide +kernel
example : Request.ofArguments ["--main", "--", "-n", "out"] =
    .generate ⟨"-n", "out", "parser", true⟩ := by decide +kernel
example : Request.ofArguments ["g", "out", "-n", "a", "--name=b"] = .misuse := by decide +kernel

end AttributeGrammar.CommandLine
