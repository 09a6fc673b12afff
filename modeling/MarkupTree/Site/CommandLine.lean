import MarkupTree.Site.Single
/-!
The command line: a command, its options in any of their notations, and one positional argument. The
first thing that is wrong, or that asks for help, decides.
-/

namespace MarkupTree.Site

inductive Command where
  | build (request : BuildRequest)
  | render (request : RenderRequest)

inductive Invocation where
  | run (command : Command)
  | help
  | version
  | misuse

namespace CommandLine

inductive Taken where
  | anyText
  | path
  | index
  deriving DecidableEq, Repr

structure Flag where
  short : Option Char
  long : String
  taken : Taken
  deriving DecidableEq, Repr

def Taken.accepts : Taken → String → Bool
  | .anyText, _ => true
  | .path, value => value != ""
  | .index, value => (Decimal.index? value.toList).isSome

structure Parsed where
  values : Fields String
  positional : Option String

structure Grammar where
  flags : List Flag
  positional : Taken

def outDirFlag : Flag := ⟨some 'o', "out-dir", .anyText⟩

def buildGrammar : Grammar := ⟨[outDirFlag], .anyText⟩

def renderGrammar : Grammar where
  flags := [⟨some 'c', "components", .path⟩, ⟨none, "context", .path⟩, ⟨some 'o', "out", .path⟩,
    ⟨none, "max-depth", .index⟩]
  positional := .path

inductive Ending where
  | parsed (parsed : Parsed)
  | help
  | misuse

/-- A value of an option; an option stands at most once. -/
def give (flag : Flag) (value : String) (parsed : Parsed) : Option Parsed :=
  if Fields.has parsed.values flag.long || !flag.taken.accepts value then none
  else some { parsed with values := parsed.values ++ [(flag.long, value)] }

def place (grammar : Grammar) (value : String) (parsed : Parsed) : Option Parsed :=
  if parsed.positional.isSome || !grammar.positional.accepts value then none
  else some { parsed with positional := some value }

inductive Argument where
  | endOfOptions
  | help
  | complete (flag : Flag) (value : String)
  | awaiting (flag : Flag)
  | positional (value : String)
  | unknown

def longArgument (grammar : Grammar) (name : List Char) (value : Option String) : Argument :=
  match grammar.flags.find? fun flag => flag.long.toList = name with
  | some flag =>
      match value with
      | some value => .complete flag value
      | none => .awaiting flag
  | none => if name = "help".toList ∧ value = none then .help else .unknown

def shortArgument (grammar : Grammar) (letter : Char) (rest : List Char) : Argument :=
  match grammar.flags.find? fun flag => flag.short = some letter with
  | some flag =>
      match rest with
      | [] => .awaiting flag
      | '=' :: value => .complete flag (String.ofList value)
      | value => .complete flag (String.ofList value)
  | none => if letter = 'h' then .help else .unknown

def classify (grammar : Grammar) (argument : String) : Argument :=
  match argument.toList with
  | ['-', '-'] => .endOfOptions
  | '-' :: '-' :: name =>
      match Text.cut? '=' name with
      | some (name, value) => longArgument grammar name (some (String.ofList value))
      | none => longArgument grammar name none
  | '-' :: letter :: rest => shortArgument grammar letter rest
  | _ => .positional argument

def isOptionLike (argument : String) : Bool :=
  match argument.toList with
  | '-' :: _ :: _ => true
  | _ => false

/-- Behind a pair of dashes every argument is positional. -/
def positionals (grammar : Grammar) (parsed : Parsed) : List String → Ending
  | [] => .parsed parsed
  | value :: rest =>
      match place grammar value parsed with
      | some next => positionals grammar next rest
      | none => .misuse

def read (grammar : Grammar) (parsed : Parsed) : List String → Ending
  | [] => .parsed parsed
  | argument :: rest =>
      match classify grammar argument with
      | .endOfOptions => positionals grammar parsed rest
      | .help => .help
      | .unknown => .misuse
      | .positional value =>
          match place grammar value parsed with
          | some next => read grammar next rest
          | none => .misuse
      | .complete flag value =>
          match give flag value parsed with
          | some next => read grammar next rest
          | none => .misuse
      | .awaiting flag =>
          match rest with
          | [] => .misuse
          | value :: behind =>
              if isOptionLike value then .misuse
              else
                match give flag value parsed with
                | some next => read grammar next behind
                | none => .misuse

def buildRequest (parsed : Parsed) : BuildRequest where
  path := parsed.positional.getD "."
  outDir := Fields.find? parsed.values outDirFlag.long

def renderRequest (parsed : Parsed) (page : String) : RenderRequest where
  page := page
  components := Fields.find? parsed.values "components"
  context := Fields.find? parsed.values "context"
  out := Fields.find? parsed.values "out"
  maxDepth := (Fields.find? parsed.values "max-depth").bind fun depth =>
    Decimal.index? depth.toList

def buildInvocation (arguments : List String) : Invocation :=
  match read buildGrammar ⟨[], none⟩ arguments with
  | .help => .help
  | .misuse => .misuse
  | .parsed parsed => .run (.build (buildRequest parsed))

def renderInvocation (arguments : List String) : Invocation :=
  match read renderGrammar ⟨[], none⟩ arguments with
  | .help => .help
  | .misuse => .misuse
  | .parsed parsed =>
      match parsed.positional with
      | some page => .run (.render (renderRequest parsed page))
      | none => .misuse

def helpInvocation : List String → Invocation
  | [] | ["build"] | ["render"] | ["help"] => .help
  | _ => .misuse

def invocation : List String → Invocation
  | [] => .misuse
  | "build" :: rest => buildInvocation rest
  | "render" :: rest => renderInvocation rest
  | "help" :: rest => helpInvocation rest
  | first :: _ =>
      if first = "--help" ∨ "-h".toList.isPrefixOf first.toList then .help
      else if first = "--version" ∨ "-V".toList.isPrefixOf first.toList then .version
      else .misuse

end CommandLine

def versionText : String := "breeze 0.1.0"

def usageText : String := "Usage: breeze <build [path] [-o DIR] | render <page> [options]>"

structure Finished where
  workspace : Workspace
  code : Nat

/-- The outcome of a command; pages that fail make a build fail. -/
def execute (files : FileTree) (here : Path) : Command → Workspace × Except CommandFault Unit
  | .render request => render files here request
  | .build request =>
      match build files here request with
      | (workspace, .error fault) => (workspace, .error fault)
      | (workspace, .ok summary) =>
          if summary.failed = 0 then (workspace, .ok ())
          else (workspace, .error (.failedPages summary.failed))

def finish : Workspace × Except CommandFault Unit → Finished
  | (workspace, .ok ()) => ⟨workspace, 0⟩
  | (workspace, .error fault) =>
      ⟨((workspace.complain "").complain ("Error: " ++ fault.message)).complain "", 1⟩

def runArguments (files : FileTree) (here : Path) (arguments : List String) : Finished :=
  let workspace : Workspace := { files := files }
  match CommandLine.invocation arguments with
  | .run command => finish (execute files here command)
  | .help => ⟨workspace.print usageText, 0⟩
  | .version => ⟨workspace.print versionText, 0⟩
  | .misuse => ⟨workspace.complain usageText, 2⟩

end MarkupTree.Site
