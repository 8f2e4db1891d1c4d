import Passbook.CommandLine.Reader
import Passbook.SessionFile

/-! # The program

A run of the program is a function of its arguments, the environment, the file tree and the
clocks. It ends with an exit status, the console lines on standard output, log lines and notices
on standard error, and the tree with the statements in it. The logging settings decide only what
standard error shows.
-/
namespace Passbook.Program

open Text

/-- What goes to standard error: log events, and lines that are always shown. -/
inductive Note
  | event (e : Event)
  | line (s : String)
deriving DecidableEq, Repr

def info (message : String) : Note := .event ⟨.info, message⟩

def error (message : String) : Note := .event ⟨.error, message⟩

structure Logging where
  verbose : Bool
  json : Bool
deriving DecidableEq, Repr

structure Performance where
  failure : Option BankError := none
  console : List String := []
  notes : List Note := []
  tree : FileTree
  logging : Logging

structure Outcome where
  exitCode : Nat
  stdout : String
  stderr : String
  tree : FileTree

def failureNotes (e : BankError) : List Note :=
  [ error ("❌ Session failed: " ++ e.message ++ " (Category: " ++ e.category.name ++
      ", Severity: " ++ e.severity.name ++ ")"),
    error ("💡 Recovery suggestion: " ++ e.suggestion),
    .line ("❌ " ++ e.friendly),
    .line ("💡 " ++ e.suggestion) ]

def reportNotes (r : Report) : List Note :=
  (r.summary.rejected.map fun e => .line ("⚠️ " ++ e.friendly)) ++
    r.statementFiles.map fun path => info ("📁 Statement written: " ++ path)

def refused (tree : FileTree) (logging : Logging) (notes : List Note) (e : BankError) : Performance :=
  { failure := some e, notes := notes ++ failureNotes e, tree := tree, logging := logging }

def carryOut (clock : Clock) (tree : FileTree) (logging : Logging) (notes : List Note)
    (validated : Except BankError (List Event)) (plan : Except BankError Plan) : Performance :=
  match validated with
  | .error e => refused tree logging notes e
  | .ok warnings =>
    let notes := notes ++ warnings.map .event
    match plan with
    | .error e => refused tree logging notes e
    | .ok plan =>
      let execution := plan.execute clock tree
      let notes := notes ++ execution.events.map .event
      match execution.result with
      | .error e =>
        { failure := some e, console := execution.console, notes := notes ++ failureNotes e
          tree := execution.tree, logging := logging }
      | .ok report =>
        { console := execution.console, notes := notes ++ reportNotes report
          tree := execution.tree, logging := logging }

def greeting (logging : Logging) (o : Options) : List Note :=
  info "Starting small-bank CLI" ::
    if logging.verbose then [.event ⟨.debug, "CLI config: " ++ o.description⟩] else []

def withOptions (clock : Clock) (tree : FileTree) (o : Options) : Performance :=
  let logging : Logging := ⟨o.verbose, o.jsonLogs⟩
  carryOut clock tree logging (greeting logging o) o.validate o.plan

def withFile (clock : Clock) (env : Environment) (tree : FileTree) (o : Options) (path : String) :
    Performance :=
  match SessionFile.loadFile env tree path with
  | .error e =>
    refused tree ⟨o.verbose, false⟩
      [error ("❌ Failed to load config file '" ++ path ++ "': " ++ e.message)] e
  | .ok file =>
    let logging : Logging := ⟨o.verbose || file.verbose, o.jsonLogs || file.jsonLogs⟩
    carryOut clock tree logging
      (greeting logging o ++ [info ("📁 Using session file: " ++ path)]) file.validate file.plan

def perform (clock : Clock) (env : Environment) (tree : FileTree) (o : Options) : Performance :=
  match o.config with
  | some path => withFile clock env tree o path
  | none => withOptions clock tree o

def filterVariable : String := "RUST_LOG"

def filter (env : Environment) (logging : Logging) : Filter :=
  ((env filterVariable).bind Filter.read?).getD (Filter.standard logging.verbose)

def shown (f : Filter) (json : Bool) (now : Instant) : Note → Option String
  | .line s => some s
  | .event e =>
    if f.shows e then some (if json then e.jsonLine now else e.plainLine now) else none

def noteLines (f : Filter) (json : Bool) (now : Clock) (notes : List Note) : List String :=
  notes.zipIdx.filterMap fun n => shown f json (now n.2) n.1

def unlines (lines : List String) : String := String.join (lines.map (· ++ "\n"))

def exitCode : Option BankError → Nat
  | some e => e.exitCode
  | none => 0

/-- The outcome of a run; `now` times its log lines. -/
def Performance.outcome (env : Environment) (now : Clock) (p : Performance) : Outcome where
  exitCode := Program.exitCode p.failure
  stdout := unlines p.console
  stderr := unlines (noteLines (filter env p.logging) p.logging.json now p.notes)
  tree := p.tree

/-- A command line that stops the program: help goes to standard output, the rest to standard
error. -/
def stopped (tree : FileTree) (s : CommandLine.Stop) : Outcome where
  exitCode := s.exitCode
  stdout := match s with
    | .help => unlines [s.message]
    | _ => ""
  stderr := match s with
    | .help => ""
    | _ => unlines [s.message]
  tree := tree

/-- The program with parsed options; `clock` times transactions and `now` log lines. -/
def run (clock now : Clock) (env : Environment) (tree : FileTree) (o : Options) : Outcome :=
  (perform clock env tree o).outcome env now

end Passbook.Program
