import Passbook.Session
import Passbook.Statement

/-! # Session plans

A plan holds everything a session needs: whose account is opened with which balance, what is done
to it, what happens to withdrawals above the balance, and where statements go. Statements are
written only after the session came to its end.
-/
namespace Passbook

open Text

structure StatementSettings where
  outputPath : String
  formats : List StatementFormat
deriving DecidableEq, Repr

structure Plan where
  owner : String
  number : String
  initialBalance : Decimal
  operations : List Operation
  policy : Policy
  statement : Option StatementSettings
deriving DecidableEq, Repr

/-- A completed session and the statement files written after it. -/
structure Report where
  summary : Summary
  statementFiles : List String

/-- What carrying out a plan leaves behind. -/
structure Execution where
  result : Except BankError Report
  tree : FileTree
  console : List String := []
  events : List Event := []

namespace Plan

def account (p : Plan) : Account := { owner := p.owner, number := p.number, balance := p.initialBalance }

def announcement (p : Plan) : Event :=
  ⟨.info, "🏦 Opening account " ++ p.number ++ " for " ++ p.owner ++ " with " ++
    digitsText p.operations.length ++ " operation(s)"⟩

def completion (s : Summary) : Event :=
  ⟨.info, "✅ Applied " ++ digitsText s.applied ++ " operation(s), rejected " ++
    digitsText s.rejected.length ++ "; final balance " ++ s.finalBalance.text⟩

/-- The statements of an account under the plan's settings. -/
def writeStatements (p : Plan) (a : Account) (tree : FileTree) : Statement.Exported :=
  match p.statement with
  | none => ⟨tree, .ok [], []⟩
  | some settings => Statement.exportTo settings.outputPath a tree settings.formats

def execute (clock : Clock) (tree : FileTree) (p : Plan) : Execution :=
  let run := Session.run clock p.policy p.account p.operations
  let opening := p.announcement :: p.account.opened :: run.events
  match run.outcome with
  | .error e => { result := .error e, tree := tree, console := run.console, events := opening }
  | .ok summary =>
    let exported := p.writeStatements run.account tree
    { result := exported.result.map fun files => ⟨summary, files⟩
      tree := exported.tree
      console := run.console
      events := opening ++ completion summary :: exported.events }

end Plan

end Passbook
