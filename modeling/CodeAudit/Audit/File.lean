/-
  CodeAudit.Audit.File
  ────────────────────
  **THE AUDIT OF ONE FILE.**

  The audit of a file is a list of steps: counters to raise, classes met,
  findings made, and perhaps a halt.  `Ledger.run` takes the steps in order.
  The first one that fails ends the audit; what was gathered before is kept,
  and a finding says why the audit ended.
-/
import CodeAudit.Audit.Checks
import CodeAudit.Audit.Metrics
import CodeAudit.Source.Complexity
import CodeAudit.Source.Heritage
import CodeAudit.Source.Lines
import CodeAudit.Source.Parse
import CodeAudit.Text.Utf8

namespace CodeAudit.Audit

open CodeAudit.Data CodeAudit.Source

/-! ## §1. Steps. -/

/-- What the linter answers for a file. -/
inductive LintReply where
  /-- It reports so many messages. -/
  | messages (count : Int)
  /-- It breaks down. -/
  | fails (reason : String)
  deriving DecidableEq, Repr

/-- One step of the audit of a file. -/
inductive Step where
  /-- Raise a counter. -/
  | count (c : Counter) (n : Int)
  /-- A counter has to be there. -/
  | need (c : Counter)
  /-- A class is met. -/
  | meet (c : Declared)
  /-- A finding is made. -/
  | find (f : Finding)
  /-- The audit ends for a reason. -/
  | halt (reason : String)

/-- The steps that raise counters. -/
def countSteps (counts : List (Counter × Int)) : List Step := counts.map fun (c, n) => .count c n

/-- The steps for the findings of one check at a node. -/
def checkSteps (k : Keywords) (lines : SourceLines) (n : Node) (c : Check) : List Step :=
  match c.run k lines n with
  | .ok found => found.map .find
  | .error e => [.halt e.message]

/-- The steps at a node: all checks, then the counters. -/
def nodeSteps (k : Keywords) (lines : SourceLines) (n : Node) : List Step :=
  Check.all.flatMap (checkSteps k lines n) ++ countSteps (structuralCounts n)

/-- The steps for the answer of the linter. -/
def lintSteps : LintReply → List Step
  | .messages n => [.count .lint n]
  | .fails reason => [.need .lint, .halt reason]

/-- The steps for the lines of a text. -/
def lineSteps (text : List Char) : List Step :=
  match Lines.count text with
  | .ok c => countSteps (lineCounts c)
  | .error line => [.halt (Lines.unfinished line)]

/-- The steps for a text that is a module. -/
def treeSteps (k : Keywords) (text : List Char) (tree : Node) : List Step :=
  countSteps (complexityCounts tree) ++ tree.declarations.map .meet
    ++ tree.walk.flatMap (nodeSteps k (SourceLines.of text))

/-- The steps for a text. -/
def textSteps (k : Keywords) (lint : LintReply) (text : List Char) : List Step :=
  match parse text with
  | .error flaw => [.halt flaw.clause]
  | .ok tree => treeSteps k text tree ++ lintSteps lint ++ lineSteps text

/-- The text of a file: its bytes decoded, every line ending a line feed. -/
def fileText (bytes : List UInt8) : Except Text.Utf8.Fault (List Char) :=
  (Text.Utf8.decode bytes).map Text.unifyNewlines

/-- The steps for a file. -/
def fileSteps (k : Keywords) (lint : LintReply) (bytes : List UInt8) : List Step :=
  match fileText bytes with
  | .error fault => [.halt fault.message]
  | .ok text => textSteps k lint text

/-! ## §2. The ledger. -/

/-- What an audit has gathered. -/
structure Ledger where
  metrics : Metrics
  heritage : Heritage
  findings : List Finding

namespace Ledger

/-- Take one step, or say why it fails. -/
def step (l : Ledger) : Step → Except String Ledger
  | .count c n =>
      match l.metrics.count c n with
      | .ok m => .ok { l with metrics := m }
      | .error e => .error e.message
  | .need c =>
      match l.metrics.get c.key with
      | .ok _ => .ok l
      | .error e => .error e.message
  | .meet c => .ok { l with heritage := l.heritage.meet c }
  | .find f => .ok { l with findings := l.findings ++ [f] }
  | .halt reason => .error reason

/-- Take steps up to the first one that fails; a failure becomes a finding. -/
def run (l : Ledger) : List Step → Ledger
  | [] => l
  | s :: rest =>
      match l.step s with
      | .ok l => l.run rest
      | .error reason => { l with findings := l.findings ++ [.failed reason] }

end Ledger

/-- Audit a file, adding to metrics and heritage. -/
def auditFile (k : Keywords) (lint : LintReply) (bytes : List UInt8) (m : Metrics) (h : Heritage) :
    Ledger :=
  Ledger.run ⟨m, h, []⟩ (fileSteps k lint bytes)

end CodeAudit.Audit
