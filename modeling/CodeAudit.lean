import CodeAudit.Data.Json.Reader
import CodeAudit.Data.Json.Writer
import CodeAudit.Text.Blank
import CodeAudit.Text.Compatibility
import CodeAudit.Text.Utf8
import CodeAudit.Data.Operations
import CodeAudit.Source.Token.Scan
import CodeAudit.Source.Node
import CodeAudit.Source.Reader
import CodeAudit.Source.Literal
import CodeAudit.Source.Parse
import CodeAudit.Source.Walk
import CodeAudit.Source.Complexity
import CodeAudit.Source.Heritage
import CodeAudit.Source.Lines
import CodeAudit.Audit.File
import CodeAudit.Audit.Project
import CodeAudit.Report.Enriched
import CodeAudit.Report.Plain
import CodeAudit.Audit.TestSuite
import CodeAudit.Site.Respond
import CodeAudit.Main
import CodeAudit.Proofs.Totals
import CodeAudit.Proofs.Contribution
import CodeAudit.Proofs.Standing
import CodeAudit.Proofs.Dependencies
import CodeAudit.Proofs.Conclusion
import CodeAudit.Proofs.Session
import CodeAudit.Proofs.Entries
import CodeAudit.Proofs.Additivity
import CodeAudit.Proofs.Resilience
import CodeAudit.Proofs.Conservation
import CodeAudit.Proofs.Traversal
import CodeAudit.Proofs.Source.Readers
import CodeAudit.Proofs.Source.Literals
import CodeAudit.Proofs.Source.Expressions
import CodeAudit.Proofs.Source.Patterns
import CodeAudit.Proofs.Source.Statements
import CodeAudit.Proofs.Source.Parsing
import CodeAudit.Proofs.Classes
import CodeAudit.Proofs.Listed
import CodeAudit.Proofs.Breakdowns
import CodeAudit.Proofs.Unraised
import CodeAudit.Proofs.Report.Lines
import CodeAudit.Proofs.Report.Plain
import CodeAudit.Proofs.Report.Critical
import CodeAudit.Proofs.Report.Enriched
import CodeAudit.Proofs.Report.Overview
import CodeAudit.Proofs.Editions
import CodeAudit.Proofs.Site.Effects
import CodeAudit.Proofs.Site.Isolation
import CodeAudit.Proofs.Site.Retention
import CodeAudit.Proofs.Site.Uploads
import CodeAudit.Proofs.Site.Viewing
import CodeAudit.Proofs.Walks
import CodeAudit.Proofs.Aftermath
import CodeAudit.Proofs.History
import CodeAudit.Proofs.Source.Outcomes
import CodeAudit.Proofs.Source.Remembering
import CodeAudit.Proofs.Source.Taken.Barren
import CodeAudit.Proofs.Source.Taken.Expressions
import CodeAudit.Proofs.Source.Taken.Statements
import CodeAudit.Proofs.Source.Pieces
import CodeAudit.Proofs.Source.Written
import CodeAudit.Proofs.Suite.Rows
import CodeAudit.Proofs.Suite.Accepted
import CodeAudit.Proofs.Lineage
import CodeAudit.Proofs.Protection
import CodeAudit.Proofs.Scans
import CodeAudit.Proofs.Suite.Composition
import CodeAudit.Proofs.Authorization
import CodeAudit.Proofs.Blocks
import CodeAudit.Proofs.Ciphers
import CodeAudit.Proofs.Bounds
import CodeAudit.Proofs.Report.Points
import CodeAudit.Proofs.Report.Figures
import CodeAudit.Proofs.Report.Thresholds
import CodeAudit.Proofs.Report.Worsening
import CodeAudit.Proofs.Report.Comments
import CodeAudit.Proofs.Report.Solutions
import CodeAudit.Proofs.Site.Storage
