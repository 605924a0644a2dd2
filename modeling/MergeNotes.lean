import MergeNotes.Git.InMemory
import MergeNotes.Main
import MergeNotes.Proofs.Document
import MergeNotes.Proofs.Plan
import MergeNotes.Proofs.InMemory
import MergeNotes.Proofs.Recording
import MergeNotes.Proofs.Repetition
import MergeNotes.Proofs.Shared
import MergeNotes.Proofs.Protocol
import MergeNotes.Proofs.Log
import MergeNotes.Proofs.Untouched
import MergeNotes.Proofs.Series
import MergeNotes.Proofs.Names
import MergeNotes.Proofs.Secrecy
import MergeNotes.Proofs.Blocks
import MergeNotes.Proofs.Extraction
import MergeNotes.Proofs.FirstLine
import MergeNotes.Proofs.Leftovers
import MergeNotes.Proofs.LineEndings
import MergeNotes.Proofs.Presence
import MergeNotes.Proofs.Report
import MergeNotes.Proofs.Payload
import MergeNotes.Proofs.Configuration
import MergeNotes.Proofs.Retries
import MergeNotes.Proofs.Seam
import MergeNotes.Proofs.Skipped
import MergeNotes.Proofs.Uncommitted
import MergeNotes.Proofs.CurrentBranch
import MergeNotes.Proofs.DefaultTemplates
import MergeNotes.Proofs.WorkflowOutput
import MergeNotes.Proofs.Faithful
import MergeNotes.Proofs.Scanner
import MergeNotes.Proofs.Arguments
import MergeNotes.Proofs.Confinement
import MergeNotes.Proofs.WorkflowLines
import MergeNotes.Proofs.Canonical
