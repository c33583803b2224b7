import CoverageDiff.Blueprint
import CoverageDiff.Cobertura.Writer
import CoverageDiff.Main
import CoverageDiff.Matching
import CoverageDiff.Session
import CoverageDiff.KeyedSession
import CoverageDiff.Proofs.Shelf
import CoverageDiff.Proofs.WellFormed
import CoverageDiff.Proofs.Matching
import CoverageDiff.Proofs.Reachable
import CoverageDiff.Proofs.Dictionary
import CoverageDiff.Proofs.Calls
import CoverageDiff.Proofs.KeyedTree
import CoverageDiff.Proofs.KeyedSession
import CoverageDiff.Proofs.View
import CoverageDiff.Proofs.Discrepancy
import CoverageDiff.Proofs.ReportOrder
import CoverageDiff.Proofs.Equivalence
import CoverageDiff.Proofs.Merging
import CoverageDiff.Proofs.MergeLaws
import CoverageDiff.Proofs.Description
import CoverageDiff.Proofs.Duality
import CoverageDiff.Proofs.Refusal
import CoverageDiff.Proofs.Filing
import CoverageDiff.Proofs.Reading
import CoverageDiff.Proofs.Regular
import CoverageDiff.Proofs.Regrouping
import CoverageDiff.Proofs.Numeral
import CoverageDiff.Proofs.RoundTrip
import CoverageDiff.Proofs.Faithful
import CoverageDiff.Proofs.Selection
import CoverageDiff.Proofs.Balance
import CoverageDiff.Proofs.Insertion
import CoverageDiff.Proofs.InsertionOrder
import CoverageDiff.Proofs.Words
import CoverageDiff.Proofs.Grammar
import CoverageDiff.Proofs.Faults
import CoverageDiff.Proofs.Counts
import CoverageDiff.Proofs.Qualified
import CoverageDiff.Proofs.Coverage
import CoverageDiff.Proofs.Aggregation
import CoverageDiff.Proofs.Payload
import CoverageDiff.Proofs.FileTree
import CoverageDiff.Proofs.ExitStatus
import CoverageDiff.Proofs.Output
import CoverageDiff.Proofs.Loaded
import CoverageDiff.Proofs.Overwriting
import CoverageDiff.Proofs.RepeatedKeys
import CoverageDiff.Proofs.Filtering
import CoverageDiff.Proofs.Configuration
import CoverageDiff.Proofs.Rows
import CoverageDiff.Proofs.Growth
import CoverageDiff.Proofs.Explanation
import CoverageDiff.Proofs.PatternSets
import CoverageDiff.Proofs.Listing
import CoverageDiff.Proofs.Partition
import CoverageDiff.Proofs.Statuses
import CoverageDiff.Proofs.Overriding
import CoverageDiff.Proofs.Rounding
import CoverageDiff.Proofs.DecimalText
import CoverageDiff.Proofs.Percentage
import CoverageDiff.Proofs.BranchLists
