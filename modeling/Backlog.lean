import Backlog.Batch.Json
import Backlog.Main
import Backlog.Proofs.BatchRun
import Backlog.Proofs.BodyHeadings
import Backlog.Storage.Tree
import Backlog.Proofs.BatchEnd
import Backlog.Proofs.JsonForms
import Backlog.Proofs.CommandFlags
import Backlog.Proofs.OptIn
import Backlog.Proofs.TrackerExchange
import Backlog.Proofs.Preview
import Backlog.Proofs.PlanLabels
import Backlog.Proofs.HeaderFields
import Backlog.Proofs.Preamble
import Backlog.Proofs.LineEnds
import Backlog.Proofs.LabelText
import Backlog.Proofs.Repository
import Backlog.Proofs.Bytes
import Backlog.Proofs.Details
import Backlog.Proofs.Discovery
import Backlog.Proofs.Identifiers
import Backlog.Proofs.Lookup
import Backlog.Proofs.Counts
import Backlog.Proofs.PartialConfig
import Backlog.Proofs.LabelOrder
import Backlog.Proofs.SprintNumber
import Backlog.Proofs.SectionUpdates
import Backlog.Proofs.BodyLength
