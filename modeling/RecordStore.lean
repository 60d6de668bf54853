import RecordStore.Client
import RecordStore.Criteria.Pipeline
import RecordStore.Criteria.Reading
import RecordStore.Migration.Runner
import RecordStore.Payload.Json
import RecordStore.Proofs.CurrentVersion
import RecordStore.Proofs.Course
import RecordStore.Proofs.Deletion
import RecordStore.Proofs.InstantText
import RecordStore.Proofs.LogRequest
import RecordStore.Proofs.Refinement
import RecordStore.Proofs.Uniqueness
import RecordStore.Proofs.World
import RecordStore.Records.Amount
import RecordStore.Records.Blob
import RecordStore.Records.Event
import RecordStore.Records.Measurement
import RecordStore.Records.NamedRow
import RecordStore.Records.Product
import RecordStore.Records.User
import RecordStore.Repository
import RecordStore.Script
import RecordStore.ServerFailure
import RecordStore.Settings.Lookup
import RecordStore.Settings.Reading
import RecordStore.Proofs.Ledger
import RecordStore.Proofs.ApplyOnce
import RecordStore.Proofs.History
import RecordStore.Proofs.FieldUpdate
import RecordStore.Proofs.Paging
import RecordStore.Proofs.SearchForm
import RecordStore.Proofs.Insertion
import RecordStore.Proofs.Search
import RecordStore.Proofs.Clauses
import RecordStore.Proofs.Columns
import RecordStore.Proofs.DecimalStorage
import RecordStore.Proofs.Priority
import RecordStore.Proofs.Assignment
import RecordStore.Proofs.Overwriting
import RecordStore.Proofs.FirstMatch
import RecordStore.Proofs.Fusion
import RecordStore.Proofs.DecimalLoading
import RecordStore.Proofs.Reversal
import RecordStore.Proofs.SortedScan
import RecordStore.Proofs.Appending
import RecordStore.Proofs.Submission
import RecordStore.Proofs.Retrying
import RecordStore.Proofs.Variables
import RecordStore.Proofs.LogStorage
import RecordStore.Proofs.Connecting
import RecordStore.Proofs.MixedColumns
import RecordStore.Proofs.Forms
import RecordStore.Proofs.SearchPayload
