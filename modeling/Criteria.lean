import Criteria.FileTree
import Criteria.Main
import Criteria.Workbench
import Criteria.Proofs.Encoding
import Criteria.Proofs.Rendering
import Criteria.Proofs.Replay
import Criteria.Proofs.Protocol
import Criteria.Proofs.InPlace
import Criteria.Proofs.Observation
import Criteria.Proofs.Admission
import Criteria.Proofs.Generation
import Criteria.Proofs.Deltas
import Criteria.Proofs.Snapshot
import Criteria.Proofs.Suite
import Criteria.Proofs.Redefinition
import Criteria.Proofs.Completeness
import Criteria.Proofs.Listings
import Criteria.Proofs.Plan
import Criteria.Proofs.LogLines
import Criteria.Proofs.Addition
import Criteria.Proofs.SuiteLog
import Criteria.Proofs.Joining
import Criteria.Proofs.Spelling
import Criteria.Proofs.Noninterference
import Criteria.Proofs.Frame
import Criteria.Proofs.Trimming
import Criteria.Proofs.Repetition
import Criteria.Proofs.Loading
import Criteria.Proofs.PushLog
import Criteria.Proofs.Refusals
import Criteria.Proofs.Columns
import Criteria.Proofs.Failures
