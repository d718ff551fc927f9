import LiveRecord.Diagnostic
import LiveRecord.Executor.Scripted
import LiveRecord.Finding
import LiveRecord.Proofs.Adjustment
import LiveRecord.Proofs.DateColumns
import LiveRecord.Proofs.DenyList
import LiveRecord.Proofs.Idempotence
import LiveRecord.Proofs.Mirroring
import LiveRecord.Proofs.Protection
import LiveRecord.Proofs.Recovery
import LiveRecord.Proofs.Scopes
import LiveRecord.Proofs.Standing
import LiveRecord.Proofs.Unreported
import LiveRecord.Settings.Database
import LiveRecord.Proofs.SharedRow
import LiveRecord.Proofs.JsonText
import LiveRecord.Proofs.StructuredCast
import LiveRecord.Proofs.StorageForm
import LiveRecord.Proofs.Connections
import LiveRecord.Proofs.QueryText
import LiveRecord.Proofs.ShownValues
import LiveRecord.Proofs.Filling
import LiveRecord.Proofs.OwnRow
import LiveRecord.Proofs.CreationStamp
import LiveRecord.Proofs.Lookup
import LiveRecord.Proofs.Booting
import LiveRecord.Proofs.ChangeSet
import LiveRecord.Proofs.ExactAdjustment
import LiveRecord.Proofs.DayNumbers
import LiveRecord.Proofs.Spellings
import LiveRecord.Proofs.RestoredDates
import LiveRecord.Proofs.EncodedDates
import LiveRecord.Proofs.Retrying
import LiveRecord.Proofs.Forced
import LiveRecord.Proofs.Destruction
import LiveRecord.Proofs.Concealment
import LiveRecord.Proofs.InsertionText
import LiveRecord.Proofs.TypePaths
import LiveRecord.Proofs.DistinctColumns
