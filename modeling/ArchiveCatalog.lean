import ArchiveCatalog.Artifact.Json
import ArchiveCatalog.Catalog
import ArchiveCatalog.Config.Environment
import ArchiveCatalog.Conformance.Database
import ArchiveCatalog.Conformance.Suite
import ArchiveCatalog.Proofs.MapLookup
import ArchiveCatalog.Proofs.TableInvariant
import ArchiveCatalog.Proofs.TableReachability
import ArchiveCatalog.Proofs.LiveArtifacts
import ArchiveCatalog.Proofs.DigitRoundTrip
import ArchiveCatalog.Proofs.JsonRoundTrip
import ArchiveCatalog.Proofs.CalendarRoundTrip
import ArchiveCatalog.Proofs.InstantRoundTrip
import ArchiveCatalog.Proofs.RecordCodec
import ArchiveCatalog.Proofs.StoredRecords
import ArchiveCatalog.Proofs.StoreInvariant
import ArchiveCatalog.Proofs.StoreOpening
import ArchiveCatalog.Proofs.StoreInStep
import ArchiveCatalog.Proofs.Recovery
import ArchiveCatalog.Proofs.LostReplies
import ArchiveCatalog.Proofs.Deletion
import ArchiveCatalog.Proofs.Interleaving
import ArchiveCatalog.Proofs.SoleInsertion
import ArchiveCatalog.Proofs.SameAnswers
import ArchiveCatalog.Proofs.LeftoverRecords
import ArchiveCatalog.Proofs.Admission
import ArchiveCatalog.Proofs.Repetition
import ArchiveCatalog.Proofs.Reindexing
import ArchiveCatalog.Proofs.SchemaGate
import ArchiveCatalog.Proofs.TextRoundTrip
import ArchiveCatalog.Proofs.IndependentChanges
import ArchiveCatalog.Proofs.CallInvariants
import ArchiveCatalog.Proofs.Waiting
import ArchiveCatalog.Proofs.StoreSession
import ArchiveCatalog.Proofs.TextOrder
import ArchiveCatalog.Proofs.ListingOrder
import ArchiveCatalog.Proofs.RangeScan
import ArchiveCatalog.Proofs.LatestVersions
import ArchiveCatalog.Proofs.Queries
import ArchiveCatalog.Proofs.SearchAcrossAus
import ArchiveCatalog.Proofs.SizeTotals
import ArchiveCatalog.Proofs.StartPatterns
import ArchiveCatalog.Proofs.BoundedRetry
import ArchiveCatalog.Proofs.LostInsertion
import ArchiveCatalog.Proofs.SizeOverflow
import ArchiveCatalog.Proofs.OrderRecognition
import ArchiveCatalog.Proofs.LatestSelection
import ArchiveCatalog.Proofs.Launching
import ArchiveCatalog.Proofs.SizeChanges
