import RustFerry.Spec.AppEvents
import RustFerry.Spec.ArtifactScan
import RustFerry.Spec.DataPlaneRoundtrip
import RustFerry.Spec.DigestPreimages
import RustFerry.Spec.FieldRanges
import RustFerry.Spec.JobCleanup
import RustFerry.Spec.LogBuffer
import RustFerry.Spec.LogLines
import RustFerry.Spec.RedactionCorrect
import RustFerry.Spec.RunLookup
import RustFerry.Spec.SecretScans
import RustFerry.Spec.ProvisioningExport
import RustFerry.Spec.KeychainWorkers
import RustFerry.Spec.ProtectedSigning
import RustFerry.Spec.SigningFrames
import RustFerry.Spec.SliceOrder
import RustFerry.Spec.ProtocolPaths
import RustFerry.Spec.IpaAliases
import RustFerry.Spec.ManifestTree
import RustFerry.Spec.SourceSelection
import RustFerry.Spec.SourceTransport
import RustFerry.Spec.StreamCuts
import RustFerry.Spec.JobReservation
import RustFerry.Spec.Storage
import RustFerry.Spec.Migration
import RustFerry.Spec.RevisionPublication
import RustFerry.Spec.CertificateExpiration
import RustFerry.Spec.VerifiedCopy
import RustFerry.Spec.WorkerJobHonest
import RustFerry.Spec.ReceiptPhase
import RustFerry.Spec.SessionPeers
import RustFerry.Spec.WorkerStdio
import RustFerry.Spec.ArtifactContext
import RustFerry.Spec.GitEndpoints
