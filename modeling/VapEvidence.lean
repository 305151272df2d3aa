import VapEvidence.AdmissionAssessment
import VapEvidence.AdmissionReplacement
import VapEvidence.AdmissionSafety
import VapEvidence.Answers
import VapEvidence.Assessor
import VapEvidence.AssessorErasure
import VapEvidence.AssessorEvidence
import VapEvidence.AssessorInput
import VapEvidence.AssessorPublication
import VapEvidence.AssessorReading
import VapEvidence.AssessorResponses
import VapEvidence.AssessorTransfer
import VapEvidence.AuthorizationGate
import VapEvidence.Base64
import VapEvidence.BoundedJson
import VapEvidence.Bytes
import VapEvidence.CanonicalAgreement
import VapEvidence.CanonicalBinding
import VapEvidence.CollectionCustody
import VapEvidence.CollectionSafety
import VapEvidence.CollectionSizes
import VapEvidence.CollectionStore
import VapEvidence.CollectorCalls
import VapEvidence.CollectorGateway
import VapEvidence.CollectorMessages
import VapEvidence.CollectorReceipts
import VapEvidence.CollectorSafety
import VapEvidence.CollectorStore
import VapEvidence.CollectorStoreSafety
import VapEvidence.CollectorTransactions
import VapEvidence.CompactJson
import VapEvidence.CustodyHistory
import VapEvidence.CustodyPackages
import VapEvidence.CustodyPrograms
import VapEvidence.CustodyRecords
import VapEvidence.CustodySafety
import VapEvidence.DateTime
import VapEvidence.Decision
import VapEvidence.Delimited
import VapEvidence.EditorReplay
import VapEvidence.EditorRoundTrip
import VapEvidence.EditorSession
import VapEvidence.ErasureJournal
import VapEvidence.ErasureProvider
import VapEvidence.ErasureReview
import VapEvidence.ErasureSafety
import VapEvidence.ErasureTask
import VapEvidence.EvidenceMonotone
import VapEvidence.EvidencePack
import VapEvidence.EvidenceVerdicts
import VapEvidence.Fallible
import VapEvidence.Fence
import VapEvidence.FixedFields
import VapEvidence.GateAudit
import VapEvidence.GateAuditLog
import VapEvidence.GateAuditSafety
import VapEvidence.GateCommon
import VapEvidence.Histories
import VapEvidence.IncidentEnvelopes
import VapEvidence.IncidentValues
import VapEvidence.InsertionOrder
import VapEvidence.Interleaving
import VapEvidence.JournalCalls
import VapEvidence.JournalSafety
import VapEvidence.JsonDistinct
import VapEvidence.JsonFields
import VapEvidence.JsonNesting
import VapEvidence.JsonRoundTrip
import VapEvidence.JsonScan
import VapEvidence.JsonSizes
import VapEvidence.JsonText
import VapEvidence.JsonTokens
import VapEvidence.JsonValue
import VapEvidence.KeyOrder
import VapEvidence.ListExtends
import VapEvidence.MerkleInclusion
import VapEvidence.MerkleTree
import VapEvidence.PackBinding
import VapEvidence.PackDecision
import VapEvidence.PackNode
import VapEvidence.PackPython
import VapEvidence.PaymentBinding
import VapEvidence.PaymentConservation
import VapEvidence.PaymentEvidence
import VapEvidence.PaymentFence
import VapEvidence.PaymentInvariant
import VapEvidence.PaymentPrograms
import VapEvidence.PaymentReceipt
import VapEvidence.PaymentReplay
import VapEvidence.PaymentRequest
import VapEvidence.PaymentRuns
import VapEvidence.PaymentSafety
import VapEvidence.PaymentSteps
import VapEvidence.PaymentStores
import VapEvidence.PaymentSystem
import VapEvidence.PaymentTransactions
import VapEvidence.ProofRecheck
import VapEvidence.PublicationCalls
import VapEvidence.PublicationDecisions
import VapEvidence.PublicationEditor
import VapEvidence.PublicationGate
import VapEvidence.PublicationHtml
import VapEvidence.PublicationProhibition
import VapEvidence.PublicationSafety
import VapEvidence.PublicationStore
import VapEvidence.RecheckArchive
import VapEvidence.RecheckRoundTrip
import VapEvidence.RecheckSafety
import VapEvidence.Recording
import VapEvidence.RenderedArticle
import VapEvidence.RetentionAssessment
import VapEvidence.RetentionSafety
import VapEvidence.ReviewCommon
import VapEvidence.ReviewDelivery
import VapEvidence.ReviewProjection
import VapEvidence.ScopeCompleteness
import VapEvidence.ScopeCore
import VapEvidence.ScopeCrypto
import VapEvidence.ScopeExperimental
import VapEvidence.ScopeInclusion
import VapEvidence.ScopeIsolation
import VapEvidence.SortedLists
import VapEvidence.StrictAgreement
import VapEvidence.StrictJson
import VapEvidence.StrictParse
import VapEvidence.StrictScalars
import VapEvidence.Transaction
import VapEvidence.TransferAuthorization
import VapEvidence.UniqueTable
import VapEvidence.UploadCalls
import VapEvidence.UploadGateway
import VapEvidence.UploadJournal
import VapEvidence.UploadReceiver
import VapEvidence.UploadSafety
import VapEvidence.UploadStore
import VapEvidence.UrlEncoded
import VapEvidence.VerifierAgreement
import VapEvidence.VerifyNode
import VapEvidence.VerifyPython
import VapEvidence.WalletAdmission
import VapEvidence.WalletEvidence
