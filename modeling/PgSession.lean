import PgSession.Bus
import PgSession.Config.Endpoint
import PgSession.Config.Environment
import PgSession.Config.Settings
import PgSession.Config.Url
import PgSession.Digest.Md5
import PgSession.Error
import PgSession.Log
import PgSession.Message.Backend
import PgSession.Message.Fields
import PgSession.Message.Frontend
import PgSession.Message.Notice
import PgSession.Message.Tag
import PgSession.Message.Violation
import PgSession.Network.Caller
import PgSession.Network.Dial
import PgSession.Network.Path
import PgSession.Network.Socket
import PgSession.Proofs.Acceptance
import PgSession.Proofs.AcceptedFrames
import PgSession.Proofs.Actions
import PgSession.Proofs.BodyReaders
import PgSession.Proofs.BufferDemands
import PgSession.Proofs.BufferExtent
import PgSession.Proofs.BufferGrowth
import PgSession.Proofs.BufferReading
import PgSession.Proofs.BufferReads
import PgSession.Proofs.BufferRefinement
import PgSession.Proofs.BufferRegion
import PgSession.Proofs.BufferReuse
import PgSession.Proofs.BufferSafety
import PgSession.Proofs.BufferUpkeep
import PgSession.Proofs.BufferUses
import PgSession.Proofs.BufferWriting
import PgSession.Proofs.Cancellation
import PgSession.Proofs.Conduct
import PgSession.Proofs.Contracts
import PgSession.Proofs.Courses
import PgSession.Proofs.Dealings
import PgSession.Proofs.Deeds
import PgSession.Proofs.Delivery
import PgSession.Proofs.Drain
import PgSession.Proofs.EnvironmentFallback
import PgSession.Proofs.EnvironmentOverrides
import PgSession.Proofs.EventBus
import PgSession.Proofs.ExactReception
import PgSession.Proofs.FailureReports
import PgSession.Proofs.FramedWriting
import PgSession.Proofs.Frames
import PgSession.Proofs.HandshakeBounds
import PgSession.Proofs.HandshakeLanguage
import PgSession.Proofs.Happenings
import PgSession.Proofs.HostAssignment
import PgSession.Proofs.Insertion
import PgSession.Proofs.Lifecycle
import PgSession.Proofs.Lockstep
import PgSession.Proofs.Loops
import PgSession.Proofs.MessageGrammar
import PgSession.Proofs.MessageReads
import PgSession.Proofs.Narration
import PgSession.Proofs.NoticeLogging
import PgSession.Proofs.Numbers
import PgSession.Proofs.Plaintext
import PgSession.Proofs.Receptions
import PgSession.Proofs.Replies
import PgSession.Proofs.ReportTexts
import PgSession.Proofs.RoutineInvariants
import PgSession.Proofs.Routines
import PgSession.Proofs.Runs
import PgSession.Proofs.SaltedAnswer
import PgSession.Proofs.Secrecy
import PgSession.Proofs.Separators
import PgSession.Proofs.SessionGrowth
import PgSession.Proofs.SessionKnowledge
import PgSession.Proofs.SessionRefinement
import PgSession.Proofs.SessionSafety
import PgSession.Proofs.StageReports
import PgSession.Proofs.StageSteps
import PgSession.Proofs.StartupReading
import PgSession.Proofs.StartupTexts
import PgSession.Proofs.Steps
import PgSession.Proofs.Termination
import PgSession.Proofs.TextFields
import PgSession.Proofs.TextRoundTrip
import PgSession.Proofs.TickAlignment
import PgSession.Proofs.Trace
import PgSession.Proofs.Transparency
import PgSession.Proofs.Twins
import PgSession.Proofs.Unbuffered
import PgSession.Proofs.UrlGrammar
import PgSession.Proofs.UrlReading
import PgSession.Proofs.UrlRoundTrip
import PgSession.Proofs.UrlSettings
import PgSession.Proofs.UrlSpelling
import PgSession.Proofs.Utterances
import PgSession.Session.Cancel
import PgSession.Session.Channel
import PgSession.Session.Client
import PgSession.Session.Established
import PgSession.Session.Handshake
import PgSession.Session.Parameters
import PgSession.Session.Progress
import PgSession.Session.Receive
import PgSession.Session.State
import PgSession.Text.Decimal
import PgSession.Text.Hex
import PgSession.Text.Percent
import PgSession.Text.Printable
import PgSession.Text.Split
import PgSession.Text.Utf8
import PgSession.Transport
import PgSession.Transport.Script
import PgSession.Wire.Buffer
import PgSession.Wire.Buffer.Operation
import PgSession.Wire.Item
import PgSession.Wire.Reader
import PgSession.Wire.Word
