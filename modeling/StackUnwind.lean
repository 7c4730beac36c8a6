import StackUnwind.Text
import StackUnwind.Handler.Builder
import StackUnwind.Machine.SavedContext
import StackUnwind.StackMap.Encode
import StackUnwind.CallFrame.Section
import StackUnwind.Settings
import StackUnwind.Episode.Statistics
import StackUnwind.Episode.Profile
import StackUnwind.Code.Classifier
import StackUnwind.Traceback
import StackUnwind.Deopt
import StackUnwind.Engine
import StackUnwind.Report
import StackUnwind.Proofs.HandlerRoundTrip
import StackUnwind.Proofs.StackMapGrammar
import StackUnwind.Proofs.StackMapRoundTrip
import StackUnwind.Proofs.RegionLookup
import StackUnwind.Proofs.ValueFaults
import StackUnwind.Proofs.CapturedUnwinding
import StackUnwind.Proofs.Passage
import StackUnwind.Proofs.ReturnOffset
import StackUnwind.Proofs.TableFaults
import StackUnwind.Proofs.InnermostHandler
import StackUnwind.Proofs.LogicalFrames
import StackUnwind.Proofs.CleanupEpisode
import StackUnwind.Proofs.WalkAgreement
import StackUnwind.Proofs.LandingSafety
import StackUnwind.Proofs.StackMapFormat
import StackUnwind.Proofs.StepFaults
import StackUnwind.Proofs.EpisodeOutcome
import StackUnwind.Proofs.SessionHistory
import StackUnwind.Proofs.FailedUnwind
import StackUnwind.Proofs.Reanchoring
import StackUnwind.Proofs.SplicedWalk
import StackUnwind.Proofs.Consumption
import StackUnwind.Proofs.CallSiteLookup
import StackUnwind.Proofs.Lockstep
import StackUnwind.Proofs.TracebackLimit
import StackUnwind.Proofs.Reraise
import StackUnwind.Proofs.ValidatedPads
import StackUnwind.Proofs.ChainBudget
import StackUnwind.Proofs.LocalsRead
import StackUnwind.Proofs.DeferredFinalization
import StackUnwind.Proofs.RegionRegistration
import StackUnwind.Proofs.StackMapTruncation
import StackUnwind.Proofs.CallFrameRows
import StackUnwind.Proofs.LiveStepping
import StackUnwind.Proofs.RegisterOrigins
import StackUnwind.Proofs.RowApplication
import StackUnwind.Proofs.SectionIndex
import StackUnwind.Proofs.UndefinedRegisters
import StackUnwind.Proofs.PromotionCounts
import StackUnwind.Proofs.ChainGuard
import StackUnwind.Proofs.ShadowRuns
import StackUnwind.Proofs.HeaderGrammar
import StackUnwind.Proofs.RecordIndex
import StackUnwind.Proofs.RecordLookup
import StackUnwind.Proofs.SessionTimes
