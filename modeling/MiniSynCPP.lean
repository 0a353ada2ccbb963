import MiniSynCPP.Containers
import MiniSynCPP.Lines
import MiniSynCPP.Runs
import MiniSynCPP.Base
import MiniSynCPP.Subclasses
import MiniSynCPP.Steps
import MiniSynCPP.Cleanup
import MiniSynCPP.History
import MiniSynCPP.Soundness
import MiniSynCPP.Slopes
import MiniSynCPP.Tables
import MiniSynCPP.Lookups
import MiniSynCPP.Builds
import MiniSynCPP.Failures
import MiniSynCPP.Selection
import MiniSynCPP.Tightening
import MiniSynCPP.Signs
import MiniSynCPP.Repeats
import MiniSynCPP.Exchanges
import MiniSynCPP.Optimality
import MiniSynCPP.Comparison
import MiniSynCPP.Channels
import MiniSynCPP.Handshake
import MiniSynCPP.Beacons
import MiniSynCPP.Freshness
import MiniSynCPP.Compensation
import MiniSynCPP.Conversion
import MiniSynCPP.Extremes
import MiniSynCPP.VisitOrder
import MiniSynCPP.Leaks
import MiniSynCPP.Exclusion
import MiniSynCPP.Completion
import MiniSynCPP.Published
import MiniSynCPP.Sampling
import MiniSynCPP.Session
import MiniSynCPP.Endurance
import MiniSynCPP.Accuracy
import MiniSynCPP.Progress
import MiniSynCPP.Pacing
import MiniSynCPP.Loopback
import MiniSynCPP.Refinement
import MiniSynCPP.Decimals
import MiniSynCPP.Delimited
import MiniSynCPP.Export
import MiniSynCPP.Couplings
import MiniSynCPP.Images
import MiniSynCPP.Rescaling
import MiniSynCPP.Program
