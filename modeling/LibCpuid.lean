import LibCpuid.CoreTypes
import LibCpuid.SystemBounds
import LibCpuid.CacheCount
import LibCpuid.CacheSizes
import LibCpuid.DegradedCores
import LibCpuid.PositiveCounts
import LibCpuid.ApicIds
import LibCpuid.X86Levels
import LibCpuid.TotalInstances
import LibCpuid.ReportedLeaves
import LibCpuid.Arm.Armv9
import LibCpuid.Arm.Pauth
import LibCpuid.Dump.RoundTrip
import LibCpuid.Dump.Bounds
import LibCpuid.Dump.Reserialize
import LibCpuid.AffinityVariants
import LibCpuid.CpuListOutput
import LibCpuid.CpuListNames
import LibCpuid.Dump.Aida64
import LibCpuid.Signatures
import LibCpuid.RequestCoreType
import LibCpuid.AffinityMaskStr
import LibCpuid.MatchPattern
import LibCpuid.CodenameChoice
import LibCpuid.TscClock
import LibCpuid.EpcSections
import LibCpuid.Arm.Distinct
import LibCpuid.DeadEntries
import LibCpuid.ClockMeasure
import LibCpuid.Arm.DriverCapture
import LibCpuid.IdentifyAlike
import LibCpuid.Arm.DriverMrs
import LibCpuid.Replay
import LibCpuid.Msr
import LibCpuid.MsrRuns
import LibCpuid.MsrMultiplier
import LibCpuid.MsrDump
import LibCpuid.Tool.Runs
import LibCpuid.FeatureBits
