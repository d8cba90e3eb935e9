import SeedCracking.Kernel.Multiplicity
import SeedCracking.Kernel.LaneTests
import SeedCracking.Blocks.Usable
import SeedCracking.Blocks.Ranking
import SeedCracking.Blocks.Truncation
import SeedCracking.Blocks.EarlyExit
import SeedCracking.Blocks.Schedule
import SeedCracking.Blocks.Partial
import SeedCracking.Blocks.WorldSeed
import SeedCracking.Blocks.Veins
import SeedCracking.Collector.Filter
import SeedCracking.Collector.Border
import SeedCracking.Collector.Snapshot
import SeedCracking.Collector.Isolation
import SeedCracking.Collector.Calls
import SeedCracking.Collector.Duplicates
import SeedCracking.Collector.Start
import SeedCracking.Collector.Stop
import SeedCracking.Collector.Marshal
import SeedCracking.Jni.SendUpdate
import SeedCracking.Jni.Delivery
import SeedCracking.Jni.Native
import SeedCracking.Jni.Recovery
import SeedCracking.Jni.Process
