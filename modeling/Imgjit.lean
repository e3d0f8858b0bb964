import Imgjit.Core.CppTypes
import Imgjit.Core.Image
import Imgjit.Core.ImageBuffer
import Imgjit.Core.OpChain
import Imgjit.Core.ChainRoundTrip
import Imgjit.Core.ParamConversions
import Imgjit.Core.KernelKey
import Imgjit.Core.KeyEncoding
import Imgjit.Cpu.CpuBackend
import Imgjit.Cpu.Ops
import Imgjit.Cpu.ImageViews
import Imgjit.Cpu.GaussianBlur
import Imgjit.Cuda.BackendRuns
import Imgjit.Cuda.CudaBackend
import Imgjit.Cuda.Device
import Imgjit.Cuda.IntArithmetic
import Imgjit.Cuda.Indexable
import Imgjit.Cuda.IntRanges
import Imgjit.Cuda.IntOverflow
import Imgjit.Cuda.KernelCache
import Imgjit.Cuda.LaunchArguments
import Imgjit.Cuda.LaunchShape
import Imgjit.Cuda.JobIsolation
import Imgjit.Cuda.NaiveProgram
import Imgjit.Cuda.Refusals
import Imgjit.Cuda.SourceKey
import Imgjit.Cuda.StreamOrder
import Imgjit.Cuda.TiledLaunch
import Imgjit.Cuda.TiledStage
import Imgjit.Cuda.EveryProgram
import Imgjit.Cuda.PixelRuns
import Imgjit.Cuda.OwnershipRuns
import Imgjit.Util.QueueMonitor
import Imgjit.Util.SlotTables
import Imgjit.Util.SlotMonitor
import Imgjit.Net.Client
import Imgjit.Net.ClientRuns
import Imgjit.Net.ClientReceive
import Imgjit.Net.Protocol
import Imgjit.Library.FixedLayout
import Imgjit.Net.HeaderLayout
import Imgjit.Net.Framing
import Imgjit.Net.ReaderLoop
import Imgjit.Net.Server
import Imgjit.Net.ServerDelivery
import Imgjit.Net.ServerPixels
import Imgjit.Net.Lifecycle
import Imgjit.Net.OutboxGrowth
import Imgjit.Net.Progress
import Imgjit.Net.Shutdown
import Imgjit.Net.Writer
import Imgjit.Net.SlotRaces
import Imgjit.Net.CudaConversation
import Imgjit.Cuda.CallsEnd
import Imgjit.Cuda.FaultlessRuns
