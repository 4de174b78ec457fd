import EmaczZephyr.Foundation.Runs
import EmaczZephyr.Foundation.Clocked
import EmaczZephyr.Foundation.Handshake
import EmaczZephyr.Foundation.Contexts
import EmaczZephyr.Foundation.SerialCalls
import EmaczZephyr.Foundation.Window
import EmaczZephyr.Foundation.RacingUpdates
import EmaczZephyr.Foundation.Word32
import EmaczZephyr.Foundation.RegisterFile
import EmaczZephyr.Foundation.Watermark
import EmaczZephyr.Foundation.Streaks
import EmaczZephyr.Foundation.CircularStore
import EmaczZephyr.Foundation.DescriptorRing
import EmaczZephyr.Foundation.Framing
import EmaczZephyr.Foundation.Seqlock
import EmaczZephyr.Foundation.BumpAllocator
import EmaczZephyr.Foundation.FaultyTable
import EmaczZephyr.Foundation.Faulting
import EmaczZephyr.Foundation.PacketBuffers
import EmaczZephyr.Foundation.BigEndian
import EmaczZephyr.Foundation.ByteLanes
import EmaczZephyr.Foundation.GuardedReads
import EmaczZephyr.Foundation.StructFormat
import EmaczZephyr.Foundation.Crc32
import EmaczZephyr.Foundation.Subnet
import EmaczZephyr.Foundation.OnesComplement
import EmaczZephyr.Foundation.Checked
import EmaczZephyr.Foundation.Numerals
import EmaczZephyr.Foundation.Printf
import EmaczZephyr.Foundation.PythonText
import EmaczZephyr.Foundation.PythonNumerals
import EmaczZephyr.Driver.RxRing
import EmaczZephyr.Driver.RxRingInvariant
import EmaczZephyr.Driver.RxPath
import EmaczZephyr.Driver.Ownership
import EmaczZephyr.Driver.TailPublication
import EmaczZephyr.Driver.Recovery
import EmaczZephyr.Driver.WireOrder
import EmaczZephyr.Driver.S2mmEngine
import EmaczZephyr.Driver.GenericRx
import EmaczZephyr.Driver.RxWatermarks
import EmaczZephyr.Driver.WatermarkExtremes
import EmaczZephyr.Driver.RxThread
import EmaczZephyr.Driver.RxDisposal
import EmaczZephyr.Driver.TxRing
import EmaczZephyr.Driver.TxFidelity
import EmaczZephyr.Driver.TxRingInvariant
import EmaczZephyr.Driver.GenericTx
import EmaczZephyr.Driver.DmaMemory
import EmaczZephyr.Driver.CacheRange
import EmaczZephyr.Driver.FrameSegmentation
import EmaczZephyr.Driver.FrameInspection
import EmaczZephyr.Driver.RxDelivery
import EmaczZephyr.Driver.TxDelivery
import EmaczZephyr.Driver.MacControl
import EmaczZephyr.Rtl.FrameErrorDrop
import EmaczZephyr.Rtl.FrameGate
import EmaczZephyr.Rtl.DrainTimes
import EmaczZephyr.Rtl.StoreForward
import EmaczZephyr.Rtl.ElasticFifo
import EmaczZephyr.Rtl.RxStream
import EmaczZephyr.Rtl.GateCsr
import EmaczZephyr.Rtl.StreamStats
import EmaczZephyr.Rtl.RiscvMtimer
import EmaczZephyr.Rtl.BootBram
import EmaczZephyr.Provision.Message
import EmaczZephyr.Provision.Codec
import EmaczZephyr.Provision.Corruption
import EmaczZephyr.Provision.Validation
import EmaczZephyr.Provision.ApplyConfig
import EmaczZephyr.Provision.InterfaceTable
import EmaczZephyr.Provision.Mailbox
import EmaczZephyr.Provision.MailboxAdmission
import EmaczZephyr.Provision.Board
import EmaczZephyr.Provision.Lifetime
import EmaczZephyr.Provision.HostTool
import EmaczZephyr.Provision.Agreement
import EmaczZephyr.Statistics.PerfStats
import EmaczZephyr.Statistics.SinkSeqlock
import EmaczZephyr.Statistics.Profile
import EmaczZephyr.Application.TxBench
import EmaczZephyr.Application.BenchExchange
import EmaczZephyr.Application.HeaderChecksum
import EmaczZephyr.Application.UdpSink
import EmaczZephyr.Application.ProfileConsole
import EmaczZephyr.Application.ProfileControl
import EmaczZephyr.Application.AcceptanceSnapshot
import EmaczZephyr.Tools.ImageLoader
