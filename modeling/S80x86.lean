import S80x86.Bios.Disk
import S80x86.Bios.Display
import S80x86.Bios.Keyboard
import S80x86.Bios.KeyboardQueue
import S80x86.Bios.Machine
import S80x86.Bios.Printk
import S80x86.Bios.PrintkExpansion
import S80x86.Bios.PrintkRuns
import S80x86.Bios.Scroll
import S80x86.Bios.SdAnswers
import S80x86.Bios.SdAnswersRuns
import S80x86.Bios.SdDriver
import S80x86.Bios.SdReads
import S80x86.Bios.SdRobust
import S80x86.Bios.SdSectors
import S80x86.Bios.SdTransfers
import S80x86.Bios.TextOutput
import S80x86.Foundation.Abstraction
import S80x86.Foundation.Bits
import S80x86.Foundation.Carry
import S80x86.Foundation.Clocked
import S80x86.Foundation.Effect
import S80x86.Foundation.Events
import S80x86.Foundation.Fuel
import S80x86.Foundation.InPlace
import S80x86.Foundation.Limbs
import S80x86.Foundation.NonRestoring
import S80x86.Foundation.Overflow
import S80x86.Foundation.Packing
import S80x86.Foundation.Priority
import S80x86.Foundation.RingBuffer
import S80x86.Foundation.Runs
import S80x86.Foundation.WriteBack
import S80x86.Fpga.Cache
import S80x86.Fpga.CacheRefines
import S80x86.Fpga.CounterLatch
import S80x86.Fpga.KeyboardController
import S80x86.Fpga.PS2Host
import S80x86.Fpga.PS2Periods
import S80x86.Fpga.PS2Receive
import S80x86.Fpga.PS2Transmit
import S80x86.Fpga.Pic
import S80x86.Fpga.PicService
import S80x86.Fpga.Ram
import S80x86.Fpga.SdramController
import S80x86.Fpga.SdramProtocol
import S80x86.Fpga.TimerPeriod
import S80x86.Fpga.TimerUnit
import S80x86.Fpga.Uart
import S80x86.Fpga.UartFrames
import S80x86.Fpga.UartRoundTrip
import S80x86.Isa.Agreement
import S80x86.Isa.Arithmetic
import S80x86.Isa.ArithmeticUnits
import S80x86.Isa.CoreArithmetic
import S80x86.Isa.CoreCalls
import S80x86.Isa.CoreMoves
import S80x86.Isa.CoreProgram
import S80x86.Isa.CoreRefines
import S80x86.Isa.CoreStack
import S80x86.Isa.CoreState
import S80x86.Isa.CoreStrings
import S80x86.Isa.CoreTransfers
import S80x86.Isa.Decoding
import S80x86.Isa.EmulatorArithmetic
import S80x86.Isa.EmulatorHandlers
import S80x86.Isa.EmulatorRefines
import S80x86.Isa.EmulatorStack
import S80x86.Isa.EmulatorStrings
import S80x86.Isa.EmulatorTransfers
import S80x86.Isa.EmulatorView
import S80x86.Isa.Feeding
import S80x86.Isa.Fetching
import S80x86.Isa.Operations
import S80x86.Isa.Program
import S80x86.Isa.Reset
import S80x86.Isa.State
import S80x86.Microassembler.Addresses
import S80x86.Microassembler.Lossless
import S80x86.Microassembler.Sources
import S80x86.Microassembler.Uasm
import S80x86.Rtl.Alu
import S80x86.Rtl.Bus
import S80x86.Rtl.BusTransfer
import S80x86.Rtl.CSIPSyncRuns
import S80x86.Rtl.Core
import S80x86.Rtl.DecimalPrograms
import S80x86.Rtl.DecoderStream
import S80x86.Rtl.Divider
import S80x86.Rtl.DividerCorrect
import S80x86.Rtl.DivisionPrograms
import S80x86.Rtl.Divisions
import S80x86.Rtl.Encoding
import S80x86.Rtl.EnterProgram
import S80x86.Rtl.Fetcher
import S80x86.Rtl.FetcherProgress
import S80x86.Rtl.FetcherStream
import S80x86.Rtl.Fifo
import S80x86.Rtl.FifoQueue
import S80x86.Rtl.ImmediateReader
import S80x86.Rtl.InsnDecoder
import S80x86.Rtl.Instruction
import S80x86.Rtl.InstructionRuns
import S80x86.Rtl.InterruptEntry
import S80x86.Rtl.LoadStoreRuns
import S80x86.Rtl.MCP
import S80x86.Rtl.MemArbiter
import S80x86.Rtl.Micro
import S80x86.Rtl.MicroBranch
import S80x86.Rtl.MicroEval
import S80x86.Rtl.MicroProgram
import S80x86.Rtl.MicroRefines
import S80x86.Rtl.MicroRuns
import S80x86.Rtl.MicroWaits
import S80x86.Rtl.Microinstruction
import S80x86.Rtl.ModRMDecode
import S80x86.Rtl.OpcodeTable
import S80x86.Rtl.Parser
import S80x86.Rtl.Prefetch
import S80x86.Rtl.PrefetchStream
import S80x86.Rtl.Processor
import S80x86.Rtl.Retirement
import S80x86.Rtl.Rom
import S80x86.Rtl.RomEntries
import S80x86.Rtl.Sequencing
import S80x86.Rtl.Units
import S80x86.Sim.Alu
import S80x86.Sim.AluAgrees
import S80x86.Sim.Arithmetic
import S80x86.Sim.CodeOrder
import S80x86.Sim.ConditionalJumps
import S80x86.Sim.Control
import S80x86.Sim.CoreStates
import S80x86.Sim.DecimalAgrees
import S80x86.Sim.Decode
import S80x86.Sim.DecoderAgrees
import S80x86.Sim.DivideErrors
import S80x86.Sim.Emulate
import S80x86.Sim.EnterAgrees
import S80x86.Sim.Faults
import S80x86.Sim.FlagMeanings
import S80x86.Sim.FootprintCases
import S80x86.Sim.Footprints
import S80x86.Sim.HandlerFootprints
import S80x86.Sim.HandlerLengths
import S80x86.Sim.IdleHandlers
import S80x86.Sim.InterruptReturn
import S80x86.Sim.Keeps
import S80x86.Sim.Leftovers
import S80x86.Sim.Lengths
import S80x86.Sim.Limits
import S80x86.Sim.Memory
import S80x86.Sim.ModRM
import S80x86.Sim.MultiPrecision
import S80x86.Sim.Operands
import S80x86.Sim.Operations
import S80x86.Sim.OverLong
import S80x86.Sim.PackedDecimal
import S80x86.Sim.Pic
import S80x86.Sim.PicDelivery
import S80x86.Sim.Prefixes
import S80x86.Sim.RegisterFile
import S80x86.Sim.RegisterFilesAgree
import S80x86.Sim.Shift
import S80x86.Sim.SideEffects
import S80x86.Sim.SoftwareCpu
import S80x86.Sim.Spi
import S80x86.Sim.SpiProtocol
import S80x86.Sim.Stack
import S80x86.Sim.StackFrames
import S80x86.Sim.State
import S80x86.Sim.StepDepends
import S80x86.Sim.StringFootprints
import S80x86.Sim.StringRuns
import S80x86.Sim.TimerTick
import S80x86.Sim.Touches
import S80x86.Sim.Transfer
import S80x86.Sim.TwoOperands
