import SpeFramework.Modbus.Machine
import SpeFramework.Modbus.Handlers
import SpeFramework.Modbus.Tcp
import SpeFramework.Modbus.HandlerCases
import SpeFramework.Modbus.ErrorPath
import SpeFramework.Modbus.TcpCases
import SpeFramework.Modbus.Blocks
import SpeFramework.Modbus.Bounds
import SpeFramework.Modbus.Acknowledgement
import SpeFramework.Modbus.Alike
import SpeFramework.Modbus.Leftovers
import SpeFramework.Modbus.Framing
import SpeFramework.Lib.WriteHistory
import SpeFramework.Modbus.Serving
import SpeFramework.Modbus.Registers
import SpeFramework.Modbus.Coils
import SpeFramework.Lib.Runs
import SpeFramework.Modbus.Clients
import SpeFramework.Modbus.ClientTasks
import SpeFramework.Modbus.OwnSocket
import SpeFramework.Modbus.Uninterrupted
import SpeFramework.Modbus.Replies
import SpeFramework.Modbus.Dispatch
import SpeFramework.Modbus.Headers
import SpeFramework.Modbus.Startup
import SpeFramework.Network.Adin1110
import SpeFramework.Network.Interface
import SpeFramework.Network.DriverCases
import SpeFramework.Network.Transmit
import SpeFramework.Network.Receive
import SpeFramework.Network.Handover
import SpeFramework.Network.Bringup
import SpeFramework.Lib.OrderedTree
import SpeFramework.TermForm.Focus
import SpeFramework.TermForm.FocusMoves
import SpeFramework.TermForm.FocusCycle
import SpeFramework.Modbus.ReadResponses
import SpeFramework.Modbus.WriteRequests
import SpeFramework.Network.Spi
import SpeFramework.TermForm.ConsoleInput
import SpeFramework.TermForm.RadioGroups
import SpeFramework.Lib.Overlay
import SpeFramework.TermForm.Terminal
import SpeFramework.TermForm.Controls
import SpeFramework.TermForm.Painting
import SpeFramework.TermForm.Layout
import SpeFramework.TermForm.Drawing
import SpeFramework.TermForm.FocusFlags
import SpeFramework.TermForm.Forms
import SpeFramework.TermForm.Repainting
import SpeFramework.Modbus.BitOrder
import SpeFramework.FreeRtos.Heap4
import SpeFramework.Lib.Intervals
import SpeFramework.FreeRtos.FreeList
import SpeFramework.FreeRtos.HeapInvariant
import SpeFramework.FreeRtos.HeapRuns
import SpeFramework.FreeRtos.HeapAnswers
import SpeFramework.Lib.Crc
import SpeFramework.Network.Crc8
import SpeFramework.Network.ProtectedRegisters
import SpeFramework.Network.AddressFilter
import SpeFramework.Modbus.OnHeap4
import SpeFramework.Lib.DoublyLinked
import SpeFramework.NoOs.ListCases
import SpeFramework.NoOs.ListRuns
import SpeFramework.NoOs.ListRefinement
import SpeFramework.NoOs.Adapters
import SpeFramework.NoOs.GpioIrq
