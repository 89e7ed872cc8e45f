import SpeFramework.Modbus.Handlers

/-!
`modbus_tcp.c` up to one connection: the MBAP header, one request, and the loop that
receives and handles until the peer closes.
-/

namespace SpeFramework

open RangeStore ByteOrder

abbrev modbusTcpCloseConnection : UInt8 := 0xC0
abbrev modbusRecvBufferSize : Nat := 64
abbrev modbusMbapHeaderLength : Nat := 7
abbrev modbusMbapUnitIdLength : Nat := 1

structure MBAPHeader where
  transactionId : UInt16
  protocolId : UInt16
  length : UInt16
  unitId : UInt8
  deriving DecidableEq, Repr

def modbusMbapFillStruct (data : Memory) (start : Nat) : MBAPHeader where
  transactionId := bigEndianAt data start
  protocolId := bigEndianAt data (start + 2)
  length := bigEndianAt data (start + 4)
  unitId := data (start + 6)

def modbusMbapFillFromStruct (header : MBAPHeader) : List UInt8 :=
  [highByte header.transactionId, lowByte header.transactionId,
    highByte header.protocolId, lowByte header.protocolId,
    highByte header.length, lowByte header.length, header.unitId]

variable {σ : Type}

@[simps! -fullyApplied app request heap blockSize readsAllocated allocates mallocs outputBuffer outputSize log]
def World.lwipSend (socket : Int) (data : Pointer) (size : Nat) (w : World σ) : World σ :=
  w.emit (.access (.block data.block) data.offset size)
    |>.emit (.send socket (readRange (w.heap data.block) data.offset size))

def modbusTcpHandleRequest (callbacks : ModbusCallbacks σ) (clientSocket : Int) (dataSize : Nat)
    (w : World σ) : Outcome σ UInt8 :=
  if dataSize < 8 then .returned 3 w
  else
    let w := w.setOutput none |>.setOutputSize 0
    let w := w.emit (.access .request 0 modbusMbapHeaderLength)
    let mbapHeader := modbusMbapFillStruct w.request 0
    (modbusHandleRequest callbacks modbusMbapHeaderLength (dataSize - modbusMbapHeaderLength)
        (UInt8.ofNat modbusMbapHeaderLength) 0 w).bind fun ret w =>
      match w.outputBuffer with
      | none => .returned ret w
      | some sendBuffer =>
          let length := w.outputSize - UInt16.ofNat modbusMbapHeaderLength +
            UInt16.ofNat modbusMbapUnitIdLength
          let w := w.store sendBuffer (modbusMbapFillFromStruct { mbapHeader with length })
          let w := w.lwipSend clientSocket sendBuffer w.outputSize.toNat
          (w.vPortFree sendBuffer).bind fun _ w => .returned ret (w.setOutput none)

/-- `lwip_recv` overwrites the front of the receive buffer and leaves the rest. -/
def World.receive (bytes : List UInt8) (w : World σ) : World σ :=
  { w with request := writeRange w.request 0 bytes }

/-- The receive loop of `modbus_tcp_connection_handle`. `received` lists what the calls
of `lwip_recv` deliver; after them, or when one delivers nothing, the peer has closed. -/
def modbusTcpConnectionLoop (callbacks : ModbusCallbacks σ) (socket : Int) :
    UInt8 → List (List UInt8) → World σ → Outcome σ Unit
  | _, [], w => .returned () w
  | ret, chunk :: received, w =>
      if ret = modbusTcpCloseConnection ∨ chunk = [] then .returned () w
      else
        (modbusTcpHandleRequest callbacks socket chunk.length (w.receive chunk)).bind fun ret w =>
          modbusTcpConnectionLoop callbacks socket ret received w

def modbusTcpConnectionHandle (callbacks : ModbusCallbacks σ) (socket : Int)
    (received : List (List UInt8)) (w : World σ) : Outcome σ Unit :=
  (modbusTcpConnectionLoop callbacks socket 0 received w).bind fun _ w =>
    .returned () (w.emit (.close socket))

/-! What the application and the peer see of a log. -/

def Event.observable : Event → Bool
  | .call _ => true
  | .send _ _ => true
  | _ => false

def observed (log : List Event) : List Event := log.filter Event.observable

@[simp] theorem observed_append (first second : List Event) :
    observed (first ++ second) = observed first ++ observed second := by
  simp [observed]

end SpeFramework
