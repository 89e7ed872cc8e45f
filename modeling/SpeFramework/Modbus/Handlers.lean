import SpeFramework.Modbus.Machine

/-!
The request handlers of `modbus.c`. `input` is the offset of the request's function
code in the request memory; `prependSize` and `appendSize` are the room a transport
asks for around the response.
-/

namespace SpeFramework

open RangeStore ByteOrder

abbrev modbusReadCoilsFc : UInt8 := 0x01
abbrev modbusReadDiscreteInputsFc : UInt8 := 0x02
abbrev modbusReadHoldingRegistersFc : UInt8 := 0x03
abbrev modbusReadInputRegistersFc : UInt8 := 0x04
abbrev modbusWriteSingleCoilFc : UInt8 := 0x05
abbrev modbusWriteSingleRegisterFc : UInt8 := 0x06
abbrev modbusWriteMultipleCoilsFc : UInt8 := 0x0F
abbrev modbusWriteMultipleRegistersFc : UInt8 := 0x10
abbrev modbusReadWriteMultipleRegistersFc : UInt8 := 0x17

abbrev modbusDataTableDiscretesInput : UInt8 := 0x01
abbrev modbusDataTableCoils : UInt8 := 0x02
abbrev modbusDataTableInputRegisters : UInt8 := 0x03
abbrev modbusDataTableHoldingRegisters : UInt8 := 0x04

abbrev modbusErrorResponseSize : Nat := 2
abbrev modbusReadInputRegistersFixedResponseSize : Nat := 2
abbrev modbusReadBitFixedResponseSize : Nat := 2
abbrev modbusWriteSingleRegisterResponseSize : Nat := 5
abbrev modbusWriteMultipleRegisterResponseSize : Nat := 5
abbrev modbusWriteMultipleCoilsResponseSize : Nat := 5

abbrev modbusErrorOk : UInt8 := 0x00
abbrev modbusErrorIllegalFunction : UInt8 := 0x01
abbrev modbusErrorServerDeviceFailure : UInt8 := 0x04

/-! Byte order helpers. -/

def modbusFlipByteBits (byte : UInt8) : UInt8 :=
  byteLoop (fun i flipped => flipped ||| (((byte >>> i) &&& 1) <<< (7 - i))) 8 0

/-- `word` points at `start`; the target stores the low byte of a word first. -/
def modbusFlipWord (start : Nat) (memory : Memory) : Memory :=
  let registerValueTmp := littleEndianAt memory start
  writeRange memory start [highByte registerValueTmp, lowByte registerValueTmp]

variable {σ : Type}

/-! Calls of the callbacks, with the null check every caller makes. The read callbacks
fill the items from `data` on, as many as were asked for; the write callbacks are handed
as many items. -/

namespace World

def callReadBits (callback : Option (ReadCallback σ UInt8)) (functionCode dataTableType : UInt8)
    (startingAddress quantity : UInt16) (data : Pointer) (w : World σ) : UInt8 × World σ :=
  match callback with
  | none => (modbusErrorIllegalFunction, w)
  | some callback =>
      let (ret, items, app) := callback functionCode dataTableType startingAddress quantity w.app
      let length := bytesForBits quantity.toNat
      (ret, w.setApp app
        |>.emit (.call (.readBits functionCode dataTableType startingAddress quantity))
        |>.updateBlock data length fun memory => writeRange memory data.offset (items.take length))

def callReadWords (callback : Option (ReadCallback σ UInt16))
    (functionCode dataTableType : UInt8) (startingAddress quantity : UInt16) (data : Pointer)
    (w : World σ) : UInt8 × World σ :=
  match callback with
  | none => (modbusErrorIllegalFunction, w)
  | some callback =>
      let (ret, items, app) := callback functionCode dataTableType startingAddress quantity w.app
      (ret, w.setApp app
        |>.emit (.call (.readWords functionCode dataTableType startingAddress quantity))
        |>.updateBlock data (2 * quantity.toNat) fun memory =>
          writeRange memory data.offset (littleEndianBytes (items.take quantity.toNat)))

def callWriteBits (callback : WriteCallback σ UInt8) (functionCode dataTableType : UInt8)
    (startingAddress quantity : UInt16) (data : List UInt8) (w : World σ) : UInt8 × World σ :=
  let (ret, app) := callback functionCode dataTableType startingAddress quantity data w.app
  (ret, w.setApp app
    |>.emit (.call (.writeBits functionCode dataTableType startingAddress quantity data)))

def callWriteWords (callback : WriteCallback σ UInt16) (functionCode dataTableType : UInt8)
    (startingAddress quantity : UInt16) (data : List UInt16) (w : World σ) : UInt8 × World σ :=
  let (ret, app) := callback functionCode dataTableType startingAddress quantity data w.app
  (ret, w.setApp app
    |>.emit (.call (.writeWords functionCode dataTableType startingAddress quantity data)))

end World

/-! The data table a read handler selects from its function code. -/

def readBitsTable (functionCode : UInt8) : UInt8 :=
  if functionCode = modbusReadCoilsFc then modbusDataTableCoils else modbusDataTableDiscretesInput

def readWordsTable (functionCode : UInt8) : UInt8 :=
  if functionCode = modbusReadHoldingRegistersFc then modbusDataTableHoldingRegisters
  else modbusDataTableInputRegisters

/-- `output_size` as every handler computes it, before the store to a `uint16_t`. -/
def responseSize (pduSize : Nat) (prependSize appendSize : UInt8) : Nat :=
  pduSize + prependSize.toNat + appendSize.toNat

/-- The pointer to the caller's `output_buffer`, which the code may have cleared. -/
inductive OutputReference
  | caller
  | null

def modbusCreateErrorResponse (sendBuffer : OutputReference)
    (functionCode errorCode prependSize appendSize : UInt8) (w : World σ) : Outcome σ Unit :=
  let size := responseSize modbusErrorResponseSize prependSize appendSize
  match sendBuffer with
  | .null =>
      -- the call is made, and its result stored through the null pointer
      let w := w.setOutputSize size
      let (_, w) := w.pvPortMalloc w.outputSize.toNat
      .fault (w.emit (.access .null 0 4))
  | .caller =>
      let (block, w) := w.allocateOutput size
      match block with
      | none => .returned () (w.setOutputSize 0)
      | some sendBuffer =>
          let sendBufferCursor := sendBuffer.plus prependSize.toNat
          .returned () (w.store sendBufferCursor [functionCode + 0x80, errorCode])

def modbusWriteRequestHandler (callbacks : ModbusCallbacks σ) (requestData _requestDataSize : Nat)
    (prependSize appendSize : UInt8) (w : World σ) : UInt8 × World σ :=
  let w := w.emit (.access .request requestData 5)
  let functionCode := w.request requestData
  let outputAddress := bigEndianAt w.request (requestData + 1)
  let outputValue := bigEndianAt w.request (requestData + 3)
  let (ret, w) :=
    match functionCode == modbusWriteSingleCoilFc, callbacks.writeBits,
      functionCode == modbusWriteSingleRegisterFc, callbacks.writeWords with
    | true, some writeBits, _, _ =>
        let coilData : UInt8 := if outputValue = 0 then 0 else 1
        w.callWriteBits writeBits functionCode modbusDataTableCoils outputAddress 1 [coilData]
    | _, _, true, some writeWords =>
        w.callWriteWords writeWords functionCode modbusDataTableHoldingRegisters outputAddress 1
          [outputValue]
    | _, _, _, _ => (modbusErrorIllegalFunction, w)
  if ret = modbusErrorOk then
    let (block, w) := w.allocateOutput
      (responseSize modbusWriteSingleRegisterResponseSize prependSize appendSize)
    match block with
    | none => (modbusErrorServerDeviceFailure, w)
    | some sendBuffer =>
        -- stored from the start of the block, not after the `prepend_size` bytes
        (ret, w.store sendBuffer [functionCode, highByte outputAddress, lowByte outputAddress,
          highByte outputValue, lowByte outputValue])
  else (ret, w)

def modbusReadWordRequestHandler (callbacks : ModbusCallbacks σ) (inputBuffer _inputSize : Nat)
    (prependSize appendSize : UInt8) (w : World σ) : UInt8 × World σ :=
  let w := w.emit (.access .request inputBuffer 5)
  let functionCode := w.request inputBuffer
  let startingAddress := bigEndianAt w.request (inputBuffer + 1)
  let quantityOfRegisters := bigEndianAt w.request (inputBuffer + 3)
  let byteCount := UInt8.ofNat (2 * quantityOfRegisters.toNat)
  let (block, w) := w.allocateOutput (responseSize
    (modbusReadInputRegistersFixedResponseSize + byteCount.toNat) prependSize appendSize)
  match block with
  | none => (modbusErrorServerDeviceFailure, w)
  | some outputBuffer =>
      let outputBufferCursor := outputBuffer.plus prependSize.toNat
      let registerValue := outputBufferCursor.plus modbusReadInputRegistersFixedResponseSize
      let w := w.store registerValue (List.replicate byteCount.toNat 0)
      let (ret, w) := w.callReadWords callbacks.readWords functionCode
        (readWordsTable functionCode) startingAddress quantityOfRegisters registerValue
      if ret = modbusErrorOk then
        let w := w.store outputBufferCursor [functionCode, byteCount]
        (ret, loop (fun i w =>
          let register := registerValue.plus (2 * i)
          w.updateBlock register 2 (modbusFlipWord register.offset)) quantityOfRegisters.toNat w)
      else (ret, w)

def modbusReadBitRequestHandler (callbacks : ModbusCallbacks σ) (requestData _requestDataSize : Nat)
    (prependSize appendSize : UInt8) (w : World σ) : UInt8 × World σ :=
  let w := w.emit (.access .request requestData 5)
  let functionCode := w.request requestData
  let startingAddress := bigEndianAt w.request (requestData + 1)
  let quantityOfInputs := bigEndianAt w.request (requestData + 3)
  let byteCount := UInt8.ofNat
    (quantityOfInputs.toNat / 8 + if quantityOfInputs.toNat % 8 = 0 then 0 else 1)
  let (block, w) := w.allocateOutput (responseSize
    (modbusReadBitFixedResponseSize + byteCount.toNat) prependSize appendSize)
  match block with
  | none => (modbusErrorServerDeviceFailure, w)
  | some outputBuffer =>
      let sendBufferCursor := outputBuffer.plus prependSize.toNat
      let inputStatus := sendBufferCursor.plus modbusReadBitFixedResponseSize
      let w := w.store inputStatus (List.replicate byteCount.toNat 0)
      let (ret, w) := w.callReadBits callbacks.readBits functionCode
        (readBitsTable functionCode) startingAddress quantityOfInputs inputStatus
      if ret = modbusErrorOk then
        let w := w.store sendBufferCursor [functionCode, byteCount]
        (ret, byteLoop (fun i w =>
          let status := sendBufferCursor.plus (2 + i.toNat)
          w.updateBlock status 1 (mapCell modbusFlipByteBits status.offset)) byteCount w)
      else (ret, w)

def modbusWriteMultipleRegistersRequestHandler (callbacks : ModbusCallbacks σ)
    (inputBuffer _inputSize : Nat) (prependSize appendSize : UInt8) (w : World σ) :
    UInt8 × World σ :=
  match callbacks.writeWords with
  | none => (modbusErrorIllegalFunction, w)
  | some writeWords =>
      let w := w.emit (.access .request inputBuffer 6)
      let functionCode := w.request inputBuffer
      let startingAddress := bigEndianAt w.request (inputBuffer + 1)
      let quantityOfRegisters := bigEndianAt w.request (inputBuffer + 3)
      let byteCount := w.request (inputBuffer + 5)
      let (block, w) := w.allocateOutput
        (responseSize modbusWriteMultipleRegisterResponseSize prependSize appendSize)
      match block with
      | none => (modbusErrorServerDeviceFailure, w)
      | some outputBuffer =>
          let registersValue := inputBuffer + 6
          -- the counter runs over bytes, the index over words
          let w := loop (fun i w =>
            w.updateRequest (registersValue + 2 * i) 2 (modbusFlipWord (registersValue + 2 * i)))
            byteCount.toNat w
          let w := w.emit (.access .request registersValue (2 * quantityOfRegisters.toNat))
          let (ret, w) := w.callWriteWords writeWords functionCode
            modbusDataTableHoldingRegisters startingAddress quantityOfRegisters
            (littleEndianWords w.request registersValue quantityOfRegisters.toNat)
          let outputBufferCursor := outputBuffer.plus prependSize.toNat
          let w := w.emit (.access .request inputBuffer modbusWriteMultipleRegisterResponseSize)
          (ret, w.store outputBufferCursor
            (readRange w.request inputBuffer modbusWriteMultipleRegisterResponseSize))

def modbusWriteMultipleCoilsRequestHandler (callbacks : ModbusCallbacks σ)
    (inputBuffer _inputSize : Nat) (prependSize appendSize : UInt8) (w : World σ) :
    UInt8 × World σ :=
  match callbacks.writeBits with
  | none => (modbusErrorIllegalFunction, w)
  | some writeBits =>
      let w := w.emit (.access .request inputBuffer 6)
      let functionCode := w.request inputBuffer
      let startingAddress := bigEndianAt w.request (inputBuffer + 1)
      let quantityOfOutputs := bigEndianAt w.request (inputBuffer + 3)
      let byteCount := w.request (inputBuffer + 5)
      let (block, w) := w.allocateOutput
        (responseSize modbusWriteMultipleCoilsResponseSize prependSize appendSize)
      match block with
      | none => (modbusErrorServerDeviceFailure, w)
      | some outputBuffer =>
          let outputsValue := inputBuffer + 6
          let w := loop (fun i w =>
            w.updateRequest (outputsValue + i) 1 (mapCell modbusFlipByteBits (outputsValue + i)))
            byteCount.toNat w
          let w := w.emit
            (.access .request outputsValue (bytesForBits quantityOfOutputs.toNat))
          let (ret, w) := w.callWriteBits writeBits functionCode modbusDataTableCoils
            startingAddress quantityOfOutputs
            (readRange w.request outputsValue (bytesForBits quantityOfOutputs.toNat))
          -- `*output_buffer += prepend_size` moves the caller's pointer itself
          let outputBuffer := outputBuffer.plus prependSize.toNat
          let w := w.setOutput (some outputBuffer)
          let w := w.emit (.access .request inputBuffer modbusWriteMultipleRegisterResponseSize)
          (ret, w.store outputBuffer
            (readRange w.request inputBuffer modbusWriteMultipleRegisterResponseSize))

def modbusReadWriteMultipleRegistersRequestHandler (callbacks : ModbusCallbacks σ)
    (inputBuffer inputSize : Nat) (prependSize appendSize : UInt8) (w : World σ) :
    Outcome σ UInt8 :=
  if callbacks.readWords.isNone ∨ callbacks.writeWords.isNone then
    .returned modbusErrorIllegalFunction w
  else
    let (ret, w) := modbusWriteMultipleCoilsRequestHandler callbacks inputBuffer inputSize
      prependSize appendSize w
    let freed := match w.outputBuffer with
      | some outputBuffer => w.vPortFree outputBuffer
      | none => .returned () w
    freed.bind fun _ w =>
      if ret = modbusErrorOk then
        .of (modbusReadWordRequestHandler callbacks inputBuffer inputSize prependSize appendSize w)
      else .returned ret w

/-! The handler of the extension callback, which no case of the switch below selects. -/

def modbusOtherFunctionsRequestHandler (callbacks : ModbusCallbacks σ) (functionCode : UInt8)
    (inputBuffer inputSize : Nat) (prependSize appendSize : UInt8) (w : World σ) :
    UInt8 × World σ :=
  match callbacks.otherFunctions with
  | none => (modbusErrorIllegalFunction, w)
  | some otherFunctions =>
      let input := readRange w.request inputBuffer inputSize
      let (ret, outputSize, output, app) :=
        otherFunctions functionCode input prependSize appendSize w.app
      let w := { w with app := app, outputSize := outputSize }
        |>.emit (.access .request inputBuffer inputSize)
        |>.emit (.call (.otherFunctions functionCode input prependSize appendSize))
      match w.outputBuffer with
      | some outputBuffer => (ret, w.store outputBuffer output)
      | none => (ret, w.emit (.access .null 0 output.length))

/-! The case labels of the switch in `modbus_handle_request`. -/

inductive RequestKind
  | readBits
  | readWords
  | writeSingle
  | writeMultipleRegisters
  | writeMultipleCoils
  | readWriteMultipleRegisters
  | other
  deriving DecidableEq, Repr

def requestKind (functionCode : UInt8) : RequestKind :=
  if functionCode = modbusReadCoilsFc ∨ functionCode = modbusReadDiscreteInputsFc then
    .readBits
  else if functionCode = modbusReadHoldingRegistersFc ∨
      functionCode = modbusReadInputRegistersFc then
    .readWords
  else if functionCode = modbusWriteSingleCoilFc ∨
      functionCode = modbusWriteSingleRegisterFc then
    .writeSingle
  else if functionCode = modbusWriteMultipleRegistersFc then .writeMultipleRegisters
  else if functionCode = modbusWriteMultipleCoilsFc then .writeMultipleCoils
  else if functionCode = modbusReadWriteMultipleRegistersFc then .readWriteMultipleRegisters
  else .other

def modbusSelectedHandler (callbacks : ModbusCallbacks σ) (inputBuffer inputSize : Nat)
    (prependSize appendSize : UInt8) (w : World σ) : Outcome σ UInt8 :=
  match requestKind (w.request inputBuffer) with
  | .readBits =>
      .of (modbusReadBitRequestHandler callbacks inputBuffer inputSize prependSize appendSize w)
  | .readWords =>
      .of (modbusReadWordRequestHandler callbacks inputBuffer inputSize prependSize appendSize w)
  | .writeSingle =>
      .of (modbusWriteRequestHandler callbacks inputBuffer inputSize prependSize appendSize w)
  | .writeMultipleRegisters =>
      .of (modbusWriteMultipleRegistersRequestHandler callbacks inputBuffer inputSize prependSize
        appendSize w)
  | .writeMultipleCoils =>
      .of (modbusWriteMultipleCoilsRequestHandler callbacks inputBuffer inputSize prependSize
        appendSize w)
  | .readWriteMultipleRegisters =>
      modbusReadWriteMultipleRegistersRequestHandler callbacks inputBuffer inputSize prependSize
        appendSize w
  | .other => .returned modbusErrorIllegalFunction w

def modbusHandleRequest (callbacks : ModbusCallbacks σ) (inputBuffer inputSize : Nat)
    (prependSize appendSize : UInt8) (w : World σ) : Outcome σ UInt8 :=
  let w := w.emit (.access .request inputBuffer 1)
  let functionCode := w.request inputBuffer
  (modbusSelectedHandler callbacks inputBuffer inputSize prependSize appendSize w).bind fun ret w =>
    if ret = modbusErrorOk then .returned modbusErrorOk w
    else
      -- after the free, `output_buffer = NULL` clears the pointer to the caller's pointer
      let freed : Outcome σ OutputReference := match w.outputBuffer with
        | some block => (w.vPortFree block).bind fun _ w => .returned .null (w.setOutput none)
        | none => .returned .caller w
      freed.bind fun outputBuffer w =>
        (modbusCreateErrorResponse outputBuffer functionCode ret prependSize appendSize w).bind
          fun _ w => .returned modbusErrorOk w

end SpeFramework
