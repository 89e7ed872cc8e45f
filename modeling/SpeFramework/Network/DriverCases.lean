import SpeFramework.Network.Adin1110

/-!
What the driver functions do to the descriptor, the wire and the buffers when the transfers
succeed.
-/

namespace SpeFramework.Network

open RangeStore ByteOrder

variable {addr : UInt16} {answer : SpiAnswer} {device : Device}

theorem numPorts_pos (chipType : Adin1110ChipId) : 0 < chipType.numPorts := by
  cases chipType <;> decide

/-- One transfer of the register interface: it stays within the first seven bytes. -/
structure RegisterTransfer (sent : List UInt8) (before after : Device) : Prop where
  chipType : after.desc.chipType = before.desc.chipType
  macAddress : after.desc.macAddress = before.desc.macAddress
  beyond : ∀ index, 7 ≤ index → after.desc.data index = before.desc.data index
  transfers : after.transfers = before.transfers ++ [sent]
  accesses : ∃ touched, after.accesses = before.accesses ++ touched ∧ ∀ access ∈ touched, access.Inside

def succeeded : SpiAnswer := ⟨0, fun _ => 0⟩

/-- The answer that a register holds `value`. -/
def reports (value : UInt32) : SpiAnswer := ⟨0, writeRange (fun _ => 0) 3 (fourBytes value)⟩

theorem reports_value (value : UInt32) : bigEndian32At (reports value).received 3 = value :=
  bigEndian32At_writeRange (fun _ => 0) 3 value

theorem readRange_four (bytes : Bytes) (start : Nat) :
    readRange bytes start 4 =
      [bytes start, bytes (start + 1), bytes (start + 2), bytes (start + 3)] := rfl

theorem adin1110RegRead_ok (addr : UInt16) (device : Device) (succeeds : answer.ret = 0) :
    ∃ after rest, adin1110RegRead addr answer device = (.ok (bigEndian32At answer.received 3), after) ∧
      RegisterTransfer ((highByte addr ||| 0x80) :: lowByte addr :: rest) device after := by
  have value : (adin1110RegRead addr answer device).1 = .ok (bigEndian32At answer.received 3) := by
    simp only [adin1110RegRead, succeeds, ne_eq, not_true_eq_false, if_false]
    congr 1
  let data := device.desc.data
  refine ⟨_, [0, data 3, data 4, data 5, data 6], Prod.ext value rfl, ?_⟩
  simp only [adin1110RegRead, succeeds, ne_eq, not_true_eq_false, if_false, Device.setFlags,
    Device.noOsPutUnalignedBe16]
  constructor
  · rfl
  · rfl
  · intro index beyond
    simp only [Device.touch_desc, Device.noOsSpiTransfer_desc_data, Device.store_desc_data, if_true]
    rw [writeRange_outside _ _ _ _ (.inr (by simpa using beyond)),
      writeRange_outside _ _ _ _ (.inr (by simp; omega)),
      writeRange_outside _ _ _ _ (.inr (by simp; omega)),
      writeRange_outside _ _ _ _ (.inr (by simp; omega))]
  · rfl
  · refine ⟨[⟨.scratch, 0, 2⟩, ⟨.scratch, 0, 1⟩, ⟨.scratch, 2, 1⟩, ⟨.scratch, 0, 7⟩, ⟨.scratch, 3, 4⟩],
      ?_, by decide⟩
    simp [adin1110RdHeaderLen]

theorem adin1110RegWrite_ok (addr : UInt16) (value : UInt32) (answer : SpiAnswer) (device : Device) :
    ∃ after, adin1110RegWrite addr value answer device = (answer.ret, after) ∧
      RegisterTransfer
        (highByte ((addr &&& 0x1FFF) ||| 0x8000 ||| 0x2000) ::
          lowByte ((addr &&& 0x1FFF) ||| 0x8000 ||| 0x2000) :: fourBytes value) device after := by
  refine ⟨_, rfl, ?_⟩
  simp only [Device.noOsPutUnalignedBe16, Device.noOsPutUnalignedBe32]
  constructor
  · rfl
  · rfl
  · intro index beyond
    simp only [Device.noOsSpiTransfer_desc_data, Device.store_desc_data, Bool.false_eq_true, if_false]
    rw [writeRange_outside _ _ _ _ (.inr (by simp [fourBytes, adin1110WrHeaderLen]; omega)),
      writeRange_outside _ _ _ _ (.inr (by simp; omega))]
  · rfl
  · refine ⟨[⟨.scratch, 0, 2⟩, ⟨.scratch, 2, 4⟩, ⟨.scratch, 0, 6⟩], ?_, by decide⟩
    simp [fourBytes, adin1110WrHeaderLen]

theorem framePadding_toNat (len : UInt32) (small : len.toNat ≤ 1514) :
    (framePadding len).toNat = 60 - len.toNat := by
  have sum : (len + adin1110FcsLen).toNat = len.toNat + 4 := by
    rw [UInt32.toNat_add]
    simp [adin1110FcsLen]
    omega
  rw [framePadding]
  split
  · rename_i short
    have shortNat := UInt32.lt_iff_toNat_lt.mp short
    rw [sum] at shortNat
    simp at shortNat
    rw [UInt32.toNat_sub_of_le _ _ (UInt32.le_of_lt short), sum]
    simp
  · rename_i long
    have longNat : ¬ (len + adin1110FcsLen).toNat < (64 : UInt32).toNat := fun short =>
      long (UInt32.lt_iff_toNat_lt.mpr short)
    rw [sum] at longNat
    simp at longNat
    simp
    omega

theorem paddedLen_toNat (len : UInt32) (small : len.toNat ≤ 1514) :
    (paddedLen len).toNat = len.toNat + (60 - len.toNat) + 2 := by
  rw [paddedLen, UInt32.toNat_add, UInt32.toNat_add, framePadding_toNat len small]
  simp [adin1110FrameHeaderLen]
  omega

/-- The scratch buffer when `adin1110_write_fifo` has stored its headers and the frame's. -/
def burstHeaders (port : UInt32) (header : List UInt8) (data : Bytes) : Bytes :=
  writeRange
    (writeRange (writeRange (writeRange data 0 [0x00, 0x31]) 0 [0xA0]) 2
      [highByte port.toUInt16, lowByte port.toUInt16])
    4 header

def burstData (port : UInt32) (ethBuff : Adin1110EthBuff) (data : Bytes) : Bytes :=
  writeRange (burstHeaders port ethBuff.header data) 18
    (readRange ethBuff.payload 0 (ethBuff.len - 14).toNat)

theorem adin1110WriteBurst_eq (port : UInt32) (ethBuff : Adin1110EthBuff) (roundLen : UInt32)
    (answer : SpiAnswer) (device : Device) :
    ∃ after, adin1110WriteBurst port ethBuff roundLen answer device = (answer.ret, after) ∧
      after.desc = ⟨device.desc.chipType, device.desc.macAddress, burstData port ethBuff device.desc.data⟩ ∧
      after.transfers = device.transfers ++
        [readRange (burstData port ethBuff device.desc.data) 0 (roundLen + 2).toNat] := by
  have register : device.noOsPutUnalignedBe16 adin1110TxReg 0 = device.store 0 [0x00, 0x31] := rfl
  have flags : (device.store 0 [0x00, 0x31]).setFlags (0x80 ||| 0x20) =
      (device.store 0 [0x00, 0x31]).store 0 [0xA0] := by
    have bits : (0x00 ||| (0x80 ||| 0x20) : UInt8) = 0xA0 := by decide
    rw [← bits]
    rfl
  refine ⟨_, rfl, ?_, ?_⟩
  · rw [register, flags]
    rfl
  · rw [register, flags]
    rfl

theorem burstHeaders_beyond (port : UInt32) {header : List UInt8} (length : header.length = 14)
    (data : Bytes) (index : Nat) (beyond : 18 ≤ index) :
    burstHeaders port header data index = data index := by
  rw [burstHeaders, writeRange_outside _ _ _ _ (by omega),
    writeRange_outside _ _ _ _ (.inr (by simp; omega)),
    writeRange_outside _ _ _ _ (.inr (by simp; omega)),
    writeRange_outside _ _ _ _ (.inr (by simp; omega))]

theorem readRange_burstHeaders (port : UInt32) {header : List UInt8} (length : header.length = 14)
    (data : Bytes) :
    readRange (burstHeaders port header data) 0 18 =
      [0xA0, 0x31, highByte port.toUInt16, lowByte port.toUInt16] ++ header := by
  have whole : (18 : Nat) = 4 + header.length := by omega
  rw [whole, readRange_append, Nat.zero_add, burstHeaders, readRange_writeRange_same,
    readRange_writeRange_apart _ _ _ _ _ (.inl (by omega)), readRange_four]
  rfl

/-- Behind its headers the burst holds the frame, and after it what the scratch buffer held. -/
theorem readRange_burstData (port : UInt32) (ethBuff : Adin1110EthBuff) (data : Bytes) (rest : Nat) :
    readRange (burstData port ethBuff data) 0 (18 + ((ethBuff.len - 14).toNat + rest)) =
      [0xA0, 0x31, highByte port.toUInt16, lowByte port.toUInt16] ++ ethBuff.header ++
        (readRange ethBuff.payload 0 (ethBuff.len - 14).toNat ++
          readRange data (18 + (ethBuff.len - 14).toNat) rest) := by
  have front := readRange_writeRange_front (burstHeaders port ethBuff.header data) 18
    (readRange ethBuff.payload 0 (ethBuff.len - 14).toNat) rest
  rw [readRange_length] at front
  have behind : readRange (burstHeaders port ethBuff.header data) (18 + (ethBuff.len - 14).toNat) rest =
      readRange data (18 + (ethBuff.len - 14).toNat) rest := by
    apply readRange_congr
    intro cell lower upper
    exact burstHeaders_beyond port ethBuff.header_length data cell (by omega)
  rw [readRange_append, Nat.zero_add, burstData, front, behind,
    readRange_writeRange_apart _ _ _ _ _ (.inl (by omega)),
    readRange_burstHeaders port ethBuff.header_length]

section WriteFifo

variable {spaceAnswer fsizeAnswer : SpiAnswer} (burstAnswer : SpiAnswer) {port : UInt32}
variable (ethBuff : Adin1110EthBuff) (device : Device)

theorem adin1110WriteFifo_noRoom (fsizeAnswer : SpiAnswer)
    (exists_port : port < device.desc.chipType.numPorts)
    (spaceOk : spaceAnswer.ret = 0)
    (tight : 2 * (bigEndian32At spaceAnswer.received 3 - 2) < paddedLen ethBuff.len) :
    ∃ after rest,
      adin1110WriteFifo port ethBuff spaceAnswer fsizeAnswer burstAnswer device = (-eagain, after) ∧
        RegisterTransfer (0x80 :: 0x32 :: rest) device after := by
  obtain ⟨after, rest, read, transfer⟩ :=
    adin1110RegRead_ok adin1110TxSpaceReg device spaceOk
  refine ⟨after, rest, ?_, transfer⟩
  rw [adin1110WriteFifo, if_neg (UInt32.not_le.mpr exists_port)]
  simp only [read]
  rw [if_pos tight]

theorem adin1110WriteFifo_sends (exists_port : port < device.desc.chipType.numPorts)
    (spaceOk : spaceAnswer.ret = 0) (fsizeOk : fsizeAnswer.ret = 0)
    (room : ¬ 2 * (bigEndian32At spaceAnswer.received 3 - 2) < paddedLen ethBuff.len) :
    ∃ after rest data,
      adin1110WriteFifo port ethBuff spaceAnswer fsizeAnswer burstAnswer device =
        (burstAnswer.ret, after) ∧
      (∀ index, 7 ≤ index → data index = device.desc.data index) ∧
      after.desc = ⟨device.desc.chipType, device.desc.macAddress, burstData port ethBuff data⟩ ∧
      after.transfers = device.transfers ++
        [0x80 :: 0x32 :: rest, 0xA0 :: 0x30 :: fourBytes (paddedLen ethBuff.len),
          readRange (burstData port ethBuff data) 0 (noOsAlign (paddedLen ethBuff.len) 4 + 2).toNat] := by
  obtain ⟨asked, rest, read, question⟩ :=
    adin1110RegRead_ok adin1110TxSpaceReg device spaceOk
  obtain ⟨told, write, announcement⟩ :=
    adin1110RegWrite_ok adin1110TxFsizeReg (paddedLen ethBuff.len) fsizeAnswer asked
  obtain ⟨after, burst, desc, transfers⟩ := adin1110WriteBurst_eq port ethBuff
    (noOsAlign (paddedLen ethBuff.len) 4) burstAnswer told
  refine ⟨after, rest, told.desc.data, ?_, ?_, ?_, ?_⟩
  · rw [adin1110WriteFifo, if_neg (UInt32.not_le.mpr exists_port)]
    simp only [read]
    rw [if_neg room]
    simp only [write, fsizeOk, ne_eq, not_true_eq_false, if_false, burst]
  · intro index beyond
    rw [announcement.beyond index beyond, question.beyond index beyond]
  · rw [desc, announcement.chipType, announcement.macAddress, question.chipType, question.macAddress]
  · have asks : highByte adin1110TxSpaceReg ||| 0x80 = 0x80 ∧ lowByte adin1110TxSpaceReg = 0x32 := by
      decide
    have tells : highByte ((adin1110TxFsizeReg &&& 0x1FFF) ||| 0x8000 ||| 0x2000) = 0xA0 ∧
        lowByte ((adin1110TxFsizeReg &&& 0x1FFF) ||| 0x8000 ||| 0x2000) = 0x30 := by
      decide
    rw [transfers, announcement.transfers, question.transfers, asks.1, asks.2, tells.1, tells.2]
    simp only [List.append_assoc, List.cons_append, List.nil_append]

end WriteFifo

theorem burstData_payload (port : UInt32) (ethBuff : Adin1110EthBuff) (data : Bytes) (index : Nat)
    (inside : index < (ethBuff.len - 14).toNat) :
    burstData port ethBuff data (18 + index) = ethBuff.payload index := by
  rw [burstData, writeRange_inside _ _ _ _ (by omega) (by simpa using inside)]
  simp [readRange]

/-! Reading a frame. -/

def payloadLength (frameSize : UInt32) : Nat := (frameSize - 2 - 14).toNat

def burstLength (frameSize : UInt32) : Nat := (noOsAlign frameSize 4 + 3).toNat

/-- The ranges that reading a frame of `frame_size` bytes touches once its size is known. -/
def burstAccesses (frameSize : UInt32) : List Access :=
  [⟨.scratch, 0, 1530⟩, ⟨.scratch, 0, 2⟩, ⟨.scratch, 0, 1⟩, ⟨.scratch, 2, 1⟩, ⟨.scratch, 3, 2⟩,
    ⟨.scratch, 0, burstLength frameSize⟩, ⟨.scratch, 5, 14⟩,
    ⟨.scratch, 19, payloadLength frameSize⟩, ⟨.ethRxBuff, 0, payloadLength frameSize⟩]

/-- The frame buffer after a frame was read from `data` into `payload`. -/
def receivedBuff (frameSize : UInt32) (data payload : Bytes) : Adin1110EthBuff :=
  ⟨frameSize - 2, bytesAt _ data 5, bytesAt _ data 11, bytesAt _ data 17,
    writeRange payload 0 (readRange data 19 (payloadLength frameSize))⟩

theorem adin1110ReadBurst_ok (port : UInt32) (fifoReg : UInt16) (frameSize : UInt32)
    (ethBuff : Adin1110EthBuff) (device : Device) (succeeds : answer.ret = 0) :
    ∃ after data,
      adin1110ReadBurst port fifoReg frameSize ethBuff answer device =
        (0, receivedBuff frameSize data ethBuff.payload, after) ∧
      (∀ index < burstLength frameSize, data index = answer.received index) ∧
      after.accesses = device.accesses ++ burstAccesses frameSize := by
  refine ⟨(adin1110ReadBurst port fifoReg frameSize ethBuff answer device).2.2,
    (adin1110ReadBurst port fifoReg frameSize ethBuff answer device).2.2.desc.data, ?_, ?_, ?_⟩
  · simp only [adin1110ReadBurst, succeeds, ne_eq, not_true_eq_false, if_false]
    rfl
  · intro index inside
    simp only [adin1110ReadBurst, succeeds, ne_eq, not_true_eq_false, if_false, Device.touch_desc,
      Device.noOsSpiTransfer_desc_data, if_true]
    rw [writeRange_inside _ _ _ _ (by omega) (by rw [readRange_length]; exact inside)]
    simp [readRange]
  · simp only [adin1110ReadBurst, succeeds, ne_eq, not_true_eq_false, if_false, Device.touch_accesses,
      Device.noOsSpiTransfer_accesses, Device.noOsPutUnalignedBe16, Device.setFlags,
      Device.store_accesses, List.length_replicate, List.append_assoc, List.cons_append, List.nil_append]
    rfl

section ReadFifo

variable {fsizeAnswer burstAnswer : SpiAnswer} (ethBuff : Adin1110EthBuff) (device : Device)

theorem adin1110ReadFifo_empty (burstAnswer : SpiAnswer)
    (exists_port : 0 < device.desc.chipType.numPorts)
    (fsizeOk : fsizeAnswer.ret = 0) (empty : bigEndian32At fsizeAnswer.received 3 < 6) :
    ∃ after rest, adin1110ReadFifo 0 ethBuff fsizeAnswer burstAnswer device = (0, ethBuff, after) ∧
      RegisterTransfer (0x80 :: 0x90 :: rest) device after := by
  obtain ⟨after, rest, read, transfer⟩ :=
    adin1110RegRead_ok adin1110RxFsizeReg device fsizeOk
  refine ⟨after, rest, ?_, transfer⟩
  rw [adin1110ReadFifo, if_neg (UInt32.not_le.mpr exists_port)]
  simp only [if_true, read]
  exact if_pos empty

theorem adin1110ReadFifo_frame (exists_port : 0 < device.desc.chipType.numPorts)
    (fsizeOk : fsizeAnswer.ret = 0) (burstOk : burstAnswer.ret = 0) {frameSize : UInt32}
    (reported : bigEndian32At fsizeAnswer.received 3 = frameSize) (waiting : ¬ frameSize < 6) :
    ∃ after data touched,
      adin1110ReadFifo 0 ethBuff fsizeAnswer burstAnswer device =
        (0, receivedBuff frameSize data ethBuff.payload, after) ∧
      (∀ index < burstLength frameSize, data index = burstAnswer.received index) ∧
      after.accesses = device.accesses ++ (touched ++ burstAccesses frameSize) ∧
      ∀ access ∈ touched, access.Inside := by
  obtain ⟨asked, rest, read, question⟩ :=
    adin1110RegRead_ok adin1110RxFsizeReg device fsizeOk
  obtain ⟨touched, log, inside⟩ := question.accesses
  obtain ⟨after, data, burst, received, accesses⟩ :=
    adin1110ReadBurst_ok 0 adin1110RxReg frameSize ethBuff asked burstOk
  refine ⟨after, data, touched, ?_, received, ?_, inside⟩
  · rw [adin1110ReadFifo, if_neg (UInt32.not_le.mpr exists_port)]
    simp only [if_true, read, reported]
    exact (if_neg waiting).trans burst
  · rw [accesses, log, List.append_assoc]

end ReadFifo

theorem payloadLength_eq (frameSize : UInt32) :
    payloadLength frameSize = (frameSize.toNat + 0xFFFFFFF0) % 0x100000000 := by
  have bound := frameSize.toNat_lt
  rw [payloadLength, UInt32.toNat_sub, UInt32.toNat_sub]
  simp
  omega

theorem burstLength_eq (frameSize : UInt32) :
    burstLength frameSize = (frameSize.toNat + 3) % 0x100000000 / 4 * 4 + 3 := by
  rw [burstLength, UInt32.toNat_add, noOsAlign_four_toNat, UInt32.toNat_add]
  simp
  omega

theorem burstAccesses_inside (frameSize : UInt32) (waiting : 6 ≤ frameSize.toNat) :
    (∀ access ∈ burstAccesses frameSize, access.Inside) ↔
      16 ≤ frameSize.toNat ∧ frameSize.toNat ≤ 1524 := by
  have bound := frameSize.toNat_lt
  have payload := payloadLength_eq frameSize
  have burst := burstLength_eq frameSize
  simp [burstAccesses, Access.inside_iff, Buffer.size, adin1110BuffLen]
  omega

end SpeFramework.Network
