import Mathlib.Tactic.Simps.Basic
import SpeFramework.Lib.ByteOrder

/-!
`adin1110.c`, as far as `network.c` calls it. Each SPI transfer is answered with a result and
with the bytes that come back; what is sent and what is touched is logged. `append_crc` is off,
as `adin1110if_setup` leaves it.
-/

namespace SpeFramework.Network

open RangeStore ByteOrder

abbrev Bytes := Nat → UInt8

abbrev adin1110BuffLen : Nat := 1530
abbrev adin1110EthAlen : Nat := 6
abbrev adin1110EthHdrLen : UInt32 := 14
abbrev adin1110FcsLen : UInt32 := 4
abbrev adin1110FecLen : UInt32 := 4
abbrev adin1110WrHeaderLen : UInt32 := 2
abbrev adin1110RdHeaderLen : UInt32 := 3
abbrev adin1110FrameHeaderLen : UInt32 := 2

abbrev adin1110Config2Reg : UInt16 := 0x06
abbrev adin1110TxFsizeReg : UInt16 := 0x30
abbrev adin1110TxReg : UInt16 := 0x31
abbrev adin1110TxSpaceReg : UInt16 := 0x32
abbrev adin1110RxFsizeReg : UInt16 := 0x90
abbrev adin1110RxReg : UInt16 := 0x91
abbrev adin2111RxP2FsizeReg : UInt16 := 0xC0
abbrev adin2111RxP2Reg : UInt16 := 0xC1

abbrev adin1110FwdUnk2hostMask : UInt32 := 0x4
abbrev adin2111P2FwdUnk2hostMask : UInt32 := 0x1000

abbrev eagain : Int := 11
abbrev einval : Int := 22

inductive Adin1110ChipId
  | adin1110
  | adin2111
  deriving DecidableEq, Repr

def Adin1110ChipId.numPorts : Adin1110ChipId → UInt32
  | .adin1110 => 1
  | .adin2111 => 2

structure Adin1110Desc where
  chipType : Adin1110ChipId
  macAddress : Vector UInt8 adin1110EthAlen
  /-- The scratch buffer, then whatever memory follows it. -/
  data : Bytes

structure Adin1110EthBuff where
  len : UInt32
  macDest : Vector UInt8 adin1110EthAlen
  macSource : Vector UInt8 adin1110EthAlen
  ethertype : Vector UInt8 2
  payload : Bytes

/-- The bytes from `mac_dest[0]` on: the three fields lie one after the other. -/
def Adin1110EthBuff.header (ethBuff : Adin1110EthBuff) : List UInt8 :=
  ethBuff.macDest.toList ++ ethBuff.macSource.toList ++ ethBuff.ethertype.toList

@[simp] theorem Adin1110EthBuff.header_length (ethBuff : Adin1110EthBuff) :
    ethBuff.header.length = 14 := by
  simp [header, adin1110EthAlen]

def bytesAt (count : Nat) (bytes : Bytes) (start : Nat) : Vector UInt8 count :=
  Vector.ofFn fun index => bytes (start + index)

@[simp] theorem bytesAt_toList (count : Nat) (bytes : Bytes) (start : Nat) :
    (bytesAt count bytes start).toList = readRange bytes start count := by
  apply List.ext_getElem
  · simp
  · intro index first second
    simp [bytesAt, readRange]

/-- The buffers whose ends the code has to respect. -/
inductive Buffer
  | scratch
  | ethRxBuff
  | pbuf (len : UInt16)
  deriving DecidableEq, Repr

def Buffer.size : Buffer → Nat
  | .scratch => adin1110BuffLen
  | .ethRxBuff => adin1110BuffLen
  | .pbuf len => len.toNat

structure Access where
  buffer : Buffer
  offset : Nat
  length : Nat
  deriving DecidableEq, Repr

def Access.Inside (access : Access) : Prop :=
  ∀ index, access.offset ≤ index → index < access.offset + access.length → index < access.buffer.size

theorem Access.inside_iff (access : Access) :
    access.Inside ↔ access.length = 0 ∨ access.offset + access.length ≤ access.buffer.size := by
  constructor
  · intro inside
    by_cases empty : access.length = 0
    · exact .inl empty
    · have last := inside (access.offset + access.length - 1) (by omega) (by omega)
      exact .inr (by omega)
  · intro bound index lower upper
    omega

instance (access : Access) : Decidable access.Inside := decidable_of_iff' _ access.inside_iff

structure SpiAnswer where
  ret : Int
  received : Bytes

/-- A descriptor that is not `NULL`, the transfers made through it so far, newest last, and the
ranges touched. -/
structure Device where
  desc : Adin1110Desc
  transfers : List (List UInt8)
  accesses : List Access

namespace Device

@[simps -fullyApplied] def touch (buffer : Buffer) (offset length : Nat) (device : Device) : Device :=
  { device with accesses := device.accesses ++ [⟨buffer, offset, length⟩] }

@[simps -fullyApplied] def store (offset : Nat) (bytes : List UInt8) (device : Device) : Device :=
  { device with
    desc := { device.desc with data := writeRange device.desc.data offset bytes }
    accesses := device.accesses ++ [⟨.scratch, offset, bytes.length⟩] }

/-- `desc->data[0] |= mask` -/
def setFlags (mask : UInt8) (device : Device) : Device :=
  device.store 0 [device.desc.data 0 ||| mask]

def noOsPutUnalignedBe16 (value : UInt16) (offset : Nat) (device : Device) : Device :=
  device.store offset [highByte value, lowByte value]

def noOsPutUnalignedBe32 (value : UInt32) (offset : Nat) (device : Device) : Device :=
  device.store offset (fourBytes value)

/-- One message of `bytes_number` bytes from the scratch buffer; with `rx` the bytes that come
back replace them. -/
@[simps -fullyApplied] def noOsSpiTransfer (bytesNumber : Nat) (rx : Bool) (answer : SpiAnswer)
    (device : Device) : Device :=
  { desc :=
      { device.desc with
        data := if rx then writeRange device.desc.data 0 (readRange answer.received 0 bytesNumber)
          else device.desc.data }
    transfers := device.transfers ++ [readRange device.desc.data 0 bytesNumber]
    accesses := device.accesses ++ [⟨.scratch, 0, bytesNumber⟩] }

end Device

/-- `no_os_align` -/
def noOsAlign (x align : UInt32) : UInt32 := (x + (align - 1)) &&& ~~~(align - 1)

theorem noOsAlign_four_toNat (x : UInt32) : (noOsAlign x 4).toNat = (x + 3).toNat / 4 * 4 := by
  apply Nat.eq_of_testBit_eq
  intro bit
  have high := toNat_testBit_beyond (x + 3) bit
  have four : (4 : Nat) = 2 ^ 2 := rfl
  have three : (4 - 1 : UInt32) = 3 := by decide
  have mask : (~~~3 : UInt32).toNat = (2 ^ 30 - 1) * 2 ^ 2 := by decide
  rw [noOsAlign, three, UInt32.toNat_and, mask, Nat.testBit_and, Nat.testBit_mul_two_pow,
    Nat.testBit_two_pow_sub_one, four, Nat.testBit_mul_two_pow, Nat.testBit_div_two_pow]
  grind

def adin1110RegWrite (addr : UInt16) (data : UInt32) (answer : SpiAnswer) (device : Device) :
    Int × Device :=
  let header := (addr &&& 0x1FFF) ||| 0x8000 ||| 0x2000
  let device := device.noOsPutUnalignedBe16 header 0
  let device := device.noOsPutUnalignedBe32 data adin1110WrHeaderLen.toNat
  (answer.ret, device.noOsSpiTransfer 6 false answer)

def adin1110RegRead (addr : UInt16) (answer : SpiAnswer) (device : Device) :
    Except Int UInt32 × Device :=
  let device := device.noOsPutUnalignedBe16 addr 0
  let device := device.setFlags 0x80
  let device := device.store 2 [0]
  let device := device.noOsSpiTransfer 7 true answer
  if answer.ret ≠ 0 then (.error answer.ret, device)
  else
    (.ok (bigEndian32At device.desc.data adin1110RdHeaderLen.toNat),
      device.touch .scratch adin1110RdHeaderLen.toNat 4)

def adin1110RegUpdate (addr : UInt16) (mask data : UInt32) (readAnswer writeAnswer : SpiAnswer)
    (device : Device) : Int × Device :=
  match adin1110RegRead addr readAnswer device with
  | (.error ret, device) => (ret, device)
  | (.ok val, device) =>
      adin1110RegWrite addr ((val &&& ~~~mask) ||| (mask &&& data)) writeAnswer device

def adin1110SetPromisc (port : UInt32) (promisc : Bool) (readAnswer writeAnswer : SpiAnswer)
    (device : Device) : Int × Device :=
  if device.desc.chipType.numPorts ≤ port then (-einval, device)
  else
    let fwdMask := if port = 0 then adin1110FwdUnk2hostMask else adin2111P2FwdUnk2hostMask
    adin1110RegUpdate adin1110Config2Reg fwdMask (if promisc then fwdMask else 0) readAnswer
      writeAnswer device

/-- The minimum frame length is 64 bytes, with its checksum. -/
def framePadding (len : UInt32) : UInt32 :=
  if len + adin1110FcsLen < 64 then 64 - (len + adin1110FcsLen) else 0

def paddedLen (len : UInt32) : UInt32 := len + framePadding len + adin1110FrameHeaderLen

/-- The burst that ends `adin1110_write_fifo`. -/
def adin1110WriteBurst (port : UInt32) (ethBuff : Adin1110EthBuff) (roundLen : UInt32)
    (answer : SpiAnswer) (device : Device) : Int × Device :=
  let headerLen := adin1110WrHeaderLen
  let device := device.noOsPutUnalignedBe16 adin1110TxReg 0
  let device := device.setFlags (0x80 ||| 0x20)
  let device := device.noOsPutUnalignedBe16 port.toUInt16 headerLen.toNat
  let frameOffset := headerLen + adin1110FrameHeaderLen
  let device := device.store frameOffset.toNat ethBuff.header
  let frameOffset := frameOffset + adin1110EthHdrLen
  let device := device.store frameOffset.toNat
    (readRange ethBuff.payload 0 (ethBuff.len - adin1110EthHdrLen).toNat)
  (answer.ret, device.noOsSpiTransfer (roundLen + headerLen).toNat false answer)

def adin1110WriteFifo (port : UInt32) (ethBuff : Adin1110EthBuff)
    (spaceAnswer fsizeAnswer burstAnswer : SpiAnswer) (device : Device) : Int × Device :=
  if device.desc.chipType.numPorts ≤ port then (-einval, device)
  else
    let paddedLen := paddedLen ethBuff.len
    let roundLen := noOsAlign paddedLen 4
    match adin1110RegRead adin1110TxSpaceReg spaceAnswer device with
    | (.error ret, device) => (ret, device)
    | (.ok txSpace, device) =>
        if 2 * (txSpace - adin1110FrameHeaderLen) < paddedLen then (-eagain, device)
        else
          match adin1110RegWrite adin1110TxFsizeReg paddedLen fsizeAnswer device with
          | (ret, device) =>
              if ret ≠ 0 then (ret, device)
              else adin1110WriteBurst port ethBuff roundLen burstAnswer device

/-- The burst that `adin1110_read_fifo` makes for a frame of `frame_size` bytes. -/
def adin1110ReadBurst (port : UInt32) (fifoReg : UInt16) (frameSize : UInt32)
    (ethBuff : Adin1110EthBuff) (answer : SpiAnswer) (device : Device) :
    Int × Adin1110EthBuff × Device :=
  let fieldOffset := adin1110RdHeaderLen
  let device := device.store 0 (List.replicate adin1110BuffLen 0)
  let device := device.noOsPutUnalignedBe16 fifoReg 0
  let device := device.setFlags 0x80
  let device := device.store 2 [0]
  let device := device.noOsPutUnalignedBe16 port.toUInt16 fieldOffset.toNat
  let roundedLen := noOsAlign frameSize 4
  let bytesNumber := roundedLen + fieldOffset
  let fieldOffset := fieldOffset + adin1110FrameHeaderLen
  let device := device.noOsSpiTransfer bytesNumber.toNat true answer
  if answer.ret ≠ 0 then (answer.ret, ethBuff, device)
  else
    let payloadLength := frameSize - adin1110FrameHeaderLen - adin1110EthHdrLen
    let start := fieldOffset.toNat
    let header := device.desc.data
    let device := device.touch .scratch start adin1110EthHdrLen.toNat
    let fieldOffset := fieldOffset + adin1110EthHdrLen
    let payload := readRange device.desc.data fieldOffset.toNat payloadLength.toNat
    let device := device.touch .scratch fieldOffset.toNat payloadLength.toNat
    let device := device.touch .ethRxBuff 0 payloadLength.toNat
    (0,
      { len := frameSize - adin1110FrameHeaderLen
        macDest := bytesAt _ header start
        macSource := bytesAt _ header (start + 6)
        ethertype := bytesAt _ header (start + 12)
        payload := writeRange ethBuff.payload 0 payload },
      device)

def adin1110ReadFifo (port : UInt32) (ethBuff : Adin1110EthBuff)
    (fsizeAnswer burstAnswer : SpiAnswer) (device : Device) : Int × Adin1110EthBuff × Device :=
  if device.desc.chipType.numPorts ≤ port then (-einval, ethBuff, device)
  else
    let fifoReg := if port = 0 then adin1110RxReg else adin2111RxP2Reg
    let fifoFsizeReg := if port = 0 then adin1110RxFsizeReg else adin2111RxP2FsizeReg
    match adin1110RegRead fifoFsizeReg fsizeAnswer device with
    | (.error ret, device) => (ret, ethBuff, device)
    | (.ok frameSize, device) =>
        if frameSize < adin1110FrameHeaderLen + adin1110FecLen then (0, ethBuff, device)
        else adin1110ReadBurst port fifoReg frameSize ethBuff burstAnswer device

end SpeFramework.Network
