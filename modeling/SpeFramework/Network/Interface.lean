import SpeFramework.Network.Adin1110

/-!
`network.c`: the lwIP interface on top of the driver. A call of a driver function through a `NULL`
descriptor has no defined result, so the functions here return `none` from there on.
-/

namespace SpeFramework.Network

open RangeStore ByteOrder

abbrev osOK : Int := 0

structure Pbuf where
  payload : Bytes
  len : UInt16

def Pbuf.bytes (p : Pbuf) : List UInt8 := readRange p.payload 0 p.len.toNat

def Pbuf.store (offset : Nat) (bytes : List UInt8) (p : Pbuf) : Pbuf :=
  { p with payload := writeRange p.payload offset bytes }

structure PbufChain where
  first : Pbuf
  next : List Pbuf

def PbufChain.bytes (p : PbufChain) : List UInt8 := p.first.bytes ++ p.next.flatMap Pbuf.bytes

structure Interface where
  adin1110Desc : Option Adin1110Desc
  ethRxBuff : Bytes
  transfers : List (List UInt8)
  accesses : List Access
  mutexHeld : Bool
  allocated : Nat
  /-- The allocated buffers that the stack has not accepted and nobody has freed. -/
  unclaimed : List Nat
  /-- What `netif->input` was called with, newest last. -/
  delivered : List Pbuf

def Interface.start (adin1110Desc : Option Adin1110Desc) : Interface :=
  ⟨adin1110Desc, fun _ => 0, [], [], false, 0, [], []⟩

namespace Interface

@[simps -fullyApplied] def osMutexTake (interface : Interface) : Interface :=
  { interface with mutexHeld := true }

@[simps -fullyApplied] def osMutexRelease (interface : Interface) : Interface :=
  { interface with mutexHeld := false }

@[simps -fullyApplied] def touch (buffer : Buffer) (offset length : Nat)
    (interface : Interface) : Interface :=
  { interface with accesses := interface.accesses ++ [⟨buffer, offset, length⟩] }

@[simps -fullyApplied] def setEthRxBuff (bytes : Bytes) (interface : Interface) : Interface :=
  { interface with ethRxBuff := bytes }

@[simps -fullyApplied] def takePbuf (interface : Interface) : Interface :=
  { interface with
    allocated := interface.allocated + 1
    unclaimed := interface.allocated :: interface.unclaimed }

@[simps -fullyApplied] def netifInput (p : Pbuf) (number : Nat) (ret : Int8)
    (interface : Interface) : Interface :=
  { interface with
    unclaimed := if ret = 0 then interface.unclaimed.erase number else interface.unclaimed
    delivered := interface.delivered ++ [p] }

def device (desc : Adin1110Desc) (interface : Interface) : Device :=
  ⟨desc, interface.transfers, interface.accesses⟩

@[simps -fullyApplied] def setDevice (device : Device) (interface : Interface) : Interface :=
  { interface with
    adin1110Desc := some device.desc
    transfers := device.transfers
    accesses := device.accesses }

def callDriver {ρ : Type} (function : Device → ρ × Device) (interface : Interface) :
    Option (ρ × Interface) :=
  match interface.adin1110Desc with
  | none => none
  | some desc =>
      let (result, device) := function (interface.device desc)
      some (result, interface.setDevice device)

end Interface

def configuredDesc : Adin1110Desc where
  chipType := .adin1110
  macAddress := #v[0x02, 0xE0, 0x22, 0xFE, 0xDA, 0xD1]
  data := fun _ => 0

def adin1110ifSetup (ret : Int) (descriptor : Adin1110Desc) : Option Adin1110Desc :=
  if ret ≠ 0 then none else some descriptor

/-- `adin1110if_init` from the assignment of `adin1110_desc` on. -/
def adin1110ifInitRest (readAnswer writeAnswer : SpiAnswer) (interface : Interface) :
    Option (Int8 × Interface) :=
  match interface.callDriver (adin1110SetPromisc 0 true readAnswer writeAnswer) with
  | none => none
  | some (_, interface) =>
      if interface.adin1110Desc.isNone then some (-1, interface) else some (0, interface)

def adin1110ifInit (ret : Int) (descriptor : Adin1110Desc) (readAnswer writeAnswer : SpiAnswer)
    (interface : Interface) : Option (Int8 × Interface) :=
  adin1110ifInitRest readAnswer writeAnswer
    { interface with adin1110Desc := adin1110ifSetup ret descriptor }

/-- What `adin1110if_link_output` hands to the driver: only the first segment of the chain. -/
def outputEthBuff (desc : Adin1110Desc) (p : PbufChain) : Adin1110EthBuff where
  len := p.first.len.toUInt32
  macDest := bytesAt _ p.first.payload 0
  macSource := desc.macAddress
  ethertype := bytesAt _ p.first.payload (adin1110EthAlen * 2)
  payload := fun index => p.first.payload (adin1110EthHdrLen.toNat + index)

def adin1110ifLinkOutput (p : PbufChain) (mutexWait : Int)
    (spaceAnswer fsizeAnswer burstAnswer : SpiAnswer) (interface : Interface) :
    Option (Int8 × Interface) :=
  match interface.adin1110Desc with
  | none => some (-1, interface)
  | some desc =>
      if mutexWait = osOK then
        match interface.osMutexTake.callDriver
            (adin1110WriteFifo 0 (outputEthBuff desc p) spaceAnswer fsizeAnswer burstAnswer) with
        | none => none
        | some (ret, interface) => some (Int8.ofInt ret, interface.osMutexRelease)
      else some (1, interface)

def fillPbuf (ethBuff : Adin1110EthBuff) (p : Pbuf) (interface : Interface) : Pbuf × Interface :=
  let copy (offset : Nat) (bytes : List UInt8) (state : Pbuf × Interface) : Pbuf × Interface :=
    (state.1.store offset bytes, state.2.touch (.pbuf p.len) offset bytes.length)
  let length := (ethBuff.len - adin1110EthHdrLen).toNat
  (p, interface)
    |> copy 0 ethBuff.macDest.toList
    |> copy adin1110EthAlen ethBuff.macSource.toList
    |> copy (adin1110EthAlen * 2) ethBuff.ethertype.toList
    |> Prod.map id (Interface.touch .ethRxBuff 0 length)
    |> copy (adin1110EthAlen * 2 + 2) (readRange ethBuff.payload 0 length)

def adin1110ifDeliver (readRet : Int) (ethBuff : Adin1110EthBuff) (pbufAlloc : Option Bytes)
    (input : Int8) (interface : Interface) : Int8 × Interface :=
  if readRet = 0 ∧ 0 < ethBuff.len then
    match pbufAlloc with
    | none => (1, interface)
    | some payload =>
        let number := interface.allocated
        let (p, interface) := fillPbuf ethBuff ⟨payload, ethBuff.len.toUInt16⟩ interface.takePbuf
        (input, interface.netifInput p number input)
  else (0, interface)

def pollBuff (interface : Interface) : Adin1110EthBuff where
  len := 0
  macDest := Vector.replicate _ 0
  macSource := Vector.replicate _ 0
  ethertype := Vector.replicate _ 0
  payload := interface.ethRxBuff

/-- `read_fifo` stands for `adin1110_read_fifo` on port 0. -/
def adin1110ifPoll
    (readFifo : Adin1110EthBuff → Interface → Option ((Int × Adin1110EthBuff) × Interface))
    (mutexWait : Int) (pbufAlloc : Option Bytes) (input : Int8) (interface : Interface) :
    Option (Int8 × Interface) :=
  if mutexWait = osOK then
    match readFifo (pollBuff interface) interface.osMutexTake with
    | none => none
    | some ((readRet, ethBuff), interface) =>
        some (adin1110ifDeliver readRet ethBuff pbufAlloc input
          (interface.setEthRxBuff ethBuff.payload).osMutexRelease)
  else some (1, interface)

theorem poll_answered
    {readFifo : Adin1110EthBuff → Interface → Option ((Int × Adin1110EthBuff) × Interface)}
    {interface between : Interface} {readRet : Int} {ethBuff : Adin1110EthBuff}
    (pbufAlloc : Option Bytes) (input : Int8)
    (answer : readFifo (pollBuff interface) interface.osMutexTake = some ((readRet, ethBuff), between)) :
    adin1110ifPoll readFifo osOK pbufAlloc input interface =
      some (adin1110ifDeliver readRet ethBuff pbufAlloc input
        (between.setEthRxBuff ethBuff.payload).osMutexRelease) := by
  simp only [adin1110ifPoll, if_true, answer]

def pollReadFifo (fsizeAnswer burstAnswer : SpiAnswer) (ethBuff : Adin1110EthBuff)
    (interface : Interface) : Option ((Int × Adin1110EthBuff) × Interface) :=
  interface.callDriver fun device =>
    let (ret, ethBuff, device) := adin1110ReadFifo 0 ethBuff fsizeAnswer burstAnswer device
    ((ret, ethBuff), device)

/-! Runs of the interface after `adin1110if_setup`. -/

inductive InterfaceEvent
  | initCompletes (readAnswer writeAnswer : SpiAnswer)
  | poll (mutexWait : Int) (fsizeAnswer burstAnswer : SpiAnswer) (pbufAlloc : Option Bytes)
      (input : Int8)
  | output (p : PbufChain) (mutexWait : Int) (spaceAnswer fsizeAnswer burstAnswer : SpiAnswer)

def interfaceCall : InterfaceEvent → Interface → Option (Int8 × Interface)
  | .initCompletes readAnswer writeAnswer, interface =>
      adin1110ifInitRest readAnswer writeAnswer interface
  | .poll mutexWait fsizeAnswer burstAnswer pbufAlloc input, interface =>
      adin1110ifPoll (pollReadFifo fsizeAnswer burstAnswer) mutexWait pbufAlloc input interface
  | .output p mutexWait spaceAnswer fsizeAnswer burstAnswer, interface =>
      adin1110ifLinkOutput p mutexWait spaceAnswer fsizeAnswer burstAnswer interface

def interfaceStep (interface : Interface) (event : InterfaceEvent) : Interface :=
  ((interfaceCall event interface).map Prod.snd).getD interface

end SpeFramework.Network
