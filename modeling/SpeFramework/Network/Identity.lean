import SpeFramework.Network.Interface

/-!
No call, however its transfers end, gives `adin1110_desc` another value, chip or address.
-/

namespace SpeFramework.Network

open RangeStore ByteOrder

def Adin1110Desc.identity (desc : Adin1110Desc) : Adin1110ChipId × Vector UInt8 adin1110EthAlen :=
  (desc.chipType, desc.macAddress)

section Identity

variable (device : Device)

namespace Device

@[simp] theorem touch_identity (buffer : Buffer) (offset length : Nat) :
    (device.touch buffer offset length).desc.identity = device.desc.identity := rfl

@[simp] theorem store_identity (offset : Nat) (bytes : List UInt8) :
    (device.store offset bytes).desc.identity = device.desc.identity := rfl

@[simp] theorem setFlags_identity (mask : UInt8) :
    (device.setFlags mask).desc.identity = device.desc.identity := rfl

@[simp] theorem noOsPutUnalignedBe16_identity (value : UInt16) (offset : Nat) :
    (device.noOsPutUnalignedBe16 value offset).desc.identity = device.desc.identity := rfl

@[simp] theorem noOsPutUnalignedBe32_identity (value : UInt32) (offset : Nat) :
    (device.noOsPutUnalignedBe32 value offset).desc.identity = device.desc.identity := rfl

@[simp] theorem noOsSpiTransfer_identity (bytesNumber : Nat) (rx : Bool) (answer : SpiAnswer) :
    (device.noOsSpiTransfer bytesNumber rx answer).desc.identity = device.desc.identity := rfl

end Device

theorem adin1110RegWrite_identity (addr : UInt16) (data : UInt32) (answer : SpiAnswer) :
    (adin1110RegWrite addr data answer device).2.desc.identity = device.desc.identity := by
  simp [adin1110RegWrite]

theorem adin1110RegRead_identity (addr : UInt16) (answer : SpiAnswer) :
    (adin1110RegRead addr answer device).2.desc.identity = device.desc.identity := by
  simp only [adin1110RegRead]
  split
  · simp
  · simp

theorem adin1110WriteBurst_identity (port : UInt32) (ethBuff : Adin1110EthBuff) (roundLen : UInt32)
    (answer : SpiAnswer) :
    (adin1110WriteBurst port ethBuff roundLen answer device).2.desc.identity =
      device.desc.identity := by
  simp [adin1110WriteBurst]

theorem adin1110ReadBurst_identity (port : UInt32) (fifoReg : UInt16) (frameSize : UInt32)
    (ethBuff : Adin1110EthBuff) (answer : SpiAnswer) :
    (adin1110ReadBurst port fifoReg frameSize ethBuff answer device).2.2.desc.identity =
      device.desc.identity := by
  simp only [adin1110ReadBurst]
  split
  · simp
  · simp

theorem adin1110SetPromisc_identity (port : UInt32) (promisc : Bool)
    (readAnswer writeAnswer : SpiAnswer) :
    (adin1110SetPromisc port promisc readAnswer writeAnswer device).2.desc.identity =
      device.desc.identity := by
  rw [adin1110SetPromisc]
  split
  · rfl
  · have kept := adin1110RegRead_identity device adin1110Config2Reg readAnswer
    simp only [adin1110RegUpdate]
    split
    · rename_i read
      rwa [read] at kept
    · rename_i read
      rw [read] at kept
      rw [adin1110RegWrite_identity]
      exact kept

theorem adin1110WriteFifo_identity (port : UInt32) (ethBuff : Adin1110EthBuff)
    (spaceAnswer fsizeAnswer burstAnswer : SpiAnswer) :
    (adin1110WriteFifo port ethBuff spaceAnswer fsizeAnswer burstAnswer device).2.desc.identity =
      device.desc.identity := by
  rw [adin1110WriteFifo]
  split
  · rfl
  · have kept := adin1110RegRead_identity device adin1110TxSpaceReg spaceAnswer
    split
    · rename_i read
      rwa [read] at kept
    · rename_i between read
      rw [read] at kept
      have announced := adin1110RegWrite_identity between adin1110TxFsizeReg (paddedLen ethBuff.len)
        fsizeAnswer
      simp only
      split
      · exact kept
      · split
        · exact announced.trans kept
        · rw [adin1110WriteBurst_identity]
          exact announced.trans kept

theorem adin1110ReadFifo_identity (port : UInt32) (ethBuff : Adin1110EthBuff)
    (fsizeAnswer burstAnswer : SpiAnswer) :
    (adin1110ReadFifo port ethBuff fsizeAnswer burstAnswer device).2.2.desc.identity =
      device.desc.identity := by
  rw [adin1110ReadFifo]
  split
  · rfl
  · simp only
    have kept := adin1110RegRead_identity device
      (if port = 0 then adin1110RxFsizeReg else adin2111RxP2FsizeReg) fsizeAnswer
    split
    · rename_i read
      rwa [read] at kept
    · rename_i read
      rw [read] at kept
      split
      · exact kept
      · rw [adin1110ReadBurst_identity]
        exact kept

end Identity

def Interface.identity (interface : Interface) :
    Option (Adin1110ChipId × Vector UInt8 adin1110EthAlen) :=
  interface.adin1110Desc.map Adin1110Desc.identity

theorem identity_none_iff (interface : Interface) :
    interface.identity = none ↔ interface.adin1110Desc = none :=
  Option.map_eq_none_iff

theorem callDriver_identity {ρ : Type} {function : Device → ρ × Device}
    (keeps : ∀ device, (function device).2.desc.identity = device.desc.identity)
    {interface after : Interface} {result : ρ}
    (call : interface.callDriver function = some (result, after)) :
    after.identity = interface.identity := by
  rw [Interface.callDriver] at call
  cases present : interface.adin1110Desc with
  | none => simp [present] at call
  | some desc =>
      simp only [present, Option.some.injEq, Prod.mk.injEq] at call
      obtain ⟨-, rfl⟩ := call
      rw [Interface.identity, Interface.identity, Interface.setDevice_adin1110Desc, Option.map_some,
        keeps (interface.device desc), present]
      rfl

theorem fillPbuf_adin1110Desc (ethBuff : Adin1110EthBuff) (p : Pbuf) (interface : Interface) :
    (fillPbuf ethBuff p interface).2.adin1110Desc = interface.adin1110Desc := by
  simp [fillPbuf]

theorem adin1110ifDeliver_identity (readRet : Int) (ethBuff : Adin1110EthBuff)
    (pbufAlloc : Option Bytes) (input : Int8) (interface : Interface) :
    (adin1110ifDeliver readRet ethBuff pbufAlloc input interface).2.identity = interface.identity := by
  unfold adin1110ifDeliver
  split
  · cases pbufAlloc with
    | none => rfl
    | some payload =>
        simp only [Interface.identity, Interface.netifInput_adin1110Desc, fillPbuf_adin1110Desc,
          Interface.takePbuf_adin1110Desc]
  · rfl

theorem initRest_identity {readAnswer writeAnswer : SpiAnswer} {interface after : Interface}
    {ret : Int8} (call : adin1110ifInitRest readAnswer writeAnswer interface = some (ret, after)) :
    after.identity = interface.identity := by
  rw [adin1110ifInitRest] at call
  cases driver : interface.callDriver (adin1110SetPromisc 0 true readAnswer writeAnswer) with
  | none => simp [driver] at call
  | some result =>
      obtain ⟨promisc, between⟩ := result
      have kept := callDriver_identity
        (fun device => adin1110SetPromisc_identity device 0 true readAnswer writeAnswer) driver
      simp only [driver] at call
      split at call
      · cases call
        exact kept
      · cases call
        exact kept

theorem pollReadFifo_identity {fsizeAnswer burstAnswer : SpiAnswer} {ethBuff : Adin1110EthBuff}
    {interface after : Interface} {result : Int × Adin1110EthBuff}
    (call : pollReadFifo fsizeAnswer burstAnswer ethBuff interface = some (result, after)) :
    after.identity = interface.identity := by
  rw [pollReadFifo] at call
  refine callDriver_identity ?_ call
  intro device
  exact adin1110ReadFifo_identity device 0 ethBuff fsizeAnswer burstAnswer

theorem poll_identity {mutexWait : Int} {fsizeAnswer burstAnswer : SpiAnswer}
    {pbufAlloc : Option Bytes} {input ret : Int8} {interface after : Interface}
    (call : adin1110ifPoll (pollReadFifo fsizeAnswer burstAnswer) mutexWait pbufAlloc input interface =
      some (ret, after)) : after.identity = interface.identity := by
  simp only [adin1110ifPoll] at call
  split at call
  · split at call
    · cases call
    · rename_i readRet ethBuff between driver
      have delivered := adin1110ifDeliver_identity readRet ethBuff pbufAlloc input
        (between.setEthRxBuff ethBuff.payload).osMutexRelease
      rw [Option.some.inj call] at delivered
      have kept := pollReadFifo_identity driver
      exact delivered.trans kept
  · cases call
    rfl

theorem linkOutput_identity {p : PbufChain} {mutexWait : Int}
    {spaceAnswer fsizeAnswer burstAnswer : SpiAnswer} {interface after : Interface} {ret : Int8}
    (call : adin1110ifLinkOutput p mutexWait spaceAnswer fsizeAnswer burstAnswer interface =
      some (ret, after)) : after.identity = interface.identity := by
  rw [adin1110ifLinkOutput] at call
  split at call
  · cases call
    rfl
  · split at call
    · split at call
      · cases call
      · rename_i written between driver
        cases call
        change between.identity = interface.osMutexTake.identity
        exact callDriver_identity (fun device =>
          adin1110WriteFifo_identity device 0 _ spaceAnswer fsizeAnswer burstAnswer) driver
    · cases call
      rfl

theorem interfaceStep_identity (interface : Interface) (event : InterfaceEvent) :
    (interfaceStep interface event).identity = interface.identity := by
  rw [interfaceStep]
  cases called : interfaceCall event interface with
  | none => rfl
  | some result =>
      cases event with
      | initCompletes readAnswer writeAnswer => exact initRest_identity called
      | poll mutexWait fsizeAnswer burstAnswer pbufAlloc input => exact poll_identity called
      | output p mutexWait spaceAnswer fsizeAnswer burstAnswer => exact linkOutput_identity called

theorem run_identity (start : Interface) (events : List InterfaceEvent) :
    (events.foldl interfaceStep start).identity = start.identity := by
  induction events generalizing start with
  | nil => rfl
  | cons event events ih => rw [List.foldl_cons, ih, interfaceStep_identity]

end SpeFramework.Network
