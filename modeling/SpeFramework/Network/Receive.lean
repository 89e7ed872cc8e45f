import SpeFramework.Network.DriverCases
import SpeFramework.Network.Interface

/-!
One `adin1110if_poll`: the frame it delivers, for every size that the chip can report, and the
buffers it stays inside.
-/

namespace SpeFramework.Network

open RangeStore ByteOrder

def accessesSince (before after : Interface) : List Access :=
  after.accesses.drop before.accesses.length

/-- What came back behind the read header and the header of the frame, `frame_size - 2` bytes. -/
def DeliversFrame (frameSize : UInt32) (burstAnswer : SpiAnswer) (before after : Interface) : Prop :=
  ∃ p, after.delivered = before.delivered ++ [p] ∧ p.len.toNat + 2 = frameSize.toNat ∧
    p.bytes = readRange burstAnswer.received 5 p.len.toNat

def Receives (mutexWait : Int) (fsizeAnswer burstAnswer : SpiAnswer) (pbufAlloc : Option Bytes)
    (input : Int8) (interface : Interface) : Prop :=
  ∃ ret after,
    adin1110ifPoll (pollReadFifo fsizeAnswer burstAnswer) mutexWait pbufAlloc input interface =
      some (ret, after) ∧
    (after.delivered = interface.delivered ∨
      DeliversFrame (bigEndian32At fsizeAnswer.received 3) burstAnswer interface after) ∧
    ∀ access ∈ accessesSince interface after, access.Inside

def fillAccesses (len : UInt16) (length : Nat) : List Access :=
  [⟨.pbuf len, 0, 6⟩, ⟨.pbuf len, 6, 6⟩, ⟨.pbuf len, 12, 2⟩, ⟨.ethRxBuff, 0, length⟩,
    ⟨.pbuf len, 14, length⟩]

theorem fillPbuf_accesses (ethBuff : Adin1110EthBuff) (p : Pbuf) (interface : Interface) :
    (fillPbuf ethBuff p interface).2 =
      { interface with
        accesses := interface.accesses ++ fillAccesses p.len (ethBuff.len - 14).toNat } := by
  simp [fillPbuf, fillAccesses, Interface.touch, Pbuf.store, adin1110EthAlen]

theorem fillPbuf_len (ethBuff : Adin1110EthBuff) (p : Pbuf) (interface : Interface) :
    (fillPbuf ethBuff p interface).1.len = p.len := rfl

theorem fillPbuf_bytes (len : UInt32) (data payload contents : Bytes) (interface : Interface)
    (header : 14 ≤ len.toNat) (small : len.toNat < 0x10000) :
    (fillPbuf ⟨len, bytesAt _ data 5, bytesAt _ data 11, bytesAt _ data 17,
        writeRange payload 0 (readRange data 19 (len - 14).toNat)⟩ ⟨contents, len.toUInt16⟩
        interface).1.bytes =
      readRange data 5 len.toNat := by
  obtain ⟨count, whole⟩ := Nat.exists_eq_add_of_le header
  have rest : (len - 14).toNat = count := by
    have ordered : (14 : UInt32) ≤ len := UInt32.le_iff_toNat_le.mpr header
    rw [UInt32.toNat_sub_of_le _ _ ordered]
    simp
    omega
  have kept : len.toUInt16.toNat = len.toNat := by
    rw [UInt32.toNat_toUInt16]
    omega
  have parts : readRange data 5 len.toNat =
      readRange data 5 6 ++
        (readRange data 11 6 ++ (readRange data 17 2 ++ readRange data 19 count)) := by
    rw [show len.toNat = 6 + (6 + (2 + count)) by omega, readRange_append, readRange_append,
      readRange_append]
  have payload' := readRange_writeRange_same payload 0 (readRange data 19 count)
  rw [readRange_length] at payload'
  have filled : (fillPbuf ⟨len, bytesAt _ data 5, bytesAt _ data 11, bytesAt _ data 17,
      writeRange payload 0 (readRange data 19 (len - 14).toNat)⟩ ⟨contents, len.toUInt16⟩
      interface).1.payload = writeRange contents 0 (readRange data 5 len.toNat) := by
    rw [parts, ← writeRange_append, ← writeRange_append, ← writeRange_append]
    simp [fillPbuf, Pbuf.store, adin1110EthAlen, adin1110EthHdrLen, rest, payload']
  have same := readRange_writeRange_same contents 0 (readRange data 5 len.toNat)
  rw [readRange_length] at same
  rw [Pbuf.bytes, filled, fillPbuf_len, kept, same]

section Poll

variable (interface : Interface) {desc : Adin1110Desc} {fsizeAnswer burstAnswer : SpiAnswer}
variable {frameSize : UInt32}

theorem pollReadFifo_empty (ethBuff : Adin1110EthBuff) (burstAnswer : SpiAnswer)
    (present : interface.adin1110Desc = some desc) (fsizeOk : fsizeAnswer.ret = 0)
    (empty : bigEndian32At fsizeAnswer.received 3 < 6) :
    ∃ between touched,
      pollReadFifo fsizeAnswer burstAnswer ethBuff interface = some ((0, ethBuff), between) ∧
      between.delivered = interface.delivered ∧
      between.accesses = interface.accesses ++ touched ∧ ∀ access ∈ touched, access.Inside := by
  obtain ⟨device, rest, read, transfer⟩ := adin1110ReadFifo_empty ethBuff (interface.device desc)
    burstAnswer (numPorts_pos desc.chipType) fsizeOk empty
  obtain ⟨touched, accesses, inside⟩ := transfer.accesses
  refine ⟨interface.setDevice device, touched, ?_, rfl, accesses, inside⟩
  simp only [pollReadFifo, Interface.callDriver, present, read]

theorem pollReadFifo_frame (ethBuff : Adin1110EthBuff)
    (present : interface.adin1110Desc = some desc) (fsizeOk : fsizeAnswer.ret = 0)
    (burstOk : burstAnswer.ret = 0) (reported : bigEndian32At fsizeAnswer.received 3 = frameSize)
    (waiting : ¬ frameSize < 6) :
    ∃ between data touched,
      pollReadFifo fsizeAnswer burstAnswer ethBuff interface =
        some ((0, receivedBuff frameSize data ethBuff.payload), between) ∧
      (∀ index < burstLength frameSize, data index = burstAnswer.received index) ∧
      between.delivered = interface.delivered ∧
      between.accesses = interface.accesses ++ (touched ++ burstAccesses frameSize) ∧
      ∀ access ∈ touched, access.Inside := by
  obtain ⟨device, data, touched, read, received, accesses, inside⟩ :=
    adin1110ReadFifo_frame ethBuff (interface.device desc) (numPorts_pos desc.chipType) fsizeOk
      burstOk reported waiting
  refine ⟨interface.setDevice device, data, touched, ?_, received, rfl, accesses, inside⟩
  simp only [pollReadFifo, Interface.callDriver, present, read]

theorem fillAccesses_inside (len : UInt32) (header : 14 ≤ len.toNat) (small : len.toNat ≤ 1522) :
    ∀ access ∈ fillAccesses len.toUInt16 (len - 14).toNat, access.Inside := by
  have ordered : (14 : UInt32) ≤ len := UInt32.le_iff_toNat_le.mpr header
  have rest := UInt32.toNat_sub_of_le _ _ ordered
  simp [fillAccesses, Access.inside_iff, Buffer.size, adin1110BuffLen] at rest ⊢
  omega

theorem deliver_dropped {ethBuff : Adin1110EthBuff} (waiting : 0 < ethBuff.len) (input : Int8)
    (between : Interface) : adin1110ifDeliver 0 ethBuff none input between = (1, between) :=
  if_pos ⟨rfl, waiting⟩

theorem deliver_given {ethBuff : Adin1110EthBuff} (waiting : 0 < ethBuff.len) (contents : Bytes)
    (input : Int8) (between : Interface) :
    adin1110ifDeliver 0 ethBuff (some contents) input between =
      let filled := fillPbuf ethBuff ⟨contents, ethBuff.len.toUInt16⟩ between.takePbuf
      (input, filled.2.netifInput filled.1 between.allocated input) :=
  if_pos ⟨rfl, waiting⟩

/-- Once the read has stayed inside its buffers, so do the copies, and the frame is delivered or
dropped. -/
theorem deliver_receives {between : Interface} {data payload : Bytes} {readTouched : List Access}
    (pbufAlloc : Option Bytes) (input : Int8) (lower : 16 ≤ frameSize.toNat)
    (upper : frameSize.toNat ≤ 1524)
    (received : ∀ index < burstLength frameSize, data index = burstAnswer.received index)
    (undelivered : between.delivered = interface.delivered)
    (accesses : between.accesses = interface.accesses ++ readTouched)
    (inside : ∀ access ∈ readTouched, access.Inside) :
    let after :=
      (adin1110ifDeliver 0 (receivedBuff frameSize data payload) pbufAlloc input between).2
    (after.delivered = interface.delivered ∨ DeliversFrame frameSize burstAnswer interface after) ∧
      ∀ access ∈ accessesSince interface after, access.Inside := by
  have two : (2 : UInt32) ≤ frameSize := UInt32.le_iff_toNat_le.mpr (by simp; omega)
  have size : (frameSize - 2).toNat = frameSize.toNat - 2 := UInt32.toNat_sub_of_le _ _ two
  have positive : 0 < frameSize - 2 := UInt32.lt_iff_toNat_lt.mpr (by rw [size]; simp; omega)
  have burst := burstLength_eq frameSize
  intro after
  cases pbufAlloc with
  | none =>
      have dropped : after = between := congrArg Prod.snd (deliver_dropped positive input between)
      rw [dropped]
      refine ⟨.inl undelivered, ?_⟩
      rw [accessesSince, accesses, List.drop_left]
      exact inside
  | some contents =>
      let filled := fillPbuf (receivedBuff frameSize data payload)
        ⟨contents, (frameSize - 2).toUInt16⟩ between.takePbuf
      have reached : after = filled.2.netifInput filled.1 between.allocated input :=
        congrArg Prod.snd (deliver_given positive contents input between)
      have bytes : filled.1.bytes = readRange data 5 (frameSize - 2).toNat :=
        fillPbuf_bytes (frameSize - 2) data payload contents between.takePbuf (by omega) (by omega)
      have length : filled.1.len.toNat = frameSize.toNat - 2 := by
        change (frameSize - 2).toUInt16.toNat = _
        rw [UInt32.toNat_toUInt16, size]
        omega
      have interface' : filled.2 = { between.takePbuf with
          accesses := between.accesses ++
            fillAccesses (frameSize - 2).toUInt16 (frameSize - 2 - 14).toNat } :=
        fillPbuf_accesses _ _ _
      rw [reached]
      constructor
      · refine .inr ⟨filled.1, ?_, by omega, ?_⟩
        · simp [interface', undelivered]
        · rw [bytes, length, size]
          apply readRange_congr
          intro cell _ bound
          exact received cell (by omega)
      · have since : accessesSince interface (filled.2.netifInput filled.1 between.allocated input) =
            readTouched ++ fillAccesses (frameSize - 2).toUInt16 (frameSize - 2 - 14).toNat := by
          simp [accessesSince, interface', accesses]
        rw [since]
        intro access member
        rcases List.mem_append.mp member with read | copied
        · exact inside access read
        · exact fillAccesses_inside (frameSize - 2) (by omega) (by omega) access copied

/-- Whatever becomes of the frame, the ranges touched while it was read stay in the log. -/
theorem deliver_accesses (readRet : Int) (ethBuff : Adin1110EthBuff) (pbufAlloc : Option Bytes)
    (input : Int8) (between : Interface) :
    ∃ more, (adin1110ifDeliver readRet ethBuff pbufAlloc input between).2.accesses =
      between.accesses ++ more := by
  unfold adin1110ifDeliver
  split
  · cases pbufAlloc with
    | none => exact ⟨[], by simp⟩
    | some contents =>
        refine ⟨fillAccesses ethBuff.len.toUInt16 (ethBuff.len - 14).toNat, ?_⟩
        simp [fillPbuf_accesses]
  · exact ⟨[], by simp⟩

end Poll

theorem receives_burstAccesses {interface : Interface} {desc : Adin1110Desc}
    (present : interface.adin1110Desc = some desc) {fsizeAnswer burstAnswer : SpiAnswer}
    (fsizeOk : fsizeAnswer.ret = 0) (burstOk : burstAnswer.ret = 0)
    (waiting : ¬ bigEndian32At fsizeAnswer.received 3 < 6) {pbufAlloc : Option Bytes} {input : Int8}
    (receives : Receives osOK fsizeAnswer burstAnswer pbufAlloc input interface) :
    ∀ access ∈ burstAccesses (bigEndian32At fsizeAnswer.received 3), access.Inside := by
  obtain ⟨between, data, touched, answer, -, -, accesses, -⟩ := pollReadFifo_frame
    interface.osMutexTake (pollBuff interface) present fsizeOk burstOk rfl waiting
  obtain ⟨ret, after, poll, -, all⟩ := receives
  rw [poll_answered pbufAlloc input answer] at poll
  obtain rfl := congrArg Prod.snd (Option.some.inj poll)
  obtain ⟨more, log⟩ := deliver_accesses 0 _ pbufAlloc input
    (between.setEthRxBuff (receivedBuff (bigEndian32At fsizeAnswer.received 3) data
      (pollBuff interface).payload).payload).osMutexRelease
  intro access member
  apply all access
  rw [accessesSince, log]
  simp [accesses, member]

theorem receives_iff {interface : Interface} {desc : Adin1110Desc}
    (present : interface.adin1110Desc = some desc) (mutexWait : Int)
    {fsizeAnswer burstAnswer : SpiAnswer} (fsizeOk : fsizeAnswer.ret = 0)
    (burstOk : burstAnswer.ret = 0) (pbufAlloc : Option Bytes) (input : Int8) :
    Receives mutexWait fsizeAnswer burstAnswer pbufAlloc input interface ↔
      mutexWait ≠ osOK ∨ (bigEndian32At fsizeAnswer.received 3).toNat < 6 ∨
        (16 ≤ (bigEndian32At fsizeAnswer.received 3).toNat ∧
          (bigEndian32At fsizeAnswer.received 3).toNat ≤ 1524) := by
  by_cases taken : mutexWait = osOK
  · subst taken
    by_cases empty : bigEndian32At fsizeAnswer.received 3 < 6
    · have small : (bigEndian32At fsizeAnswer.received 3).toNat < 6 := UInt32.lt_iff_toNat_lt.mp empty
      obtain ⟨between, touched, answer, undelivered, accesses, inside⟩ := pollReadFifo_empty
        interface.osMutexTake (pollBuff interface) burstAnswer present fsizeOk empty
      have poll : adin1110ifPoll (pollReadFifo fsizeAnswer burstAnswer) osOK pbufAlloc input interface =
          some (0, (between.setEthRxBuff interface.ethRxBuff).osMutexRelease) := by
        rw [poll_answered pbufAlloc input answer]
        simp [adin1110ifDeliver, pollBuff]
      refine iff_of_true ⟨_, _, poll, .inl undelivered, ?_⟩ (.inr (.inl small))
      have since : accessesSince interface
          (between.setEthRxBuff interface.ethRxBuff).osMutexRelease = touched := by
        simp [accessesSince, accesses]
      rw [since]
      exact inside
    · have large : ¬ (bigEndian32At fsizeAnswer.received 3).toNat < 6 := fun small =>
        empty (UInt32.lt_iff_toNat_lt.mpr small)
      have within := burstAccesses_inside (bigEndian32At fsizeAnswer.received 3) (by omega)
      constructor
      · intro receives
        have inside := receives_burstAccesses present fsizeOk burstOk empty receives
        exact .inr (.inr (within.mp inside))
      · intro range
        obtain ⟨lower, upper⟩ := (range.resolve_left (by simp)).resolve_left large
        obtain ⟨between, data, touched, answer, received, undelivered, accesses, inside⟩ :=
          pollReadFifo_frame interface.osMutexTake (pollBuff interface) present fsizeOk
            burstOk rfl empty
        refine ⟨_, _, poll_answered pbufAlloc input answer,
          deliver_receives interface pbufAlloc input lower upper received undelivered accesses ?_⟩
        intro access member
        rcases List.mem_append.mp member with asked | burst
        · exact inside access asked
        · exact within.mpr ⟨lower, upper⟩ access burst
  · refine iff_of_true ⟨1, interface, ?_, .inl rfl, ?_⟩ (.inl taken)
    · simp only [adin1110ifPoll, if_neg taken]
    · simp [accessesSince]

theorem arpRequest_received :
    Receives osOK (reports 66) succeeded (some fun _ => 0) 0 (.start (some configuredDesc)) :=
  (receives_iff rfl osOK rfl rfl (some fun _ => 0) 0).mpr
    (.inr (.inr (by rw [reports_value]; decide)))

theorem reportedSize_outside :
    ¬ Receives osOK (reports 10) succeeded (some fun _ => 0) 0 (.start (some configuredDesc)) ∧
      ¬ Receives osOK (reports 1525) succeeded (some fun _ => 0) 0 (.start (some configuredDesc)) := by
  constructor
  · intro receives
    have inside := receives_burstAccesses rfl rfl rfl
      (by rw [reports_value]; decide) receives
    rw [reports_value, burstAccesses_inside 10 (by decide)] at inside
    exact absurd inside.1 (by decide)
  · intro receives
    have inside := receives_burstAccesses rfl rfl rfl
      (by rw [reports_value]; decide) receives
    rw [reports_value, burstAccesses_inside 1525 (by decide)] at inside
    exact absurd inside.2 (by decide)

end SpeFramework.Network
