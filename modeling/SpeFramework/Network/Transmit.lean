import SpeFramework.Network.DriverCases
import SpeFramework.Network.Identity

/-!
What `adin1110if_link_output` puts into the TX FIFO, whatever the driver was used for before.
-/

namespace SpeFramework.Network

open RangeStore ByteOrder

def sentSince (before after : Interface) : List (List UInt8) :=
  after.transfers.drop before.transfers.length

/-- A write of the register the TX FIFO is filled through. -/
def IsTxBurst (sent : List UInt8) : Prop := sent.take 2 = [0xA0, 0x31]

instance (sent : List UInt8) : Decidable (IsTxBurst sent) :=
  inferInstanceAs (Decidable (sent.take 2 = [0xA0, 0x31]))

def txBursts (before after : Interface) : List (List UInt8) :=
  (sentSince before after).filter fun sent => IsTxBurst sent

def framedFrom (macAddress : Vector UInt8 adin1110EthAlen) (bytes : List UInt8) : List UInt8 :=
  bytes.take 6 ++ macAddress.toList ++ bytes.drop 12

/-- The frame of the chain and its padding are announced, fit and go out in one burst, which the
bus rounds up to four bytes. -/
structure SendsFrame (p : PbufChain) (padding : List UInt8) (txSpace : UInt32)
    (before after : Interface) : Prop where
  fits : 2 + (p.bytes.length + padding.length) ≤ 2 * txSpace.toNat
  announced : 0xA0 :: 0x30 :: fourBytes (UInt32.ofNat (2 + (p.bytes.length + padding.length))) ∈
    sentSince before after
  burst : ∃ desc rounding, before.adin1110Desc = some desc ∧ rounding.length < 4 ∧
    txBursts before after =
      [[0xA0, 0x31] ++ [0, 0] ++ framedFrom desc.macAddress p.bytes ++ padding ++ rounding]

def RefusesFrame (ret : Int8) (before after : Interface) : Prop :=
  ret ≠ 0 ∧ txBursts before after = []

/-- Whatever `earlier` did, the call refuses or sends the frame, with the same padding. -/
def TransmitsPadded (padding : List UInt8) (start : Interface) (p : PbufChain) (mutexWait : Int)
    (txSpace : UInt32) : Prop :=
  ∀ (earlier : List InterfaceEvent) (spaceAnswer fsizeAnswer burstAnswer : SpiAnswer),
    spaceAnswer.ret = 0 → fsizeAnswer.ret = 0 → burstAnswer.ret = 0 →
    bigEndian32At spaceAnswer.received 3 = txSpace →
    ∃ ret after,
      adin1110ifLinkOutput p mutexWait spaceAnswer fsizeAnswer burstAnswer
        (earlier.foldl interfaceStep start) = some (ret, after) ∧
      (RefusesFrame ret (earlier.foldl interfaceStep start) after ∨
        SendsFrame p padding txSpace (earlier.foldl interfaceStep start) after)

def Transmits (start : Interface) (p : PbufChain) (mutexWait : Int) (txSpace : UInt32) : Prop :=
  ∃ padding : List UInt8, padding.length = 60 - p.bytes.length ∧
    TransmitsPadded padding start p mutexWait txSpace

theorem framedFrom_append (macAddress : Vector UInt8 adin1110EthAlen) (bytes more : List UInt8)
    (header : 12 ≤ bytes.length) :
    framedFrom macAddress (bytes ++ more) = framedFrom macAddress bytes ++ more := by
  rw [framedFrom, framedFrom, List.take_append_of_le_length (by omega),
    List.drop_append_of_le_length header]
  simp only [List.append_assoc]

@[simp] theorem Pbuf.bytes_length (p : Pbuf) : p.bytes.length = p.len.toNat := by
  simp [Pbuf.bytes]

theorem outputEthBuff_frame (desc : Adin1110Desc) (p : PbufChain)
    (header : 14 ≤ p.first.len.toNat) :
    (outputEthBuff desc p).header ++
        readRange (outputEthBuff desc p).payload 0 (p.first.len.toNat - 14) =
      framedFrom desc.macAddress p.first.bytes := by
  obtain ⟨count, whole⟩ := Nat.exists_eq_add_of_le header
  have parts : p.first.len.toNat = 6 + (6 + (2 + count)) := by omega
  have payload : readRange (outputEthBuff desc p).payload 0 count =
      readRange p.first.payload 14 count := by
    simp [outputEthBuff, readRange, adin1110EthHdrLen]
  have bytes : p.first.bytes = readRange p.first.payload 0 6 ++ (readRange p.first.payload 6 6 ++
      (readRange p.first.payload 12 2 ++ readRange p.first.payload 14 count)) := by
    rw [Pbuf.bytes, parts, readRange_append, readRange_append, readRange_append]
  have dropped : (readRange p.first.payload 0 6 ++ (readRange p.first.payload 6 6 ++
      (readRange p.first.payload 12 2 ++ readRange p.first.payload 14 count))).drop 12 =
      readRange p.first.payload 12 2 ++ readRange p.first.payload 14 count := by
    rw [← List.append_assoc]
    exact List.drop_left' (by simp)
  rw [framedFrom, bytes, dropped, List.take_left' (by simp), show p.first.len.toNat - 14 = count by omega,
    payload]
  simp [Adin1110EthBuff.header, outputEthBuff, adin1110EthAlen]

/-! One call with a descriptor and the mutex. -/

section Call

variable {interface : Interface} {desc : Adin1110Desc} {p : PbufChain}
variable {spaceAnswer fsizeAnswer burstAnswer : SpiAnswer}

theorem linkOutput_noRoom (fsizeAnswer burstAnswer : SpiAnswer)
    (present : interface.adin1110Desc = some desc)
    (spaceOk : spaceAnswer.ret = 0)
    (tight : 2 * (bigEndian32At spaceAnswer.received 3 - 2) < paddedLen p.first.len.toUInt32) :
    ∃ after rest,
      adin1110ifLinkOutput p osOK spaceAnswer fsizeAnswer burstAnswer interface = some (-11, after) ∧
        sentSince interface after = [0x80 :: 0x32 :: rest] := by
  obtain ⟨device, rest, written, transfer⟩ := adin1110WriteFifo_noRoom
    burstAnswer (outputEthBuff desc p) (interface.osMutexTake.device desc) fsizeAnswer
    (numPorts_pos desc.chipType) spaceOk tight
  refine ⟨(interface.osMutexTake.setDevice device).osMutexRelease, rest, ?_, ?_⟩
  · simp only [adin1110ifLinkOutput, present, if_true, Interface.callDriver,
      Interface.osMutexTake_adin1110Desc, written]
    rfl
  · simp [sentSince, transfer.transfers, Interface.device]

theorem linkOutput_sends (p : PbufChain) (present : interface.adin1110Desc = some desc)
    (spaceOk : spaceAnswer.ret = 0) (fsizeOk : fsizeAnswer.ret = 0) (burstOk : burstAnswer.ret = 0)
    (room : ¬ 2 * (bigEndian32At spaceAnswer.received 3 - 2) < paddedLen p.first.len.toUInt32) :
    ∃ after rest data,
      adin1110ifLinkOutput p osOK spaceAnswer fsizeAnswer burstAnswer interface = some (0, after) ∧
      (∀ index, 7 ≤ index → data index = desc.data index) ∧
      after.adin1110Desc =
        some ⟨desc.chipType, desc.macAddress, burstData 0 (outputEthBuff desc p) data⟩ ∧
      sentSince interface after =
        [0x80 :: 0x32 :: rest, 0xA0 :: 0x30 :: fourBytes (paddedLen p.first.len.toUInt32),
          readRange (burstData 0 (outputEthBuff desc p) data) 0
            (noOsAlign (paddedLen p.first.len.toUInt32) 4 + 2).toNat] := by
  obtain ⟨device, rest, data, written, beyond, desc', transfers⟩ := adin1110WriteFifo_sends
    burstAnswer (outputEthBuff desc p) (interface.osMutexTake.device desc)
    (numPorts_pos desc.chipType) spaceOk fsizeOk room
  refine ⟨(interface.osMutexTake.setDevice device).osMutexRelease, rest, data, ?_, beyond, ?_, ?_⟩
  · simp only [adin1110ifLinkOutput, present, if_true, Interface.callDriver,
      Interface.osMutexTake_adin1110Desc, written, burstOk]
    rfl
  · simp [desc', Interface.device]
  · simp [sentSince, transfers, Interface.device, outputEthBuff]

end Call

/-- How many bytes of the scratch buffer follow a segment of `len` bytes in its burst. -/
def trailing (len : Nat) : Nat := (len + (60 - len) + 5) / 4 * 4 - 2 - len

theorem burst_length (len : UInt32) (header : 14 ≤ len.toNat) (small : len.toNat ≤ 1514) :
    (noOsAlign (paddedLen len) 4 + 2).toNat = 18 + ((len - 14).toNat + trailing len.toNat) := by
  have padded := paddedLen_toNat len small
  have payload : (len - 14).toNat = len.toNat - 14 :=
    UInt32.toNat_sub_of_le _ _ (UInt32.le_iff_toNat_le.mpr header)
  have sum : (paddedLen len + 3).toNat = len.toNat + (60 - len.toNat) + 5 := by
    rw [UInt32.toNat_add, padded]
    simp
    omega
  rw [UInt32.toNat_add, noOsAlign_four_toNat, sum, payload, trailing]
  simp
  omega

theorem burst_frame (desc : Adin1110Desc) (p : PbufChain) (data : Bytes)
    (header : 14 ≤ p.first.len.toNat) (small : p.first.len.toNat ≤ 1514) :
    readRange (burstData 0 (outputEthBuff desc p) data) 0
        (noOsAlign (paddedLen p.first.len.toUInt32) 4 + 2).toNat =
      [0xA0, 0x31] ++ [0, 0] ++ framedFrom desc.macAddress p.first.bytes ++
        readRange data (4 + p.first.len.toNat) (trailing p.first.len.toNat) := by
  have payload : (p.first.len.toUInt32 - 14).toNat = p.first.len.toNat - 14 :=
    UInt32.toNat_sub_of_le _ _ (UInt32.le_iff_toNat_le.mpr (by simpa using header))
  have burst := readRange_burstData 0 (outputEthBuff desc p) data (trailing p.first.len.toNat)
  have len : (outputEthBuff desc p).len = p.first.len.toUInt32 := rfl
  rw [len, payload] at burst
  rw [burst_length _ (by simpa using header) (by simpa using small), UInt16.toNat_toUInt32, payload,
    burst, ← outputEthBuff_frame desc p header, show 18 + (p.first.len.toNat - 14) =
      4 + p.first.len.toNat by omega]
  simp
  decide

/-- What one call does that is not refused, from a descriptor with scratch buffer `data`. -/
theorem linkOutput_frame {interface : Interface} {desc : Adin1110Desc} (p : PbufChain)
    {spaceAnswer fsizeAnswer burstAnswer : SpiAnswer} (header : 14 ≤ p.first.len.toNat)
    (small : p.first.len.toNat ≤ 1514) (present : interface.adin1110Desc = some desc)
    (spaceOk : spaceAnswer.ret = 0) (fsizeOk : fsizeAnswer.ret = 0) (burstOk : burstAnswer.ret = 0)
    (room : ¬ 2 * (bigEndian32At spaceAnswer.received 3 - 2) < paddedLen p.first.len.toUInt32) :
    ∃ after rest,
      adin1110ifLinkOutput p osOK spaceAnswer fsizeAnswer burstAnswer interface = some (0, after) ∧
      sentSince interface after =
        [0x80 :: 0x32 :: rest, 0xA0 :: 0x30 :: fourBytes (paddedLen p.first.len.toUInt32),
          [0xA0, 0x31] ++ [0, 0] ++ framedFrom desc.macAddress p.first.bytes ++
            readRange desc.data (4 + p.first.len.toNat) (trailing p.first.len.toNat)] := by
  obtain ⟨after, rest, data, output, beyond, -, sent⟩ :=
    linkOutput_sends p present spaceOk fsizeOk burstOk room
  refine ⟨after, rest, output, ?_⟩
  rw [sent, burst_frame desc p data header small]
  congr 4
  apply readRange_congr
  intro cell lower upper
  exact beyond cell (by omega)

theorem txBursts_request {before after : Interface} {rest : List UInt8}
    (sent : sentSince before after = [0x80 :: 0x32 :: rest]) : txBursts before after = [] := by
  simp [txBursts, sent, IsTxBurst]

theorem txBursts_frame {before after : Interface} {rest announcement frame : List UInt8}
    (sent : sentSince before after =
      [0x80 :: 0x32 :: rest, 0xA0 :: 0x30 :: announcement, [0xA0, 0x31] ++ frame]) :
    txBursts before after = [[0xA0, 0x31] ++ frame] := by
  simp [txBursts, sent, IsTxBurst]

theorem run_desc_none {start : Interface} (absent : start.adin1110Desc = none)
    (earlier : List InterfaceEvent) : (earlier.foldl interfaceStep start).adin1110Desc = none := by
  have same := run_identity start earlier
  simpa [Interface.identity, absent] using same

theorem run_desc_some {start : Interface} {desc : Adin1110Desc}
    (present : start.adin1110Desc = some desc) (earlier : List InterfaceEvent) :
    ∃ desc', (earlier.foldl interfaceStep start).adin1110Desc = some desc' ∧
      desc'.macAddress = desc.macAddress := by
  have same := run_identity start earlier
  simp only [Interface.identity, present, Option.map_some, Option.map_eq_some_iff] at same
  obtain ⟨desc', there, identity⟩ := same
  exact ⟨desc', there, congrArg Prod.snd identity⟩

theorem refusesFrame_unchanged {ret : Int8} (failed : ret ≠ 0) (interface : Interface) :
    RefusesFrame ret interface interface := by
  refine ⟨failed, ?_⟩
  simp [txBursts, sentSince]

theorem linkOutput_refuses {interface : Interface} {p : PbufChain} {mutexWait : Int}
    {spaceAnswer : SpiAnswer} (fsizeAnswer burstAnswer : SpiAnswer) (spaceOk : spaceAnswer.ret = 0)
    (refused : interface.adin1110Desc = none ∨ mutexWait ≠ osOK ∨
      2 * (bigEndian32At spaceAnswer.received 3 - 2) < paddedLen p.first.len.toUInt32) :
    ∃ ret after,
      adin1110ifLinkOutput p mutexWait spaceAnswer fsizeAnswer burstAnswer interface =
        some (ret, after) ∧ RefusesFrame ret interface after := by
  cases present : interface.adin1110Desc with
  | none =>
      refine ⟨-1, interface, ?_, refusesFrame_unchanged (by decide) interface⟩
      simp only [adin1110ifLinkOutput, present]
  | some desc =>
      by_cases taken : mutexWait = osOK
      · subst taken
        have tight := (refused.resolve_left (by simp [present])).resolve_left (by simp)
        obtain ⟨after, rest, output, sent⟩ := linkOutput_noRoom fsizeAnswer
          burstAnswer present spaceOk tight
        exact ⟨-11, after, output, by decide, txBursts_request sent⟩
      · refine ⟨1, interface, ?_, refusesFrame_unchanged (by decide) interface⟩
        simp only [adin1110ifLinkOutput, present, if_neg taken]

theorem fits_of_room {len : UInt16} {txSpace : UInt32} (small : len.toNat ≤ 1514)
    (enough : 2 ≤ txSpace.toNat) (room : ¬ 2 * (txSpace - 2) < paddedLen len.toUInt32) :
    2 + (len.toNat + (60 - len.toNat)) ≤ 2 * txSpace.toNat := by
  have roomNat := UInt32.le_iff_toNat_le.mp (UInt32.not_lt.mp room)
  have difference : (txSpace - 2).toNat = txSpace.toNat - 2 :=
    UInt32.toNat_sub_of_le _ _ (UInt32.le_iff_toNat_le.mpr enough)
  have wraps : (2 * (txSpace - 2)).toNat ≤ 2 * (txSpace.toNat - 2) := by
    rw [UInt32.toNat_mul, difference]
    exact Nat.mod_le _ _
  rw [paddedLen_toNat _ (by simpa using small), UInt16.toNat_toUInt32] at roomNat
  omega

theorem paddedLen_ofNat (len : UInt32) (small : len.toNat ≤ 1514) :
    paddedLen len = UInt32.ofNat (2 + (len.toNat + (60 - len.toNat))) := by
  apply UInt32.toNat_inj.mp
  rw [paddedLen_toNat len small]
  simp
  omega

theorem linkOutput_sendsFrame {interface : Interface} {desc : Adin1110Desc} {p : PbufChain}
    {spaceAnswer fsizeAnswer burstAnswer : SpiAnswer} (alone : p.next.flatMap Pbuf.bytes = [])
    (long : 60 ≤ p.first.len.toNat) (small : p.first.len.toNat ≤ 1514)
    (enough : 2 ≤ (bigEndian32At spaceAnswer.received 3).toNat)
    (present : interface.adin1110Desc = some desc)
    (spaceOk : spaceAnswer.ret = 0) (fsizeOk : fsizeAnswer.ret = 0) (burstOk : burstAnswer.ret = 0)
    (room : ¬ 2 * (bigEndian32At spaceAnswer.received 3 - 2) < paddedLen p.first.len.toUInt32) :
    ∃ after, adin1110ifLinkOutput p osOK spaceAnswer fsizeAnswer burstAnswer interface =
        some (0, after) ∧
      SendsFrame p [] (bigEndian32At spaceAnswer.received 3) interface after := by
  obtain ⟨after, rest, output, sent⟩ := linkOutput_frame p (by omega) small present spaceOk fsizeOk
    burstOk room
  have bytes : p.bytes = p.first.bytes := by rw [PbufChain.bytes, alone, List.append_nil]
  have unpadded : 60 - p.first.len.toNat = 0 := by omega
  refine ⟨after, output, ?_⟩
  constructor
  · have fits := fits_of_room small enough room
    rw [unpadded] at fits
    rwa [bytes, Pbuf.bytes_length, List.length_nil]
  · have announced := paddedLen_ofNat p.first.len.toUInt32 (by simpa using small)
    rw [UInt16.toNat_toUInt32, unpadded] at announced
    rw [sent, bytes, Pbuf.bytes_length, List.length_nil, ← announced]
    simp
  · refine ⟨desc, readRange desc.data (4 + p.first.len.toNat) (trailing p.first.len.toNat), present,
      ?_, ?_⟩
    · rw [readRange_length, trailing]
      omega
    · simp only [List.append_assoc] at sent
      rw [txBursts_frame sent, bytes]
      simp only [List.append_assoc, List.nil_append]

/-! The other way round: two earlier frames leave different bytes where a short frame needs its
padding, and where the frame goes on that a longer chain holds. -/

theorem fourBytes_inj {first second : UInt32} (same : fourBytes first = fourBytes second) :
    first = second := by
  rw [← bigEndian32At_writeRange (fun _ => 0) 0 first, same, bigEndian32At_writeRange]

def fillChain (fill : UInt8) : PbufChain := ⟨⟨fun _ => fill, 60⟩, []⟩

def fillEvent (fill : UInt8) : InterfaceEvent :=
  .output (fillChain fill) osOK (reports 0x100) succeeded succeeded

theorem fillEvent_scratch {start : Interface} {desc : Adin1110Desc}
    (present : start.adin1110Desc = some desc) (fill : UInt8) :
    ∃ desc', (interfaceStep start (fillEvent fill)).adin1110Desc = some desc' ∧
      ∀ index, 18 ≤ index → index < 64 → desc'.data index = fill := by
  have room : ¬ 2 * (bigEndian32At (reports 0x100).received 3 - 2) <
      paddedLen (60 : UInt16).toUInt32 := by
    rw [reports_value]
    decide
  obtain ⟨after, rest, data, output, -, stored, -⟩ := linkOutput_sends (fillChain fill)
    (present : start.adin1110Desc = some desc) (rfl : (reports 0x100).ret = 0)
    (rfl : succeeded.ret = 0) (rfl : succeeded.ret = 0) room
  refine ⟨⟨desc.chipType, desc.macAddress, burstData 0 (outputEthBuff desc (fillChain fill)) data⟩,
    ?_, ?_⟩
  · rw [interfaceStep, fillEvent, interfaceCall, output]
    exact stored
  · intro index lower upper
    obtain ⟨offset, rfl⟩ := Nat.exists_eq_add_of_le lower
    have length : (outputEthBuff desc (fillChain fill)).len - 14 = 46 := by
      change (60 : UInt16).toUInt32 - 14 = 46
      decide
    have inside : offset < ((outputEthBuff desc (fillChain fill)).len - 14).toNat := by
      rw [length]
      simp
      omega
    exact burstData_payload 0 (outputEthBuff desc (fillChain fill)) data offset inside

/-- What a call that has room and keeps its promise says about the bytes it sends. -/
theorem sendsFrame_bytes {interface : Interface} {desc : Adin1110Desc} {p : PbufChain}
    {padding : List UInt8} (spaceAnswer fsizeAnswer burstAnswer : SpiAnswer)
    (header : 14 ≤ p.first.len.toNat) (whole : p.bytes.length ≤ 1514)
    (padded : padding.length = 60 - p.bytes.length) (present : interface.adin1110Desc = some desc)
    (spaceOk : spaceAnswer.ret = 0) (fsizeOk : fsizeAnswer.ret = 0) (burstOk : burstAnswer.ret = 0)
    (room : ¬ 2 * (bigEndian32At spaceAnswer.received 3 - 2) < paddedLen p.first.len.toUInt32)
    (keeps : ∃ ret after,
      adin1110ifLinkOutput p osOK spaceAnswer fsizeAnswer burstAnswer interface = some (ret, after) ∧
        (RefusesFrame ret interface after ∨
          SendsFrame p padding (bigEndian32At spaceAnswer.received 3) interface after)) :
    2 ≤ (bigEndian32At spaceAnswer.received 3).toNat ∧
      p.first.len.toNat + (60 - p.first.len.toNat) = p.bytes.length + padding.length ∧
      ∃ rounding, readRange desc.data (4 + p.first.len.toNat) (trailing p.first.len.toNat) =
        p.next.flatMap Pbuf.bytes ++ padding ++ rounding := by
  have bytes : p.bytes = p.first.bytes ++ p.next.flatMap Pbuf.bytes := rfl
  have small : p.first.len.toNat ≤ 1514 := by
    have total := congrArg List.length bytes
    simp only [List.length_append, Pbuf.bytes_length] at total
    omega
  obtain ⟨after, rest, output, sent⟩ := linkOutput_frame p header small present spaceOk fsizeOk burstOk
    room
  obtain ⟨ret, after', output', kept⟩ := keeps
  rw [output] at output'
  obtain ⟨rfl, rfl⟩ := Prod.mk.inj (Option.some.inj output')
  have sends := kept.resolve_left fun refused => refused.1 rfl
  refine ⟨?_, ?_, ?_⟩
  · have fits := sends.fits
    omega
  · have announced := sends.announced
    rw [sent] at announced
    simp at announced
    have same := congrArg UInt32.toNat (fourBytes_inj announced)
    rw [paddedLen_toNat _ (by simpa using small)] at same
    simp at same
    omega
  · obtain ⟨desc', rounding, present', -, burst⟩ := sends.burst
    obtain rfl : desc = desc' := Option.some.inj (present.symm.trans present')
    simp only [List.append_assoc] at sent
    rw [txBursts_frame sent, bytes, framedFrom_append _ _ _ (by simp; omega)] at burst
    refine ⟨rounding, ?_⟩
    simpa using burst

theorem transmits_after_fill {start : Interface} {desc : Adin1110Desc} {p : PbufChain}
    {txSpace : UInt32} {padding : List UInt8} (fill : UInt8) (header : 14 ≤ p.first.len.toNat)
    (whole : p.bytes.length ≤ 1514) (padded : padding.length = 60 - p.bytes.length)
    (present : start.adin1110Desc = some desc)
    (room : ¬ 2 * (txSpace - 2) < paddedLen p.first.len.toUInt32)
    (keeps : TransmitsPadded padding start p osOK txSpace) :
    2 ≤ txSpace.toNat ∧
      p.first.len.toNat + (60 - p.first.len.toNat) = p.bytes.length + padding.length ∧
      (p.first.len.toNat < 60 → (p.next.flatMap Pbuf.bytes ++ padding).head? = some fill) := by
  obtain ⟨desc', there, filled⟩ := fillEvent_scratch present fill
  have value := reports_value txSpace
  have called := keeps [fillEvent fill] (reports txSpace) succeeded succeeded rfl rfl rfl value
  obtain ⟨enough, length, rounding, bytes⟩ := sendsFrame_bytes (reports txSpace) succeeded
    succeeded header whole padded there rfl rfl rfl (by rwa [value]) (by rwa [value])
  rw [value] at enough
  refine ⟨enough, length, fun short => ?_⟩
  have total : p.bytes.length = p.first.len.toNat + (p.next.flatMap Pbuf.bytes).length := by
    simp [PbufChain.bytes]
  have nonempty : p.next.flatMap Pbuf.bytes ++ padding ≠ [] := by
    intro empty
    have none := congrArg List.length empty
    simp only [List.length_append, List.length_nil] at none
    omega
  obtain ⟨count, more⟩ : ∃ count, trailing p.first.len.toNat = count + 1 :=
    Nat.exists_eq_succ_of_ne_zero (by rw [trailing]; omega)
  obtain ⟨head, tail, split⟩ := List.exists_cons_of_ne_nil nonempty
  rw [split, more, readRange, List.range_succ_eq_map] at bytes
  have first : desc'.data (4 + p.first.len.toNat) = head := (List.cons.inj bytes).1
  rw [split, List.head?_cons, ← first, filled _ (by omega) (by omega)]

def arpReply : PbufChain := ⟨⟨fun _ => 0, 42⟩, []⟩

end SpeFramework.Network
