import Mathlib.Data.Set.Insert
import SpeFramework.Lib.Runs
import SpeFramework.Network.ProtectedRegisters

/-!
The MAC address filter of `adin1110.c`: sixteen slots of two registers each, which the driver
searches through the register functions.
-/

namespace SpeFramework.Network

open ByteOrder Runs

/-- `adin1110_reg_read` and `adin1110_reg_write`, with whatever they work on. -/
structure RegisterBus (σ : Type*) where
  regRead : UInt16 → σ → Except Int UInt32 × σ
  regWrite : UInt16 → UInt32 → σ → Int × σ

abbrev MacAddress : Type := Vector UInt8 adin1110EthAlen

abbrev adin1110AddrFiltLen : Nat := 16

def filtUprReg (slot : Nat) : UInt16 := UInt16.ofNat (0x50 + 2 * slot)

def filtLwrReg (slot : Nat) : UInt16 := UInt16.ofNat (0x51 + 2 * slot)

abbrev adin1110MacAddrMaskUprReg : UInt16 := 0x70
abbrev adin1110MacAddrMaskLwrReg : UInt16 := 0x71

/-- `no_os_get_unaligned_be16(&mac_address[0])` -/
def addrUpr (macAddress : MacAddress) : UInt32 := (wordOfBytes macAddress[0] macAddress[1]).toUInt32

/-- `no_os_get_unaligned_be32(&mac_address[2])` -/
def addrLwr (macAddress : MacAddress) : UInt32 :=
  wordOfFourBytes macAddress[2] macAddress[3] macAddress[4] macAddress[5]

def forwardFlags (chipType : Adin1110ChipId) : UInt32 :=
  let flags : UInt32 := 0x40000000 ||| 0x10000
  if chipType = .adin2111 then flags ||| 0x80000000 else flags

section Driver

variable {σ : Type*} (bus : RegisterBus σ)

def findFreeSlot : Nat → Nat → σ → Except Int Nat × σ
  | 0, slot, state => (.ok slot, state)
  | count + 1, slot, state =>
      match bus.regRead (filtUprReg slot) state with
      | (.error ret, state) => (.error ret, state)
      | (.ok temp, state) =>
          if temp ≠ 0 then findFreeSlot count (slot + 1) state
          else
            match bus.regRead (filtLwrReg slot) state with
            | (.error ret, state) => (.error ret, state)
            | (.ok temp, state) =>
                if temp = 0 then (.ok slot, state) else findFreeSlot count (slot + 1) state

def adin1110SetMacAddr (chipType : Adin1110ChipId) (macAddress : MacAddress) (state : σ) : Int × σ :=
  match findFreeSlot bus adin1110AddrFiltLen 0 state with
  | (.error ret, state) => (ret, state)
  | (.ok slot, state) =>
      match bus.regWrite (filtUprReg slot) (addrUpr macAddress ||| forwardFlags chipType) state with
      | (ret, state) =>
          if ret ≠ 0 then (ret, state) else bus.regWrite (filtLwrReg slot) (addrLwr macAddress) state

def clearSlot (macAddress : MacAddress) (slot : Nat) (state : σ) : Int × σ :=
  match bus.regRead (filtUprReg slot) state with
  | (.error ret, state) => (ret, state)
  | (.ok temp, state) =>
      if addrUpr macAddress ≠ temp &&& 0xFFFF then (0, state)
      else
        match bus.regRead (filtLwrReg slot) state with
        | (.error ret, state) => (ret, state)
        | (.ok temp, state) =>
            if addrLwr macAddress = temp then
              match bus.regWrite (filtUprReg slot) 0 state with
              | (ret, state) => if ret ≠ 0 then (ret, state) else bus.regWrite (filtLwrReg slot) 0 state
            else (0, state)

def clearSlots (macAddress : MacAddress) : Nat → Nat → σ → Int × σ
  | 0, _, state => (0, state)
  | count + 1, slot, state =>
      match clearSlot bus macAddress slot state with
      | (ret, state) => if ret ≠ 0 then (ret, state) else clearSlots macAddress count (slot + 1) state

def adin1110ClearMacAddr (macAddress : MacAddress) (state : σ) : Int × σ :=
  clearSlots bus macAddress adin1110AddrFiltLen 0 state

def broadcastAddr : MacAddress := Vector.replicate adin1110EthAlen 0xFF

def adin1110BroadcastFilter (chipType : Adin1110ChipId) (enabled : Bool) (state : σ) : Int × σ :=
  if enabled then adin1110SetMacAddr bus chipType broadcastAddr state
  else adin1110ClearMacAddr bus broadcastAddr state

end Driver

/-! What the device does with the registers of the filter. -/

/-- The registers of the sixteen slots and the two that follow them. -/
def InFilter (addr : UInt16) : Prop := 0x50 ≤ addr.toNat ∧ addr.toNat ≤ 0x71

/-- Where a transfer succeeds, a register of the filter reads as it was written last. -/
structure KeepsFilter {σ : Type*} (bus : RegisterBus σ) (value : σ → UInt16 → UInt32) : Prop where
  failures : ∀ addr state ret, (bus.regRead addr state).1 = .error ret → ret ≠ 0
  reads : ∀ addr state, InFilter addr → ∀ data, (bus.regRead addr state).1 = .ok data →
    data = value state addr
  readKeeps : ∀ addr state, InFilter addr → ∀ other, InFilter other →
    value (bus.regRead addr state).2 other = value state other
  writes : ∀ addr data state, InFilter addr → (bus.regWrite addr data state).1 = 0 →
    ∀ other, InFilter other → value (bus.regWrite addr data state).2 other =
      if other = addr then data else value state other

theorem filtUprReg_toNat {slot : Nat} (inside : slot ≤ adin1110AddrFiltLen) :
    (filtUprReg slot).toNat = 0x50 + 2 * slot := by
  simp only [filtUprReg, UInt16.toNat_ofNat', adin1110AddrFiltLen] at *
  omega

theorem filtLwrReg_toNat {slot : Nat} (inside : slot ≤ adin1110AddrFiltLen) :
    (filtLwrReg slot).toNat = 0x51 + 2 * slot := by
  simp only [filtLwrReg, UInt16.toNat_ofNat', adin1110AddrFiltLen] at *
  omega

theorem filtUprReg_inFilter {slot : Nat} (inside : slot ≤ adin1110AddrFiltLen) :
    InFilter (filtUprReg slot) := by
  rw [InFilter, filtUprReg_toNat inside]
  simp only [adin1110AddrFiltLen] at inside
  omega

theorem filtLwrReg_inFilter {slot : Nat} (inside : slot ≤ adin1110AddrFiltLen) :
    InFilter (filtLwrReg slot) := by
  rw [InFilter, filtLwrReg_toNat inside]
  simp only [adin1110AddrFiltLen] at inside
  omega

def slotOf (registers : UInt16 → UInt32) (slot : Nat) : UInt32 × UInt32 :=
  (registers (filtUprReg slot), registers (filtLwrReg slot))

/-- Both files hold the same slots, the one behind the last included. -/
def SameSlots (before after : UInt16 → UInt32) : Prop :=
  ∀ slot ≤ adin1110AddrFiltLen, slotOf after slot = slotOf before slot

theorem SameSlots.refl (registers : UInt16 → UInt32) : SameSlots registers registers :=
  fun _ _ => rfl

theorem SameSlots.trans {first second third : UInt16 → UInt32} (left : SameSlots first second)
    (right : SameSlots second third) : SameSlots first third :=
  fun slot inside => (right slot inside).trans (left slot inside)

theorem filtUprReg_inj {slot other : Nat} (inside : slot ≤ adin1110AddrFiltLen)
    (otherInside : other ≤ adin1110AddrFiltLen) : filtUprReg slot = filtUprReg other ↔ slot = other := by
  rw [← UInt16.toNat_inj, filtUprReg_toNat inside, filtUprReg_toNat otherInside]
  omega

theorem filtLwrReg_inj {slot other : Nat} (inside : slot ≤ adin1110AddrFiltLen)
    (otherInside : other ≤ adin1110AddrFiltLen) : filtLwrReg slot = filtLwrReg other ↔ slot = other := by
  rw [← UInt16.toNat_inj, filtLwrReg_toNat inside, filtLwrReg_toNat otherInside]
  omega

theorem filtUprReg_ne_filtLwrReg {slot other : Nat} (inside : slot ≤ adin1110AddrFiltLen)
    (otherInside : other ≤ adin1110AddrFiltLen) : filtUprReg slot ≠ filtLwrReg other := by
  rw [ne_eq, ← UInt16.toNat_inj, filtUprReg_toNat inside, filtLwrReg_toNat otherInside]
  omega

section Slots

variable {σ : Type*} {bus : RegisterBus σ} {value : σ → UInt16 → UInt32}

theorem KeepsFilter.read (keeps : KeepsFilter bus value) {addr : UInt16} (inFilter : InFilter addr)
    {state after : σ} {result : Except Int UInt32} (read : bus.regRead addr state = (result, after)) :
    SameSlots (value state) (value after) ∧ ∀ data, result = .ok data → data = value state addr := by
  have kept := keeps.readKeeps addr state inFilter
  have reads := keeps.reads addr state inFilter
  rw [read] at kept reads
  refine ⟨fun slot inside => ?_, reads⟩
  rw [slotOf, slotOf, kept _ (filtUprReg_inFilter inside), kept _ (filtLwrReg_inFilter inside)]

theorem KeepsFilter.writeUpr (keeps : KeepsFilter bus value) {slot : Nat}
    (inside : slot ≤ adin1110AddrFiltLen) {data : UInt32} {state after : σ}
    (written : bus.regWrite (filtUprReg slot) data state = (0, after)) {other : Nat}
    (otherInside : other ≤ adin1110AddrFiltLen) :
    slotOf (value after) other =
      if other = slot then (data, (slotOf (value state) other).2) else slotOf (value state) other := by
  have writes := keeps.writes (filtUprReg slot) data state (filtUprReg_inFilter inside)
  rw [written] at writes
  rw [slotOf, writes rfl _ (filtUprReg_inFilter otherInside), writes rfl _ (filtLwrReg_inFilter otherInside),
    if_neg (filtUprReg_ne_filtLwrReg inside otherInside).symm]
  simp only [filtUprReg_inj otherInside inside]
  split <;> rfl

theorem KeepsFilter.writeLwr (keeps : KeepsFilter bus value) {slot : Nat}
    (inside : slot ≤ adin1110AddrFiltLen) {data : UInt32} {state after : σ}
    (written : bus.regWrite (filtLwrReg slot) data state = (0, after)) {other : Nat}
    (otherInside : other ≤ adin1110AddrFiltLen) :
    slotOf (value after) other =
      if other = slot then ((slotOf (value state) other).1, data) else slotOf (value state) other := by
  have writes := keeps.writes (filtLwrReg slot) data state (filtLwrReg_inFilter inside)
  rw [written] at writes
  rw [slotOf, writes rfl _ (filtUprReg_inFilter otherInside), writes rfl _ (filtLwrReg_inFilter otherInside),
    if_neg (filtUprReg_ne_filtLwrReg otherInside inside)]
  simp only [filtLwrReg_inj otherInside inside]
  split <;> rfl

/-- The first slot of the range that is free, or the end of the range. -/
structure FirstFree (registers : UInt16 → UInt32) (slot count found : Nat) : Prop where
  lower : slot ≤ found
  upper : found ≤ slot + count
  used : ∀ other, slot ≤ other → other < found → slotOf registers other ≠ (0, 0)
  free : found < slot + count → slotOf registers found = (0, 0)

theorem FirstFree.skip {registers after : UInt16 → UInt32} {slot count found : Nat}
    (same : SameSlots registers after) (inside : slot + (count + 1) ≤ adin1110AddrFiltLen)
    (used : slotOf registers slot ≠ (0, 0)) (rest : FirstFree after (slot + 1) count found) :
    FirstFree registers slot (count + 1) found := by
  have lower := rest.lower
  have upper := rest.upper
  constructor
  · omega
  · omega
  · intro other from_slot below
    rcases Nat.eq_or_lt_of_le from_slot with rfl | later
    · exact used
    · rw [← same other (by omega)]
      exact rest.used other later below
  · intro within
    rw [← same found (by omega)]
    exact rest.free (by omega)

theorem findFreeSlot_found (keeps : KeepsFilter bus value) {count slot found : Nat} {state after : σ}
    (inside : slot + count ≤ adin1110AddrFiltLen)
    (returned : findFreeSlot bus count slot state = (.ok found, after)) :
    SameSlots (value state) (value after) ∧ FirstFree (value state) slot count found := by
  induction count generalizing slot state with
  | zero =>
      simp only [findFreeSlot, Prod.mk.injEq, Except.ok.injEq] at returned
      obtain ⟨rfl, rfl⟩ := returned
      refine ⟨SameSlots.refl _, Nat.le_refl _, Nat.le_refl _, ?_, ?_⟩
      · intro other lower upper
        omega
      · intro upper
        omega
  | succ count ih =>
      rcases readUpr : bus.regRead (filtUprReg slot) state with ⟨upr, second⟩
      obtain ⟨sameUpr, valueUpr⟩ := keeps.read (filtUprReg_inFilter (by omega)) readUpr
      cases upr with
      | error ret => simp [findFreeSlot, readUpr] at returned
      | ok temp =>
          have isUpr := valueUpr temp rfl
          by_cases usedUpr : temp = 0
          · rcases readLwr : bus.regRead (filtLwrReg slot) second with ⟨lwr, third⟩
            obtain ⟨sameLwr, valueLwr⟩ := keeps.read (filtLwrReg_inFilter (by omega)) readLwr
            cases lwr with
            | error ret => simp [findFreeSlot, readUpr, usedUpr, readLwr] at returned
            | ok low =>
                have isLwr : low = (slotOf (value state) slot).2 := by
                  rw [← sameUpr slot (by omega)]
                  exact valueLwr low rfl
                by_cases usedLwr : low = 0
                · simp only [findFreeSlot, readUpr, usedUpr, ne_eq, not_true_eq_false, if_false, readLwr,
                    usedLwr, if_true, Prod.mk.injEq, Except.ok.injEq] at returned
                  obtain ⟨rfl, rfl⟩ := returned
                  refine ⟨sameUpr.trans sameLwr, Nat.le_refl _, by omega, ?_, ?_⟩
                  · intro other lower upper
                    omega
                  · intro _
                    exact Prod.ext (isUpr.symm.trans usedUpr) (isLwr.symm.trans usedLwr)
                · simp only [findFreeSlot, readUpr, usedUpr, ne_eq, not_true_eq_false, if_false, readLwr,
                    usedLwr] at returned
                  obtain ⟨same, rest⟩ := ih (by omega) returned
                  have both := sameUpr.trans sameLwr
                  refine ⟨both.trans same, rest.skip both inside fun free => usedLwr ?_⟩
                  rw [isLwr, free]
          · simp only [findFreeSlot, readUpr, ne_eq, usedUpr, not_false_eq_true, if_true] at returned
            obtain ⟨same, rest⟩ := ih (by omega) returned
            refine ⟨sameUpr.trans same, rest.skip sameUpr inside fun free => usedUpr ?_⟩
            rw [isUpr]
            exact congrArg Prod.fst free

theorem findFreeSlot_error (keeps : KeepsFilter bus value) {count slot : Nat} {ret : Int} {state after : σ}
    (returned : findFreeSlot bus count slot state = (.error ret, after)) : ret ≠ 0 := by
  induction count generalizing slot state with
  | zero => simp [findFreeSlot] at returned
  | succ count ih =>
      have failsUpr := keeps.failures (filtUprReg slot) state
      simp only [findFreeSlot] at returned
      split at returned
      · simp_all
      · split at returned
        · exact ih returned
        · rename_i second _ _
          have failsLwr := keeps.failures (filtLwrReg slot) second
          split at returned
          · simp_all
          · split at returned
            · simp at returned
            · exact ih returned

structure TransfersSucceed {σ : Type*} (bus : RegisterBus σ) : Prop where
  reads : ∀ addr state, InFilter addr → ∃ data, (bus.regRead addr state).1 = .ok data
  writes : ∀ addr data state, InFilter addr → (bus.regWrite addr data state).1 = 0

theorem TransfersSucceed.read (transfers : TransfersSucceed bus) {addr : UInt16}
    (inFilter : InFilter addr) (state : σ) :
    ∃ data after, bus.regRead addr state = (.ok data, after) := by
  obtain ⟨data, read⟩ := transfers.reads addr state inFilter
  exact ⟨data, _, Prod.ext read rfl⟩

theorem findFreeSlot_returns (transfers : TransfersSucceed bus) {count slot : Nat}
    (inside : slot + count ≤ adin1110AddrFiltLen) (state : σ) :
    ∃ found after, findFreeSlot bus count slot state = (.ok found, after) ∧
      found ≤ adin1110AddrFiltLen := by
  induction count generalizing slot state with
  | zero => exact ⟨slot, state, rfl, by omega⟩
  | succ count ih =>
      have here : slot ≤ adin1110AddrFiltLen := by omega
      obtain ⟨upr, second, readUpr⟩ := transfers.read (filtUprReg_inFilter here) state
      by_cases usedUpr : upr = 0
      · obtain ⟨lwr, third, readLwr⟩ := transfers.read (filtLwrReg_inFilter here) second
        by_cases usedLwr : lwr = 0
        · refine ⟨slot, third, ?_, by omega⟩
          simp only [findFreeSlot, readUpr, usedUpr, ne_eq, not_true_eq_false, if_false, readLwr,
            usedLwr, if_true]
        · simp only [findFreeSlot, readUpr, usedUpr, ne_eq, not_true_eq_false, if_false, readLwr,
            usedLwr]
          exact ih (by omega) third
      · simp only [findFreeSlot, readUpr, ne_eq, usedUpr, not_false_eq_true, if_true]
        exact ih (by omega) second

theorem adin1110SetMacAddr_succeeds (transfers : TransfersSucceed bus) (chipType : Adin1110ChipId)
    (macAddress : MacAddress) (state : σ) :
    (adin1110SetMacAddr bus chipType macAddress state).1 = 0 := by
  have whole : 0 + adin1110AddrFiltLen ≤ adin1110AddrFiltLen := Nat.le_of_eq (Nat.zero_add _)
  obtain ⟨found, second, searched, inside⟩ := findFreeSlot_returns transfers whole state
  have wroteUpr := transfers.writes (filtUprReg found) (addrUpr macAddress ||| forwardFlags chipType)
    second (filtUprReg_inFilter inside)
  simp only [adin1110SetMacAddr, searched, wroteUpr, ne_eq, not_true_eq_false, if_false]
  exact transfers.writes _ _ _ (filtLwrReg_inFilter inside)

def entry (chipType : Adin1110ChipId) (macAddress : MacAddress) : UInt32 × UInt32 :=
  (addrUpr macAddress ||| forwardFlags chipType, addrLwr macAddress)

theorem adin1110SetMacAddr_sets (keeps : KeepsFilter bus value) {chipType : Adin1110ChipId}
    {macAddress : MacAddress} {state after : σ}
    (returned : adin1110SetMacAddr bus chipType macAddress state = (0, after)) :
    ∃ found, FirstFree (value state) 0 adin1110AddrFiltLen found ∧
      ∀ other ≤ adin1110AddrFiltLen, slotOf (value after) other =
        if other = found then entry chipType macAddress else slotOf (value state) other := by
  rcases searched : findFreeSlot bus adin1110AddrFiltLen 0 state with ⟨result, second⟩
  cases result with
  | error ret =>
      have failed := findFreeSlot_error keeps searched
      simp only [adin1110SetMacAddr, searched, Prod.mk.injEq] at returned
      exact absurd returned.1 failed
  | ok found =>
      obtain ⟨same, first⟩ := findFreeSlot_found keeps (by simp) searched
      have inside : found ≤ adin1110AddrFiltLen := by simpa using first.upper
      refine ⟨found, first, fun other otherInside => ?_⟩
      rcases writtenUpr : bus.regWrite (filtUprReg found) (addrUpr macAddress ||| forwardFlags chipType)
        second with ⟨ret, third⟩
      by_cases failed : ret = 0
      · subst failed
        simp only [adin1110SetMacAddr, searched, writtenUpr, ne_eq, not_true_eq_false, if_false] at returned
        rw [keeps.writeLwr inside returned otherInside, keeps.writeUpr inside writtenUpr otherInside,
          same other otherInside, entry]
        split <;> rfl
      · simp only [adin1110SetMacAddr, searched, writtenUpr, ne_eq, failed, not_false_eq_true, if_true] at returned
        exact absurd (congrArg Prod.fst returned) failed

/-- The slot is one that `adin1110_clear_mac_addr` takes for the address. -/
def Holds (pair : UInt32 × UInt32) (macAddress : MacAddress) : Prop :=
  addrUpr macAddress = pair.1 &&& 0xFFFF ∧ addrLwr macAddress = pair.2

instance (pair : UInt32 × UInt32) (macAddress : MacAddress) : Decidable (Holds pair macAddress) :=
  inferInstanceAs (Decidable (_ ∧ _))

theorem clearSlot_clears (keeps : KeepsFilter bus value) {macAddress : MacAddress} {slot : Nat}
    {state after : σ} (inside : slot ≤ adin1110AddrFiltLen)
    (returned : clearSlot bus macAddress slot state = (0, after)) :
    ∀ other ≤ adin1110AddrFiltLen, slotOf (value after) other =
      if other = slot ∧ Holds (slotOf (value state) slot) macAddress then (0, 0)
      else slotOf (value state) other := by
  intro other otherInside
  have failsUpr := keeps.failures (filtUprReg slot) state
  rcases readUpr : bus.regRead (filtUprReg slot) state with ⟨upr, second⟩
  obtain ⟨sameUpr, valueUpr⟩ := keeps.read (filtUprReg_inFilter inside) readUpr
  rw [readUpr] at failsUpr
  cases upr with
  | error ret =>
      simp only [clearSlot, readUpr] at returned
      exact absurd (congrArg Prod.fst returned) (failsUpr ret rfl)
  | ok temp =>
      have isUpr : temp = (slotOf (value state) slot).1 := valueUpr temp rfl
      by_cases matchesUpr : addrUpr macAddress = temp &&& 0xFFFF
      · have failsLwr := keeps.failures (filtLwrReg slot) second
        rcases readLwr : bus.regRead (filtLwrReg slot) second with ⟨lwr, third⟩
        obtain ⟨sameLwr, valueLwr⟩ := keeps.read (filtLwrReg_inFilter inside) readLwr
        rw [readLwr] at failsLwr
        cases lwr with
        | error ret =>
            simp only [clearSlot, readUpr, matchesUpr, ne_eq, not_true_eq_false, if_false, readLwr] at returned
            exact absurd (congrArg Prod.fst returned) (failsLwr ret rfl)
        | ok low =>
            have isLwr : low = (slotOf (value state) slot).2 := by
              rw [← sameUpr slot inside]
              exact valueLwr low rfl
            have same := sameUpr.trans sameLwr
            by_cases matchesLwr : addrLwr macAddress = low
            · rcases writtenUpr : bus.regWrite (filtUprReg slot) 0 third with ⟨ret, fourth⟩
              simp only [clearSlot, readUpr, matchesUpr, ne_eq, not_true_eq_false, if_false, readLwr,
                matchesLwr, if_true, writtenUpr] at returned
              by_cases failed : ret = 0
              · subst failed
                simp only [not_true_eq_false, if_false] at returned
                have holds : Holds (slotOf (value state) slot) macAddress :=
                  ⟨isUpr ▸ matchesUpr, matchesLwr.trans isLwr⟩
                rw [keeps.writeLwr inside returned otherInside, keeps.writeUpr inside writtenUpr otherInside,
                  same other otherInside]
                by_cases here : other = slot <;> simp [here, holds]
              · simp only [failed, not_false_eq_true, if_true] at returned
                exact absurd (congrArg Prod.fst returned) failed
            · simp only [clearSlot, readUpr, matchesUpr, ne_eq, not_true_eq_false, if_false, readLwr,
                matchesLwr, Prod.mk.injEq, true_and] at returned
              subst returned
              rw [same other otherInside, if_neg]
              rintro ⟨-, -, equal⟩
              exact matchesLwr (equal.trans isLwr.symm)
      · simp only [clearSlot, readUpr, ne_eq, matchesUpr, not_false_eq_true, if_true, Prod.mk.injEq,
          true_and] at returned
        subst returned
        rw [sameUpr other otherInside, if_neg]
        rintro ⟨-, equal, -⟩
        exact matchesUpr (isUpr ▸ equal)

theorem clearSlots_clears (keeps : KeepsFilter bus value) {macAddress : MacAddress} {count slot : Nat}
    {state after : σ} (inside : slot + count ≤ adin1110AddrFiltLen)
    (returned : clearSlots bus macAddress count slot state = (0, after)) :
    ∀ other ≤ adin1110AddrFiltLen, slotOf (value after) other =
      if (slot ≤ other ∧ other < slot + count) ∧ Holds (slotOf (value state) other) macAddress then (0, 0)
      else slotOf (value state) other := by
  induction count generalizing slot state with
  | zero =>
      intro other otherInside
      obtain ⟨-, rfl⟩ := Prod.mk.inj returned
      rw [if_neg (by omega)]
  | succ count ih =>
      intro other otherInside
      rcases cleared : clearSlot bus macAddress slot state with ⟨ret, second⟩
      simp only [clearSlots, cleared] at returned
      by_cases failed : ret = 0
      · subst failed
        simp only [ne_eq, not_true_eq_false, if_false] at returned
        rw [ih (by omega) returned other otherInside, clearSlot_clears keeps (by omega) cleared other otherInside]
        by_cases here : other = slot
        · subst here
          simp
        · have range : (slot + 1 ≤ other ∧ other < slot + 1 + count) ↔
              slot ≤ other ∧ other < slot + (count + 1) := by omega
          simp only [here, false_and, if_false, range]
      · simp only [ne_eq, failed, not_false_eq_true, if_true] at returned
        exact absurd (congrArg Prod.fst returned) failed

end Slots

/-! The slots as the addresses that they hold. -/

theorem lowMask_testBit (word : UInt32) (bit : Nat) :
    (word &&& 0xFFFF).toNat.testBit bit = (word.toNat.testBit bit && decide (bit < 16)) := by
  rw [UInt32.toNat_and, Nat.testBit_and, ← Nat.testBit_two_pow_sub_one]
  rfl

theorem addrUpr_testBit (macAddress : MacAddress) (bit : Nat) (beyond : 16 ≤ bit) :
    (addrUpr macAddress).toNat.testBit bit = false := by
  rw [addrUpr, UInt16.toNat_toUInt32]
  exact Nat.testBit_lt_two_pow
    (Nat.lt_of_lt_of_le (UInt16.toNat_lt _) (Nat.pow_le_pow_right (by decide) beyond))

theorem addrUpr_low (macAddress : MacAddress) (flags : UInt32) (high : flags &&& 0xFFFF = 0) :
    (addrUpr macAddress ||| flags) &&& 0xFFFF = addrUpr macAddress := by
  apply UInt32.toNat_inj.mp
  apply Nat.eq_of_testBit_eq
  intro bit
  have clear : (flags &&& 0xFFFF).toNat.testBit bit = false := by simp [high]
  have beyond := addrUpr_testBit macAddress bit
  rw [lowMask_testBit] at clear ⊢
  rw [UInt32.toNat_or, Nat.testBit_or]
  grind

theorem forwardFlags_high (chipType : Adin1110ChipId) :
    forwardFlags chipType &&& 0xFFFF = 0 ∧ forwardFlags chipType ≠ 0 := by
  cases chipType <;> decide

theorem entry_ne_zero (chipType : Adin1110ChipId) (macAddress : MacAddress) :
    entry chipType macAddress ≠ (0, 0) := by
  intro zero
  have upper : addrUpr macAddress ||| forwardFlags chipType = 0 := congrArg Prod.fst zero
  exact (forwardFlags_high chipType).2 (UInt32.or_eq_zero_iff.mp upper).2

theorem addr_inj {first second : MacAddress} (upper : addrUpr first = addrUpr second)
    (lower : addrLwr first = addrLwr second) : first = second := by
  obtain ⟨zero, one⟩ := wordOfBytes_inj (UInt16.toUInt32_inj.mp upper)
  obtain ⟨two, three, four, five⟩ := wordOfFourBytes_inj lower
  refine Vector.ext fun index inside => ?_
  match index with
  | 0 => exact zero
  | 1 => exact one
  | 2 => exact two
  | 3 => exact three
  | 4 => exact four
  | 5 => exact five

theorem holds_entry (chipType : Adin1110ChipId) (first second : MacAddress) :
    Holds (entry chipType first) second ↔ first = second := by
  rw [Holds, entry, addrUpr_low first _ (forwardFlags_high chipType).1]
  constructor
  · rintro ⟨upper, lower⟩
    exact addr_inj upper.symm lower.symm
  · rintro rfl
    exact ⟨rfl, rfl⟩

def slotFor (chipType : Adin1110ChipId) : Option MacAddress → UInt32 × UInt32
  | none => (0, 0)
  | some macAddress => entry chipType macAddress

/-- Which address each slot is for. -/
def Shows (chipType : Adin1110ChipId) (registers : UInt16 → UInt32)
    (table : Nat → Option MacAddress) : Prop :=
  ∀ slot < adin1110AddrFiltLen, slotOf registers slot = slotFor chipType (table slot)

def accepted (table : Nat → Option MacAddress) : Set MacAddress :=
  {macAddress | ∃ slot < adin1110AddrFiltLen, table slot = some macAddress}

def Full (table : Nat → Option MacAddress) : Prop := ∀ slot < adin1110AddrFiltLen, table slot ≠ none

section Filter

variable {σ : Type*} {bus : RegisterBus σ} {value : σ → UInt16 → UInt32} {chipType : Adin1110ChipId}
  {table : Nat → Option MacAddress}

theorem Shows.free_iff {registers : UInt16 → UInt32} (shows_ : Shows chipType registers table) {slot : Nat}
    (inside : slot < adin1110AddrFiltLen) : slotOf registers slot = (0, 0) ↔ table slot = none := by
  rw [shows_ slot inside]
  cases table slot with
  | none => simp [slotFor]
  | some macAddress => simp [slotFor, entry_ne_zero]

theorem set_shows (keeps : KeepsFilter bus value) {macAddress : MacAddress} {state after : σ}
    (before : Shows chipType (value state) table)
    (returned : adin1110SetMacAddr bus chipType macAddress state = (0, after)) :
    (Full table → Shows chipType (value after) table ∧
      slotOf (value after) adin1110AddrFiltLen = entry chipType macAddress) ∧
    (¬ Full table → ∃ found, found < adin1110AddrFiltLen ∧ table found = none ∧
      Shows chipType (value after) (Function.update table found (some macAddress))) := by
  obtain ⟨found, first, written⟩ := adin1110SetMacAddr_sets keeps returned
  constructor
  · intro full
    have last : found = adin1110AddrFiltLen := by
      by_contra other
      have inside : found < adin1110AddrFiltLen := by
        have := first.upper
        omega
      exact full found inside ((before.free_iff inside).mp (first.free (by simpa using inside)))
    subst last
    refine ⟨fun slot inside => ?_, by simp [written]⟩
    rw [written slot (Nat.le_of_lt inside), if_neg (Nat.ne_of_lt inside)]
    exact before slot inside
  · intro notFull
    simp only [Full, not_forall, not_not] at notFull
    obtain ⟨free, freeInside, none⟩ := notFull
    have inside : found < adin1110AddrFiltLen := by
      by_contra beyond
      exact first.used free (Nat.zero_le _) (by omega) ((before.free_iff freeInside).mpr none)
    refine ⟨found, inside, (before.free_iff inside).mp (first.free (by simpa using inside)), ?_⟩
    intro slot slotInside
    rw [written slot (Nat.le_of_lt slotInside)]
    by_cases here : slot = found
    · subst here
      simp [slotFor]
    · rw [if_neg here, Function.update_of_ne here]
      exact before slot slotInside

theorem clear_shows (keeps : KeepsFilter bus value) {macAddress : MacAddress} {state after : σ}
    (before : Shows chipType (value state) table)
    (returned : adin1110ClearMacAddr bus macAddress state = (0, after)) :
    Shows chipType (value after) fun slot =>
      if table slot = some macAddress then none else table slot := by
  intro slot inside
  have cleared := clearSlots_clears keeps (by simp) returned slot (Nat.le_of_lt inside)
  rw [cleared, before slot inside]
  dsimp only
  cases table slot with
  | none => simp [slotFor]
  | some held =>
      by_cases same : held = macAddress <;> simp [slotFor, holds_entry, inside, same]

/-! Runs of the calls. -/

inductive FilterEvent
  | set (macAddress : MacAddress)
  | clear (macAddress : MacAddress)
  | broadcast (enabled : Bool)

def filterCall (bus : RegisterBus σ) (chipType : Adin1110ChipId) (state : σ) : FilterEvent → Int × σ
  | .set macAddress => adin1110SetMacAddr bus chipType macAddress state
  | .clear macAddress => adin1110ClearMacAddr bus macAddress state
  | .broadcast enabled => adin1110BroadcastFilter bus chipType enabled state

def filterStep (bus : RegisterBus σ) (chipType : Adin1110ChipId) (state : σ) (event : FilterEvent) : σ :=
  (filterCall bus chipType state event).2

/-- The addresses that should be held behind the event. -/
def expectedStep (expected : Set MacAddress) : FilterEvent → Set MacAddress
  | .set macAddress => insert macAddress expected
  | .clear macAddress => expected \ {macAddress}
  | .broadcast enabled => if enabled then insert broadcastAddr expected else expected \ {broadcastAddr}

def FilterEvent.Adds : FilterEvent → Prop
  | .set _ => True
  | .clear _ => False
  | .broadcast enabled => enabled

def HasRoom (registers : UInt16 → UInt32) : Prop :=
  ∃ slot < adin1110AddrFiltLen, slotOf registers slot = (0, 0)

theorem Shows.hasRoom_iff {registers : UInt16 → UInt32} (shows_ : Shows chipType registers table) :
    HasRoom registers ↔ ¬ Full table := by
  simp only [HasRoom, Full, not_forall, not_not]
  constructor
  · rintro ⟨slot, inside, free⟩
    exact ⟨slot, inside, (shows_.free_iff inside).mp free⟩
  · rintro ⟨slot, inside, free⟩
    exact ⟨slot, inside, (shows_.free_iff inside).mpr free⟩

theorem accepted_update {found : Nat} (macAddress : MacAddress) (inside : found < adin1110AddrFiltLen)
    (free : table found = none) :
    accepted (Function.update table found (some macAddress)) = insert macAddress (accepted table) := by
  ext other
  simp only [accepted, Set.mem_ofPred_eq, Set.mem_insert_iff]
  constructor
  · rintro ⟨slot, slotInside, here⟩
    by_cases same : slot = found
    · subst same
      rw [Function.update_self] at here
      exact .inl (Option.some.inj here).symm
    · rw [Function.update_of_ne same] at here
      exact .inr ⟨slot, slotInside, here⟩
  · rintro (rfl | ⟨slot, slotInside, here⟩)
    · exact ⟨found, inside, Function.update_self ..⟩
    · have different : slot ≠ found := by
        rintro rfl
        rw [free] at here
        cases here
      exact ⟨slot, slotInside, by rw [Function.update_of_ne different, here]⟩

theorem accepted_clear (table : Nat → Option MacAddress) (macAddress : MacAddress) :
    accepted (fun slot => if table slot = some macAddress then none else table slot) =
      accepted table \ {macAddress} := by
  ext other
  simp only [accepted, Set.mem_ofPred_eq, Set.mem_sdiff, Set.mem_singleton_iff]
  constructor
  · rintro ⟨slot, inside, here⟩
    split at here
    · cases here
    · rename_i different
      refine ⟨⟨slot, inside, here⟩, ?_⟩
      rintro rfl
      exact different here
  · rintro ⟨⟨slot, inside, here⟩, different⟩
    refine ⟨slot, inside, ?_⟩
    rw [here, if_neg (by simpa using different)]

theorem set_step (keeps : KeepsFilter bus value) {macAddress : MacAddress} {state : σ}
    (before : Shows chipType (value state) table)
    (succeeds : (adin1110SetMacAddr bus chipType macAddress state).1 = 0) :
    ∃ after, Shows chipType (value (adin1110SetMacAddr bus chipType macAddress state).2) after ∧
      accepted after ⊆ insert macAddress (accepted table) ∧
      (HasRoom (value state) → accepted after = insert macAddress (accepted table)) := by
  obtain ⟨whenFull, otherwise⟩ := set_shows keeps before (Prod.ext succeeds rfl)
  rw [before.hasRoom_iff]
  by_cases full : Full table
  · exact ⟨table, (whenFull full).1, Set.subset_insert _ _, fun room => absurd full room⟩
  · obtain ⟨found, inside, free, after⟩ := otherwise full
    have same := accepted_update macAddress inside free
    exact ⟨_, after, same.subset, fun _ => same⟩

theorem clear_step (keeps : KeepsFilter bus value) {macAddress : MacAddress} {state : σ}
    (before : Shows chipType (value state) table)
    (succeeds : (adin1110ClearMacAddr bus macAddress state).1 = 0) :
    ∃ after, Shows chipType (value (adin1110ClearMacAddr bus macAddress state).2) after ∧
      accepted after = accepted table \ {macAddress} :=
  ⟨_, clear_shows keeps before (Prod.ext succeeds rfl), accepted_clear table macAddress⟩

theorem filter_step (keeps : KeepsFilter bus value) {event : FilterEvent} {state : σ}
    (before : Shows chipType (value state) table)
    (succeeds : (filterCall bus chipType state event).1 = 0) :
    ∃ after, Shows chipType (value (filterStep bus chipType state event)) after ∧
      accepted after ⊆ expectedStep (accepted table) event ∧
      ((event.Adds → HasRoom (value state)) → accepted after = expectedStep (accepted table) event) := by
  cases event with
  | set macAddress =>
      obtain ⟨after, shows_, subset, equal⟩ := set_step keeps before succeeds
      exact ⟨after, shows_, subset, fun room => equal (room trivial)⟩
  | clear macAddress =>
      obtain ⟨after, shows_, equal⟩ := clear_step keeps before succeeds
      exact ⟨after, shows_, equal.subset, fun _ => equal⟩
  | broadcast enabled =>
      cases enabled with
      | true =>
          obtain ⟨after, shows_, subset, equal⟩ := set_step keeps before succeeds
          exact ⟨after, shows_, subset, fun room => equal (room rfl)⟩
      | false =>
          obtain ⟨after, shows_, equal⟩ := clear_step keeps before succeeds
          exact ⟨after, shows_, equal.subset, fun _ => equal⟩

theorem expectedStep_mono {smaller larger : Set MacAddress} (subset : smaller ⊆ larger)
    (event : FilterEvent) : expectedStep smaller event ⊆ expectedStep larger event := by
  cases event with
  | set macAddress => exact Set.insert_subset_insert subset
  | clear macAddress => exact Set.sdiff_subset_sdiff_left subset
  | broadcast enabled =>
      cases enabled with
      | true => exact Set.insert_subset_insert subset
      | false => exact Set.sdiff_subset_sdiff_left subset

theorem expected_mono {smaller larger : Set MacAddress} (subset : smaller ⊆ larger)
    (events : List FilterEvent) : events.foldl expectedStep smaller ⊆ events.foldl expectedStep larger := by
  induction events generalizing smaller larger with
  | nil => exact subset
  | cons event events ih => exact ih (expectedStep_mono subset event)

theorem filter_run (keeps : KeepsFilter bus value) {events : List FilterEvent} {state : σ}
    (before : Shows chipType (value state) table)
    (succeed : Throughout (filterStep bus chipType)
      (fun state event => (filterCall bus chipType state event).1 = 0) state events) :
    ∃ after, Shows chipType (value (events.foldl (filterStep bus chipType) state)) after ∧
      accepted after ⊆ events.foldl expectedStep (accepted table) ∧
      (Throughout (filterStep bus chipType) (fun state event => event.Adds → HasRoom (value state))
        state events → accepted after = events.foldl expectedStep (accepted table)) := by
  induction events generalizing state table with
  | nil => exact ⟨table, before, Set.Subset.rfl, fun _ => rfl⟩
  | cons event events ih =>
      obtain ⟨here, later⟩ := succeed
      obtain ⟨middle, middleShows, subset, equal⟩ := filter_step keeps before here
      obtain ⟨after, afterShows, afterSubset, afterEqual⟩ := ih middleShows later
      refine ⟨after, afterShows, afterSubset.trans (expected_mono subset events), ?_⟩
      rintro ⟨roomHere, roomLater⟩
      rw [afterEqual roomLater, equal roomHere]
      rfl

/-- From a reset on, the slots hold no address but those that were set and not cleared since;
and all of them, unless an address was set with no slot free. -/
theorem filter_from_reset (keeps : KeepsFilter bus value) {events : List FilterEvent} {state : σ}
    (reset : ∀ slot < adin1110AddrFiltLen, slotOf (value state) slot = (0, 0))
    (succeed : Throughout (filterStep bus chipType)
      (fun state event => (filterCall bus chipType state event).1 = 0) state events) :
    ∃ after, Shows chipType (value (events.foldl (filterStep bus chipType) state)) after ∧
      accepted after ⊆ events.foldl expectedStep ∅ ∧
      (Throughout (filterStep bus chipType) (fun state event => event.Adds → HasRoom (value state))
        state events → accepted after = events.foldl expectedStep ∅) := by
  have empty : accepted (fun _ => none) = ∅ := by simp [accepted]
  have before : Shows chipType (value state) fun _ => none := reset
  simpa only [empty] using filter_run keeps before succeed

/-- With no slot free the call succeeds all the same: the address goes into the registers behind
the slots, which hold the mask of the first one. -/
theorem set_full (table : Nat → Option MacAddress) (keeps : KeepsFilter bus value)
    (transfers : TransfersSucceed bus) {macAddress : MacAddress} {state : σ}
    (before : Shows chipType (value state) table) (full : Full table) :
    (adin1110SetMacAddr bus chipType macAddress state).1 = 0 ∧
      Shows chipType (value (adin1110SetMacAddr bus chipType macAddress state).2) table ∧
      value (adin1110SetMacAddr bus chipType macAddress state).2 adin1110MacAddrMaskUprReg =
        addrUpr macAddress ||| forwardFlags chipType ∧
      value (adin1110SetMacAddr bus chipType macAddress state).2 adin1110MacAddrMaskLwrReg =
        addrLwr macAddress := by
  have succeeds := adin1110SetMacAddr_succeeds transfers chipType macAddress state
  obtain ⟨shows_, behind⟩ := (set_shows keeps before (Prod.ext succeeds rfl)).1 full
  exact ⟨succeeds, shows_, congrArg Prod.fst behind, congrArg Prod.snd behind⟩

end Filter

/-! The register functions against a device that keeps its registers. -/

structure Attached where
  device : Device
  registers : UInt16 → UInt32

def messageAddr (message : List UInt8) : UInt16 :=
  wordOfBytes (message.getD 0 0) (message.getD 1 0) &&& 0x1FFF

/-- The value in a write, behind the header and its checksum. -/
def messageValue (appendCrc : Bool) (message : List UInt8) : UInt32 :=
  let start := if appendCrc then 3 else 2
  wordOfFourBytes (message.getD start 0) (message.getD (start + 1) 0) (message.getD (start + 2) 0)
    (message.getD (start + 3) 0)

def lastMessage (device : Device) : List UInt8 := device.transfers.getLastD []

def chipAnswer (appendCrc : Bool) (data : UInt32) : SpiAnswer where
  ret := 0
  received :=
    if appendCrc then RangeStore.writeRange (fun _ => 0) 4 (protect (fourBytes data))
    else RangeStore.writeRange (fun _ => 0) 3 (fourBytes data)

/-- What a read sends does not depend on the answer. -/
def readMessage (appendCrc : Bool) (addr : UInt16) (device : Device) : List UInt8 :=
  lastMessage (adin1110RegReadCrc appendCrc addr succeeded device).2

def chipBus (appendCrc : Bool) : RegisterBus Attached where
  regRead addr attached :=
    let data := attached.registers (messageAddr (readMessage appendCrc addr attached.device))
    match adin1110RegReadCrc appendCrc addr (chipAnswer appendCrc data) attached.device with
    | (result, device) => (result, ⟨device, attached.registers⟩)
  regWrite addr data attached :=
    match adin1110RegWriteCrc appendCrc addr data succeeded attached.device with
    | (ret, device) =>
        let message := lastMessage device
        (ret, ⟨device, Function.update attached.registers (messageAddr message) (messageValue appendCrc message)⟩)

theorem readMessage_addr (appendCrc : Bool) (addr : UInt16) (device : Device) :
    messageAddr (readMessage appendCrc addr device) =
      wordOfBytes (highByte addr ||| 0x80) (lowByte addr) &&& 0x1FFF := by
  cases appendCrc with
  | false =>
      have succeeds : succeeded.ret = 0 := rfl
      obtain ⟨after, rest, returned, transfer⟩ := adin1110RegRead_ok addr device succeeds
      rw [readMessage, adin1110RegReadCrc_off, returned, lastMessage, transfer.transfers]
      simp [messageAddr]
  | true =>
      obtain ⟨rest, sent⟩ := adin1110RegReadCrc_sends addr device succeeded
      rw [readMessage, lastMessage, sent]
      simp [messageAddr, protect]

theorem writeMessage_addr (appendCrc : Bool) (addr : UInt16) (data : UInt32) (device : Device) :
    messageAddr (lastMessage (adin1110RegWriteCrc appendCrc addr data succeeded device).2) =
      ((addr &&& 0x1FFF) ||| 0x8000 ||| 0x2000) &&& 0x1FFF ∧
    messageValue appendCrc (lastMessage (adin1110RegWriteCrc appendCrc addr data succeeded device).2) =
      data := by
  cases appendCrc with
  | false =>
      obtain ⟨after, returned, transfer⟩ := adin1110RegWrite_ok addr data succeeded device
      rw [adin1110RegWriteCrc_off, returned, lastMessage, transfer.transfers]
      simp [messageAddr, messageValue, fourBytes, wordOfFourBytes_split, wordOfBytes_split]
  | true =>
      obtain ⟨header, rfl, sent⟩ := adin1110RegWriteCrc_sends addr device data succeeded
      rw [lastMessage, sent]
      simp [messageAddr, messageValue, protect, fourBytes, wordOfFourBytes_split, wordOfBytes_split]

theorem inFilter_cases {p : UInt16 → Prop} (all : ∀ offset : Fin 34, p (UInt16.ofNat (0x50 + offset)))
    {addr : UInt16} (inFilter : InFilter addr) : p addr := by
  have here := all ⟨addr.toNat - 0x50, by have := inFilter.1; have := inFilter.2; omega⟩
  have same : UInt16.ofNat (0x50 + (addr.toNat - 0x50)) = addr := by
    rw [Nat.add_sub_cancel' inFilter.1, UInt16.ofNat_toNat]
  rwa [same] at here

theorem readAddr_inFilter {addr : UInt16} (inFilter : InFilter addr) :
    wordOfBytes (highByte addr ||| 0x80) (lowByte addr) &&& 0x1FFF = addr :=
  inFilter_cases (p := fun addr => wordOfBytes (highByte addr ||| 0x80) (lowByte addr) &&& 0x1FFF = addr)
    (by decide) inFilter

theorem writeAddr_inFilter {addr : UInt16} (inFilter : InFilter addr) :
    ((addr &&& 0x1FFF) ||| 0x8000 ||| 0x2000) &&& 0x1FFF = addr :=
  inFilter_cases (p := fun addr => ((addr &&& 0x1FFF) ||| 0x8000 ||| 0x2000) &&& 0x1FFF = addr)
    (by decide) inFilter

theorem chipAnswer_read (appendCrc : Bool) (addr : UInt16) (data : UInt32) (device : Device) :
    (adin1110RegReadCrc appendCrc addr (chipAnswer appendCrc data) device).1 = .ok data := by
  cases appendCrc with
  | false =>
      have succeeds : (chipAnswer false data).ret = 0 := rfl
      obtain ⟨after, rest, returned, -⟩ := adin1110RegRead_ok addr device succeeds
      rw [adin1110RegReadCrc_off, returned]
      exact congrArg Except.ok (bigEndian32At_writeRange _ 3 data)
  | true =>
      refine (adin1110RegReadCrc_protected addr device data rfl).1 ?_
      exact RangeStore.readRange_writeRange_same _ 4 (protect (fourBytes data))

/-- The driver's register functions keep the filter, whether they append checksums or not. -/
theorem chipBus_keepsFilter (appendCrc : Bool) : KeepsFilter (chipBus appendCrc) Attached.registers where
  failures addr attached ret failed := by
    simp only [chipBus, chipAnswer_read] at failed
    cases failed
  reads addr attached inFilter data read := by
    simp only [chipBus, chipAnswer_read, Except.ok.injEq] at read
    rw [← read, readMessage_addr, readAddr_inFilter inFilter]
  readKeeps addr attached _ other _ := rfl
  writes addr data attached inFilter _ other _ := by
    obtain ⟨sentAddr, sentValue⟩ := writeMessage_addr appendCrc addr data attached.device
    simp only [chipBus, sentAddr, sentValue, writeAddr_inFilter inFilter]
    exact Function.update_apply ..

theorem chipBus_transfersSucceed (appendCrc : Bool) : TransfersSucceed (chipBus appendCrc) where
  reads addr attached _ := ⟨_, by simp only [chipBus, chipAnswer_read]; rfl⟩
  writes addr data attached _ := by
    cases appendCrc with
    | false =>
        obtain ⟨after, returned, -⟩ := adin1110RegWrite_ok addr data succeeded attached.device
        simp only [chipBus, adin1110RegWriteCrc_off, returned]
        rfl
    | true => rfl

def resetChip : Attached := ⟨freshDevice, fun _ => 0⟩

theorem filter_from_reset_chip :
    ∃ after, Shows .adin2111 ([.broadcast true, .clear broadcastAddr].foldl
        (filterStep (chipBus false) .adin2111) resetChip).registers after ∧
      accepted after ⊆ [.broadcast true, .clear broadcastAddr].foldl expectedStep ∅ ∧
      (Throughout (filterStep (chipBus false) .adin2111)
        (fun state event => event.Adds → HasRoom state.registers) resetChip
        [.broadcast true, .clear broadcastAddr] →
          accepted after = [.broadcast true, .clear broadcastAddr].foldl expectedStep ∅) := by
  refine filter_from_reset (chipBus_keepsFilter false) (fun slot _ => rfl) ?_
  decide +kernel

def fullChip : Attached := ⟨freshDevice, fun addr => if addr % 2 = 0 then 0xC001FFFF else 0xFFFFFFFF⟩

theorem set_full_chip :
    (adin1110SetMacAddr (chipBus false) .adin2111 (Vector.replicate 6 2) fullChip).1 = 0 ∧
      Shows .adin2111 (adin1110SetMacAddr (chipBus false) .adin2111 (Vector.replicate 6 2) fullChip).2.registers
        (fun _ => some broadcastAddr) ∧
      (adin1110SetMacAddr (chipBus false) .adin2111 (Vector.replicate 6 2) fullChip).2.registers
        adin1110MacAddrMaskUprReg = addrUpr (Vector.replicate 6 2) ||| forwardFlags .adin2111 ∧
      (adin1110SetMacAddr (chipBus false) .adin2111 (Vector.replicate 6 2) fullChip).2.registers
        adin1110MacAddrMaskLwrReg = addrLwr (Vector.replicate 6 2) := by
  refine set_full (fun _ => some broadcastAddr) (chipBus_keepsFilter false)
    (chipBus_transfersSucceed false) ?_ ?_
  · intro slot inside
    decide +revert +kernel
  · intro slot _
    simp

end SpeFramework.Network
