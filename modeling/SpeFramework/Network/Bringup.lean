import SpeFramework.Lib.Runs
import SpeFramework.Network.DriverCases
import SpeFramework.Network.Identity

/-!
Runs of the interface from either end of `adin1110if_setup` on: which calls reach the driver
through `NULL`.
-/

namespace SpeFramework.Network

open Runs

/-- The call has a defined result, and reports an error without any transfer if there is no
device. -/
def Guarded (interface : Interface) (event : InterfaceEvent) : Prop :=
  ∃ ret after, interfaceCall event interface = some (ret, after) ∧
    (interface.adin1110Desc = none → ret ≠ 0 ∧ after.transfers = interface.transfers)

/-- The event calls a driver function without a check of `adin1110_desc`. -/
def InterfaceEvent.Unguarded : InterfaceEvent → Prop
  | .initCompletes _ _ => True
  | .poll mutexWait _ _ _ _ => mutexWait = osOK
  | .output _ _ _ _ _ => False

theorem callDriver_present {ρ : Type} {interface : Interface} {desc : Adin1110Desc}
    (present : interface.adin1110Desc = some desc) (function : Device → ρ × Device) :
    ∃ result after, interface.callDriver function = some (result, after) ∧
      after.adin1110Desc.isNone = false := by
  rw [Interface.callDriver, present]
  exact ⟨_, _, rfl, rfl⟩

theorem callDriver_absent {ρ : Type} {interface : Interface}
    (absent : interface.adin1110Desc = none) (function : Device → ρ × Device) :
    interface.callDriver function = none := by
  rw [Interface.callDriver, absent]

theorem pollReadFifo_present {interface : Interface} {desc : Adin1110Desc}
    (present : interface.adin1110Desc = some desc) (fsizeAnswer burstAnswer : SpiAnswer)
    (ethBuff : Adin1110EthBuff) :
    ∃ readRet received after,
      pollReadFifo fsizeAnswer burstAnswer ethBuff interface = some ((readRet, received), after) := by
  rw [pollReadFifo, Interface.callDriver, present]
  exact ⟨_, _, _, rfl⟩

theorem call_present {interface : Interface} {desc : Adin1110Desc}
    (present : interface.adin1110Desc = some desc) (event : InterfaceEvent) :
    ∃ ret after, interfaceCall event interface = some (ret, after) := by
  cases event with
  | initCompletes readAnswer writeAnswer =>
      obtain ⟨promisc, after, called, kept⟩ := callDriver_present present
        (adin1110SetPromisc 0 true readAnswer writeAnswer)
      refine ⟨0, after, ?_⟩
      simp [interfaceCall, adin1110ifInitRest, called, kept]
  | poll mutexWait fsizeAnswer burstAnswer pbufAlloc input =>
      by_cases taken : mutexWait = osOK
      · subst taken
        have held : interface.osMutexTake.adin1110Desc = some desc := present
        obtain ⟨readRet, ethBuff, between, called⟩ :=
          pollReadFifo_present held fsizeAnswer burstAnswer (pollBuff interface)
        exact ⟨_, _, poll_answered pbufAlloc input called⟩
      · refine ⟨1, interface, ?_⟩
        simp only [interfaceCall, adin1110ifPoll, if_neg taken]
  | output p mutexWait spaceAnswer fsizeAnswer burstAnswer =>
      by_cases taken : mutexWait = osOK
      · obtain ⟨ret, between, called, -⟩ := callDriver_present
          (show interface.osMutexTake.adin1110Desc = some desc from present)
          (adin1110WriteFifo 0 (outputEthBuff desc p) spaceAnswer fsizeAnswer burstAnswer)
        refine ⟨Int8.ofInt ret, between.osMutexRelease, ?_⟩
        simp only [interfaceCall, adin1110ifLinkOutput, present, if_pos taken, called]
      · refine ⟨1, interface, ?_⟩
        simp only [interfaceCall, adin1110ifLinkOutput, present, if_neg taken]

theorem guarded_iff (interface : Interface) (event : InterfaceEvent) :
    Guarded interface event ↔ interface.adin1110Desc ≠ none ∨ ¬ event.Unguarded := by
  cases present : interface.adin1110Desc with
  | some desc =>
      obtain ⟨ret, after, called⟩ := call_present present event
      refine iff_of_true ⟨ret, after, called, ?_⟩ (.inl (by simp))
      simp [present]
  | none =>
      rw [or_iff_right (by simp)]
      cases event with
      | initCompletes readAnswer writeAnswer =>
          refine iff_of_false ?_ (fun guarded => guarded trivial)
          rintro ⟨ret, after, called, -⟩
          simp [interfaceCall, adin1110ifInitRest, callDriver_absent present] at called
      | poll mutexWait fsizeAnswer burstAnswer pbufAlloc input =>
          by_cases taken : mutexWait = osOK
          · refine iff_of_false ?_ (fun guarded => guarded taken)
            rintro ⟨ret, after, called, -⟩
            have absent : interface.osMutexTake.adin1110Desc = none := present
            simp [interfaceCall, adin1110ifPoll, taken, pollReadFifo, callDriver_absent absent] at called
          · refine iff_of_true ⟨1, interface, ?_, fun _ => ⟨by decide, rfl⟩⟩ taken
            simp only [interfaceCall, adin1110ifPoll, if_neg taken]
      | output p mutexWait spaceAnswer fsizeAnswer burstAnswer =>
          refine iff_of_true ⟨-1, interface, ?_, fun _ => ⟨by decide, rfl⟩⟩ (fun reached => reached)
          simp only [interfaceCall, adin1110ifLinkOutput, present]

theorem init_completes (ret : Int) (descriptor : Adin1110Desc) (readAnswer writeAnswer : SpiAnswer) :
    adin1110ifInit ret descriptor readAnswer writeAnswer (.start none) =
      interfaceCall (.initCompletes readAnswer writeAnswer)
        (.start (adin1110ifSetup ret descriptor)) := rfl

theorem bringup_guarded_iff (ret : Int) (descriptor : Adin1110Desc) (events : List InterfaceEvent) :
    Throughout interfaceStep Guarded (.start (adin1110ifSetup ret descriptor)) events ↔
      ret = 0 ∨ ∀ event ∈ events, ¬ event.Unguarded := by
  have initial : (Interface.start (adin1110ifSetup ret descriptor)).adin1110Desc ≠ none ↔ ret = 0 := by
    simp [Interface.start, adin1110ifSetup]
  have same (interface : Interface) (event : InterfaceEvent)
      (started : interface.adin1110Desc ≠ none ↔ ret = 0) :
      Guarded interface event ↔ ret = 0 ∨ ¬ event.Unguarded := by
    rw [guarded_iff, started]
  have keeps (interface : Interface) (event : InterfaceEvent)
      (started : interface.adin1110Desc ≠ none ↔ ret = 0) (_ : ret = 0 ∨ ¬ event.Unguarded) :
      (interfaceStep interface event).adin1110Desc ≠ none ↔ ret = 0 := by
    have kept := interfaceStep_identity interface event
    rw [← started, ne_eq, ne_eq, not_iff_not, ← identity_none_iff, kept, identity_none_iff]
  rw [throughout_congr same keeps initial,
    throughout_event_iff interfaceStep (fun event => ret = 0 ∨ ¬ event.Unguarded)]
  by_cases succeeded : ret = 0
  · simp [succeeded]
  · simp [succeeded]

/-- The SPI bus is not there: `adin1110_init` fails, and `adin1110if_init` goes on. -/
theorem failedInit_unguarded :
    ¬ Throughout interfaceStep Guarded (.start (adin1110ifSetup (-22) configuredDesc))
      [.initCompletes succeeded succeeded] := by
  intro ⟨⟨ret, after, called, _⟩, _⟩
  have absent : (Interface.start (adin1110ifSetup (-22) configuredDesc)).adin1110Desc = none := rfl
  simp [interfaceCall, adin1110ifInitRest, callDriver_absent absent] at called

end SpeFramework.Network
