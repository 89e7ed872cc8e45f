import SpeFramework.Lib.Runs
import SpeFramework.Network.Receive

/-!
Runs of `adin1110if_poll` on whatever the functions it calls answer: what becomes of the buffers
it allocates and of the mutex.
-/

namespace SpeFramework.Network

open Runs

/-- The results of the calls one poll makes, and the frame that `adin1110_read_fifo` left. -/
structure PollAnswers where
  mutexWait : Int
  readRet : Int
  ethBuff : Adin1110EthBuff
  pbufAlloc : Option Bytes
  input : Int8

def pollStep (interface : Interface) (answers : PollAnswers) : Interface :=
  ((adin1110ifPoll (fun _ interface => some ((answers.readRet, answers.ethBuff), interface))
    answers.mutexWait answers.pbufAlloc answers.input interface).map Prod.snd).getD interface

/-- Once the poll returned, the mutex is free and the stack has accepted, or the poll has freed,
each buffer allocated on the way. -/
def PollSettles (interface : Interface) (answers : PollAnswers) : Prop :=
  (pollStep interface answers).mutexHeld = false ∧
    ∀ number, interface.allocated ≤ number → number < (pollStep interface answers).allocated →
      number ∉ (pollStep interface answers).unclaimed

def PollAnswers.HandsOver (answers : PollAnswers) : Prop :=
  answers.mutexWait = osOK ∧ answers.readRet = 0 ∧ 0 < answers.ethBuff.len ∧
    answers.pbufAlloc.isSome = true

structure Idle (interface : Interface) : Prop where
  free : interface.mutexHeld = false
  numbered : ∀ number ∈ interface.unclaimed, number < interface.allocated

theorem pollStep_answered {interface : Interface} {answers : PollAnswers}
    (taken : answers.mutexWait = osOK) :
    pollStep interface answers =
      (adin1110ifDeliver answers.readRet answers.ethBuff answers.pbufAlloc answers.input
        (interface.osMutexTake.setEthRxBuff answers.ethBuff.payload).osMutexRelease).2 := by
  rw [pollStep, taken, poll_answered answers.pbufAlloc answers.input rfl]
  rfl

theorem pollStep_handsOver (interface : Interface) {answers : PollAnswers}
    (handsOver : answers.HandsOver) :
    (pollStep interface answers).mutexHeld = false ∧
      (pollStep interface answers).allocated = interface.allocated + 1 ∧
      (pollStep interface answers).unclaimed =
        if answers.input = 0 then interface.unclaimed
        else interface.allocated :: interface.unclaimed := by
  obtain ⟨taken, received, positive, allocates⟩ := handsOver
  obtain ⟨payload, allocated⟩ := Option.isSome_iff_exists.mp allocates
  rw [pollStep_answered taken, adin1110ifDeliver.eq_def, if_pos ⟨received, positive⟩, allocated]
  simp [fillPbuf_accesses]

theorem pollStep_keeps {interface : Interface} {answers : PollAnswers}
    (idle : interface.mutexHeld = false) (keeps : ¬ answers.HandsOver) :
    (pollStep interface answers).mutexHeld = false ∧
      (pollStep interface answers).allocated = interface.allocated ∧
      (pollStep interface answers).unclaimed = interface.unclaimed := by
  by_cases taken : answers.mutexWait = osOK
  · rw [pollStep_answered taken, adin1110ifDeliver.eq_def]
    split
    · rename_i frame
      have refused : answers.pbufAlloc = none := by
        by_contra granted
        exact keeps ⟨taken, frame.1, frame.2, Option.isSome_iff_ne_none.mpr granted⟩
      simp [refused]
    · simp
  · have unchanged : pollStep interface answers = interface := by
      simp [pollStep, adin1110ifPoll, taken]
    rw [unchanged]
    exact ⟨idle, rfl, rfl⟩

theorem pollSettles_iff {interface : Interface} {answers : PollAnswers} (idle : Idle interface) :
    PollSettles interface answers ↔ (answers.HandsOver → answers.input = 0) := by
  by_cases handsOver : answers.HandsOver
  · obtain ⟨free, allocated, unclaimed⟩ := pollStep_handsOver interface handsOver
    constructor
    · intro ⟨_, settled⟩ _
      by_contra refused
      have leaked := settled interface.allocated (by omega) (by omega)
      rw [unclaimed, if_neg refused] at leaked
      simp at leaked
    · intro accepted
      refine ⟨free, fun number lower _ member => ?_⟩
      rw [unclaimed, if_pos (accepted handsOver)] at member
      have below := idle.numbered number member
      omega
  · obtain ⟨free, allocated, unclaimed⟩ := pollStep_keeps idle.free handsOver
    refine iff_of_true ⟨free, fun number lower upper => ?_⟩ fun taken => absurd taken handsOver
    omega

theorem pollStep_idle {interface : Interface} {answers : PollAnswers} (idle : Idle interface) :
    Idle (pollStep interface answers) := by
  by_cases handsOver : answers.HandsOver
  · obtain ⟨free, allocated, unclaimed⟩ := pollStep_handsOver interface handsOver
    refine ⟨free, fun number member => ?_⟩
    rw [unclaimed] at member
    rw [allocated]
    split at member
    · have below := idle.numbered number member
      omega
    · rcases List.mem_cons.mp member with rfl | earlier
      · omega
      · have below := idle.numbered number earlier
        omega
  · obtain ⟨free, allocated, unclaimed⟩ := pollStep_keeps idle.free handsOver
    refine ⟨free, fun number member => ?_⟩
    rw [unclaimed] at member
    rw [allocated]
    exact idle.numbered number member

theorem polls_settle_iff (adin1110Desc : Option Adin1110Desc) (polls : List PollAnswers) :
    Throughout pollStep PollSettles (.start adin1110Desc) polls ↔
      ∀ answers ∈ polls, answers.HandsOver → answers.input = 0 := by
  rw [← throughout_event_iff pollStep (fun answers => answers.HandsOver → answers.input = 0)
    (.start adin1110Desc) polls]
  have initial : Idle (.start adin1110Desc) := by
    constructor
    · rfl
    · simp [Interface.start]
  exact throughout_congr (fun interface answers (idle : Idle interface) => pollSettles_iff idle)
    (fun interface answers idle _ => pollStep_idle idle) initial polls

/-- A frame that arrives while the mailbox of the stack is full. -/
def mailboxFull : PollAnswers where
  mutexWait := osOK
  readRet := 0
  ethBuff := ⟨60, Vector.replicate _ 0, Vector.replicate _ 0, Vector.replicate _ 0, fun _ => 0⟩
  pbufAlloc := some fun _ => 0
  input := -1

theorem mailboxFull_leaks :
    ¬ Throughout pollStep PollSettles (.start (some configuredDesc)) [mailboxFull] := by
  intro ⟨⟨_, settled⟩, _⟩
  have handsOver : mailboxFull.HandsOver := ⟨rfl, rfl, by decide, rfl⟩
  obtain ⟨-, allocated, unclaimed⟩ := pollStep_handsOver (.start (some configuredDesc)) handsOver
  apply settled 0 (by decide)
  · rw [allocated]
    decide
  · rw [unclaimed]
    decide

end SpeFramework.Network
