import SpeFramework.TermForm.Focus

/-!
`console_input_reader_freertos.h`: what the bytes of one read of the UART come out as. A call
returns one key however many arrived.
-/

namespace SpeFramework.TermForm

abbrev escape : UInt8 := 0x1B

abbrev inputBufferSize : Nat := 10

inductive HalStatus
  | ok
  | timeout
  deriving DecidableEq, Repr

/-- The bytes of a `char` array before its first `'\0'`, wherever that lies. -/
def cString (memory : List UInt8) : List UInt8 := memory.takeWhile (· ≠ 0)

/-- `HAL_UART_Receive` with a time limit: it answers before that if the buffer is full. -/
def halUartReceive (arrived : List UInt8) : HalStatus × List UInt8 :=
  (if inputBufferSize ≤ arrived.length then .ok else .timeout,
    arrived.take inputBufferSize ++ List.replicate (inputBufferSize - arrived.length) 0)

/-- The string, and the bytes echoed. `behind` are those the stack holds after the buffer. -/
def readUart (arrived behind : List UInt8) : List UInt8 × List UInt8 :=
  let (status, inputBuffer) := halUartReceive arrived
  if status = .ok ∨ (status = .timeout ∧ inputBuffer.headD 0 ≠ 0) then
    (cString (inputBuffer ++ behind), inputBuffer.drop 1)
  else ([], [])

/-- The key for a string; a `char` of the target is unsigned. -/
def keyFor (str : List UInt8) : Int :=
  let key := str.headD 0
  if key = escape then
    if str = [escape, 0x5B, 0x41] then arrowUp
    else if str = [escape, 0x5B, 0x42] then arrowDown
    else if str = [escape, 0x5B, 0x43] then arrowRight
    else if str = [escape, 0x5B, 0x44] then arrowLeft
    else 0
  else if key = 0x61 then arrowDown
  else key.toNat

/-- `operator()` -/
def consoleInputReader (arrived behind : List UInt8) : Int := keyFor (readUart arrived behind).1

/-! Keystrokes, and the codes they have as keys. -/

inductive Keystroke
  | character (code : UInt8) (lower : 32 ≤ code) (upper : code ≤ 126)
  | up
  | down
  | right
  | left
  deriving DecidableEq

namespace Keystroke

def bytes : Keystroke → List UInt8
  | character code _ _ => [code]
  | up => [escape, 0x5B, 0x41]
  | down => [escape, 0x5B, 0x42]
  | right => [escape, 0x5B, 0x43]
  | left => [escape, 0x5B, 0x44]

def code : Keystroke → Int
  | character code _ _ => code.toNat
  | up => arrowUp
  | down => arrowDown
  | right => arrowRight
  | left => arrowLeft

end Keystroke

/-- Keystrokes that arrive in one read, and what the stack holds behind its buffer. -/
structure UartRead where
  keys : List Keystroke
  behind : List UInt8

def UartRead.arrived (read : UartRead) : List UInt8 := read.keys.flatMap Keystroke.bytes

def UartRead.delivered (read : UartRead) : List Int :=
  [consoleInputReader read.arrived read.behind].filter (· ≠ 0)

structure UartRead.Fits (read : UartRead) : Prop where
  some : read.keys ≠ []
  few : read.arrived.length ≤ inputBufferSize

def deliveredKeys (reads : List UartRead) : List Int := reads.flatMap UartRead.delivered

def typedKeys (reads : List UartRead) : List Int :=
  reads.flatMap fun read => read.keys.map Keystroke.code

section Parts

variable {α β : Type} {f g : α → List β} {xs : List α}

theorem length_flatMap_le (shorter : ∀ x ∈ xs, (f x).length ≤ (g x).length) :
    (xs.flatMap f).length ≤ (xs.flatMap g).length := by
  induction xs with
  | nil => simp
  | cons x xs ih =>
      have head := shorter x List.mem_cons_self
      have tail := ih fun y member => shorter y (List.mem_cons_of_mem _ member)
      rw [List.flatMap_cons, List.flatMap_cons, List.length_append, List.length_append]
      omega

/-- Where no part of one side is longer than that of the other, only equal parts make equal
wholes. -/
theorem flatMap_eq_iff (shorter : ∀ x ∈ xs, (f x).length ≤ (g x).length) :
    xs.flatMap f = xs.flatMap g ↔ ∀ x ∈ xs, f x = g x := by
  induction xs with
  | nil => simp
  | cons x xs ih =>
      have head := shorter x List.mem_cons_self
      have tail : ∀ y ∈ xs, (f y).length ≤ (g y).length := fun y member =>
        shorter y (List.mem_cons_of_mem _ member)
      have total := length_flatMap_le tail
      rw [List.flatMap_cons, List.flatMap_cons, List.forall_mem_cons, ← ih tail]
      constructor
      · intro same
        have lengths := congrArg List.length same
        rw [List.length_append, List.length_append] at lengths
        exact List.append_inj same (by omega)
      · rintro ⟨first, rest⟩
        rw [first, rest]

end Parts

@[simp] theorem escape_ne_zero : escape ≠ 0 := by decide

namespace Keystroke

theorem bytes_ne_zero (key : Keystroke) : ∀ byte ∈ key.bytes, byte ≠ 0 := by
  cases key with
  | character code lower upper =>
      intro byte member
      rw [bytes, List.mem_singleton] at member
      rw [member]
      rintro rfl
      exact absurd lower (by decide)
  | up => simp [bytes]
  | down => simp [bytes]
  | right => simp [bytes]
  | left => simp [bytes]

theorem bytes_ne_nil (key : Keystroke) : key.bytes ≠ [] := by
  cases key <;> simp [bytes]

theorem bytes_length (key : Keystroke) : key.bytes.length ≤ 3 := by
  cases key <;> simp [bytes]

end Keystroke

/-! The string of a read: the bytes that arrived, and behind a buffer they fill whatever follows. -/

theorem cString_terminated {text : List UInt8} (nonzero : ∀ byte ∈ text, byte ≠ 0)
    (behind : List UInt8) : cString (text ++ 0 :: behind) = text := by
  rw [cString, List.takeWhile_append_of_pos fun byte member => decide_eq_true (nonzero byte member)]
  simp

theorem readUart_short {arrived : List UInt8} (nonzero : ∀ byte ∈ arrived, byte ≠ 0)
    (some : arrived ≠ []) (few : arrived.length < inputBufferSize) (behind : List UInt8) :
    (readUart arrived behind).1 = arrived := by
  obtain ⟨room, left⟩ : ∃ room, inputBufferSize - arrived.length = room + 1 :=
    ⟨inputBufferSize - arrived.length - 1, by omega⟩
  have whole : arrived.take inputBufferSize = arrived := List.take_of_length_le (Nat.le_of_lt few)
  have started : (arrived ++ List.replicate (room + 1) 0).headD 0 ≠ 0 := by
    obtain ⟨first, rest, rfl⟩ := List.exists_cons_of_ne_nil some
    exact nonzero first List.mem_cons_self
  have received : halUartReceive arrived = (.timeout, arrived ++ List.replicate (room + 1) 0) := by
    rw [halUartReceive, if_neg (by omega), whole, left]
  simp only [readUart, received, started, ne_eq, not_false_eq_true, and_self, or_true, if_true]
  rw [List.replicate_succ, List.append_assoc, List.cons_append]
  exact cString_terminated nonzero _

/-! One keystroke comes out as itself, unless it is the letter that stands for a move down. -/

theorem keyFor_bytes (key : Keystroke) :
    keyFor key.bytes = if key.code = 0x61 then arrowDown else key.code := by
  cases key with
  | character code lower upper =>
      have printable : code ≠ escape := by
        rintro rfl
        exact absurd lower (by decide)
      have letter : (code.toNat : Int) = 0x61 ↔ code = 0x61 := by
        rw [← UInt8.toNat_inj]
        exact Int.natCast_inj
      have plain : keyFor [code] = if code = 0x61 then arrowDown else (code.toNat : Int) :=
        if_neg printable
      by_cases isLetter : code = 0x61
      · rw [Keystroke.bytes, Keystroke.code, plain, if_pos isLetter, if_pos (letter.mpr isLetter)]
      · rw [Keystroke.bytes, Keystroke.code, plain, if_neg isLetter,
          if_neg fun same => isLetter (letter.mp same)]
  | up => rfl
  | down => rfl
  | right => rfl
  | left => rfl

theorem consoleInputReader_single (key : Keystroke) (behind : List UInt8) :
    consoleInputReader key.bytes behind = if key.code = 0x61 then arrowDown else key.code := by
  have short : key.bytes.length < inputBufferSize := Nat.lt_of_le_of_lt key.bytes_length (by decide)
  rw [consoleInputReader, readUart_short key.bytes_ne_zero key.bytes_ne_nil short, keyFor_bytes]

theorem Keystroke.code_ne_zero (key : Keystroke) : key.code ≠ 0 := by
  cases key with
  | character code lower upper =>
      have positive : 32 ≤ code.toNat := UInt8.le_iff_toNat_le.mp lower
      simp only [Keystroke.code]
      omega
  | up => decide
  | down => decide
  | right => decide
  | left => decide

theorem UartRead.delivered_length (read : UartRead) : read.delivered.length ≤ 1 :=
  List.length_filter_le _ _

theorem delivered_eq_iff (read : UartRead) (some : read.keys ≠ []) :
    read.delivered = read.keys.map Keystroke.code ↔
      ∃ key, read.keys = [key] ∧ key.code ≠ 0x61 := by
  obtain ⟨key, rest, keys⟩ := List.exists_cons_of_ne_nil some
  cases rest with
  | nil =>
      have arrived : read.arrived = key.bytes := by simp [UartRead.arrived, keys]
      rw [UartRead.delivered, arrived, consoleInputReader_single, keys]
      by_cases letter : key.code = 0x61
      · have kept : [arrowDown].filter (· ≠ 0) = [arrowDown] := by decide
        have moved : arrowDown ≠ 0x61 := by decide
        rw [if_pos letter, kept]
        refine iff_of_false (fun same => moved ?_) ?_
        · rw [← letter]
          exact List.head_eq_of_cons_eq same
        · rintro ⟨other, same, different⟩
          rw [← List.head_eq_of_cons_eq same] at different
          exact different letter
      · rw [if_neg letter]
        simp [letter, key.code_ne_zero]
  | cons next rest =>
      refine iff_of_false (fun same => ?_) ?_
      · have lengths := congrArg List.length same
        have one := read.delivered_length
        rw [keys] at lengths
        simp at lengths
        omega
      · rintro ⟨_, single, _⟩
        rw [keys] at single
        cases single

theorem keystrokes_delivered_iff (reads : List UartRead) (fits : ∀ read ∈ reads, read.Fits) :
    deliveredKeys reads = typedKeys reads ↔
      ∀ read ∈ reads, ∃ key, read.keys = [key] ∧ key.code ≠ 0x61 := by
  have shorter : ∀ read ∈ reads,
      read.delivered.length ≤ (read.keys.map Keystroke.code).length := by
    intro read member
    have some := List.length_pos_iff.mpr (fits read member).some
    have one := read.delivered_length
    rw [List.length_map]
    omega
  rw [deliveredKeys, typedKeys, flatMap_eq_iff shorter]
  constructor
  · intro same read member
    exact (delivered_eq_iff read (fits read member).some).mp (same read member)
  · intro single read member
    exact (delivered_eq_iff read (fits read member).some).mpr (single read member)

/-! Two letters in two reads, and the same two in one. -/

def letterH : Keystroke := .character 0x68 (by decide) (by decide)

def letterI : Keystroke := .character 0x69 (by decide) (by decide)

theorem apart_delivered : deliveredKeys [⟨[letterH], []⟩, ⟨[letterI], []⟩] =
    typedKeys [⟨[letterH], []⟩, ⟨[letterI], []⟩] := by
  refine (keystrokes_delivered_iff _ ?_).mpr ?_
  · intro read member
    rcases List.mem_pair.mp member with rfl | rfl
    · exact ⟨by decide, by decide⟩
    · exact ⟨by decide, by decide⟩
  · intro read member
    rcases List.mem_pair.mp member with rfl | rfl
    · exact ⟨letterH, rfl, by decide⟩
    · exact ⟨letterI, rfl, by decide⟩

theorem together_lost :
    (⟨[letterH, letterI], []⟩ : UartRead).Fits ∧
      deliveredKeys [⟨[letterH, letterI], []⟩] ≠ typedKeys [⟨[letterH, letterI], []⟩] := by
  constructor
  · exact ⟨by decide, by decide⟩
  · decide

end SpeFramework.TermForm
