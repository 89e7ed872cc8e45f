import SpeFramework.Modbus.ClientTasks

/-!
Every call a connection task makes uses the socket of its own client, in each run whose
tasks write `socket = 0` only into a slot that holds no newer client's socket.
-/

namespace SpeFramework

open Runs ModbusTCPClient

variable {κ : Type}

def AcceptPc.claimed : AcceptPc → Option Nat
  | .setSocket _ slot | .setTimeStart _ slot | .setModbusCallbacks _ slot | .createTask _ slot =>
      some slot
  | _ => none

/-- The slot and socket the accept loop has stored for a client without a task yet. -/
def AcceptPc.stored : AcceptPc → Option (Nat × Int)
  | .setTimeStart clientSock slot | .setModbusCallbacks clientSock slot
  | .createTask clientSock slot => some (slot, clientSock)
  | _ => none

def FewerLiveAtAccept (maxClients : UInt8) (system : System κ) : Action → Prop
  | .acceptLoop clientSock _ => system.acceptLoop = .accept → 0 ≤ clientSock →
      (heldSlots system.tasks).length < maxClients.toNat
  | .task _ _ _ _ => True

/-- The slot holds the socket of a client that is served or about to be. -/
def System.inUse (system : System κ) (slot : Nat) : Prop :=
  slot ∈ heldSlots system.tasks ∨ system.acceptLoop.stored.map Prod.fst = some slot

/-- A step that sets `socket` to 0 finds its slot not in use again. -/
def ClearsUnusedSocket (system : System κ) : Action → Prop
  | .acceptLoop _ _ => True
  | .task index _ _ _ => ∀ task ∈ system.tasks[index]?,
      task.pc = .clearSocket → ¬ system.inUse task.slot

instance (system : System κ) (slot : Nat) : Decidable (system.inUse slot) :=
  inferInstanceAs (Decidable (_ ∨ _))

instance (maxClients : UInt8) (system : System κ) :
    ∀ action, Decidable (FewerLiveAtAccept maxClients system action)
  | .acceptLoop _ _ => inferInstanceAs (Decidable (_ → _))
  | .task _ _ _ _ => isTrue trivial

instance (system : System κ) : ∀ action, Decidable (ClearsUnusedSocket system action)
  | .acceptLoop _ _ => isTrue trivial
  | .task index _ _ _ => inferInstanceAs (Decidable (∀ task ∈ system.tasks[index]?, _))

structure OwnsSocket (clients : ClientTable κ) (task : ConnectionTask) : Prop where
  connected : task.pc.holds → (clients task.slot).connected ≠ 0
  socket : task.pc.holds → (clients task.slot).socket = task.accepted
  argument : ∀ clientSocket, task.pc = .respond clientSocket → clientSocket = task.accepted

structure SlotsInOrder (maxClients : UInt8) (system : System κ) : Prop where
  owns : ∀ task ∈ system.tasks, OwnsSocket system.clients task
  nodup : (heldSlots system.tasks).Nodup
  covered : ∀ slot < maxClients.toNat, (system.clients slot).connected ≠ 0 →
    slot ∈ heldSlots system.tasks ∨ system.acceptLoop.claimed = some slot
  claimed : ∀ slot, system.acceptLoop.claimed = some slot →
    (system.clients slot).connected ≠ 0 ∧ slot ∉ heldSlots system.tasks
  stored : ∀ slot clientSock, system.acceptLoop.stored = some (slot, clientSock) →
    (system.clients slot).socket = clientSock
  searching : ∀ clientSock i, system.acceptLoop = .search clientSock i →
    ∃ slot, i ≤ slot ∧ slot < maxClients.toNat ∧ (system.clients slot).connected = 0
  found : ∀ clientSock slot, system.acceptLoop = .setConnected clientSock slot →
    (system.clients slot).connected = 0
  uses : ∀ use ∈ system.uses, use.socket = use.accepted

theorem OwnsSocket.of_same {clients later : ClientTable κ} {task : ConnectionTask}
    (owns : OwnsSocket clients task)
    (same : task.pc.holds → later task.slot = clients task.slot) : OwnsSocket later task := by
  constructor
  · exact fun holds => same holds ▸ owns.connected holds
  · exact fun holds => same holds ▸ owns.socket holds
  · exact owns.argument

theorem owns_modify {clients : ClientTable κ} {tasks : List ConnectionTask} {slot : Nat}
    (change : ModbusTCPClient κ → ModbusTCPClient κ)
    (owns : ∀ task ∈ tasks, OwnsSocket clients task) (unheld : slot ∉ heldSlots tasks) :
    ∀ task ∈ tasks, OwnsSocket (clients.modify slot change) task := by
  intro task member
  apply (owns task member).of_same
  intro holds
  apply modify_elsewhere
  intro same
  exact unheld (same ▸ mem_heldSlots member holds)

theorem unheld_of_free {system : System κ} {slot : Nat}
    (owns : ∀ task ∈ system.tasks, OwnsSocket system.clients task)
    (free : (system.clients slot).connected = 0) : slot ∉ heldSlots system.tasks := by
  intro held
  obtain ⟨task, member, rfl⟩ := List.mem_map.mp held
  obtain ⟨member, holds⟩ := List.mem_filter.mp member
  exact (owns task member).connected holds free

theorem modify_connected (clients : ClientTable κ) (slot other : Nat)
    (change : ModbusTCPClient κ → ModbusTCPClient κ)
    (keeps : ∀ client, (change client).connected = client.connected) :
    (clients.modify slot change other).connected = (clients other).connected := by
  by_cases same : other = slot
  · rw [same, modify_here, keeps]
  · rw [modify_elsewhere clients change same]

theorem modify_socket (clients : ClientTable κ) (slot other : Nat)
    (change : ModbusTCPClient κ → ModbusTCPClient κ)
    (keeps : ∀ client, (change client).socket = client.socket) :
    (clients.modify slot change other).socket = (clients other).socket := by
  by_cases same : other = slot
  · rw [same, modify_here, keeps]
  · rw [modify_elsewhere clients change same]

/-! The accept loop. -/

theorem slotFound_index (clientSock : Int) {i : Nat} (small : i < 256) :
    slotFound clientSock (Int16.ofNat i) = .setConnected clientSock i := by
  have value : (Int16.ofNat i).toUInt16.toNat = i := by
    simp
    omega
  rw [slotFound_eq, value]

theorem stored_claimed {loop : AcceptPc} {slot : Nat} {clientSock : Int}
    (stored : loop.stored = some (slot, clientSock)) : loop.claimed = some slot := by
  cases loop <;> simp_all [AcceptPc.stored, AcceptPc.claimed]

variable {maxClients : UInt8} {system : System κ}

theorem SlotsInOrder.covers (order : SlotsInOrder maxClients system)
    (unclaimed : system.acceptLoop.claimed = none) {slot : Nat} (bound : slot < maxClients.toNat)
    (connected : (system.clients slot).connected ≠ 0) : slot ∈ heldSlots system.tasks := by
  simpa [unclaimed] using order.covered slot bound connected

theorem slotsInOrder_goTo (order : SlotsInOrder maxClients system)
    (unclaimed : system.acceptLoop.claimed = none) {next : AcceptPc} (later : next.claimed = none)
    (searching : ∀ clientSock i, next = .search clientSock i →
      ∃ slot, i ≤ slot ∧ slot < maxClients.toNat ∧ (system.clients slot).connected = 0)
    (found : ∀ clientSock slot, next = .setConnected clientSock slot →
      (system.clients slot).connected = 0) :
    SlotsInOrder maxClients (system.goTo next) where
  owns := order.owns
  nodup := order.nodup
  covered := fun _ bound connected => .inl (order.covers unclaimed bound connected)
  claimed := by simp [System.goTo, later]
  stored := by
    intro slot clientSock stored
    exact absurd (stored_claimed stored) (by simp [System.goTo, later])
  searching := searching
  found := found
  uses := order.uses

theorem slotsInOrder_accepted (order : SlotsInOrder maxClients system) (clientSock : Int)
    (here : system.acceptLoop = .accept)
    (fewer : (heldSlots system.tasks).length < maxClients.toNat) :
    SlotsInOrder maxClients (system.goTo (.search clientSock 0)) := by
  have unclaimed : system.acceptLoop.claimed = none := by simp [here, AcceptPc.claimed]
  obtain ⟨free, bound, unconnected⟩ := freeSlot_of_length_lt system.clients maxClients _
    (fun _ => order.covers unclaimed) fewer
  apply slotsInOrder_goTo order unclaimed rfl
  · intro _ i same
    obtain ⟨-, rfl⟩ := AcceptPc.search.inj same
    exact ⟨free, Nat.zero_le free, bound, unconnected⟩
  · intro _ slot same
    cases same

theorem slotsInOrder_stopped (order : SlotsInOrder maxClients system)
    (unclaimed : system.acceptLoop.claimed = none) (clientSock : Int) {slot : Nat}
    (free : (system.clients slot).connected = 0) :
    SlotsInOrder maxClients (system.goTo (.setConnected clientSock slot)) := by
  apply slotsInOrder_goTo order unclaimed rfl
  · intro _ _ same
    cases same
  · intro _ found same
    obtain ⟨-, rfl⟩ := AcceptPc.setConnected.inj same
    exact free

theorem slotsInOrder_search (order : SlotsInOrder maxClients system) {clientSock : Int} {i : Nat}
    (here : system.acceptLoop = .search clientSock i) (callbacks : κ) (result tickCount : Int) :
    SlotsInOrder maxClients (acceptLoopStep maxClients callbacks result tickCount system) := by
  have unclaimed : system.acceptLoop.claimed = none := by simp [here, AcceptPc.claimed]
  obtain ⟨free, reached, bound, unconnected⟩ := order.searching clientSock i here
  have small := maxClients.toNat_lt
  have below : i < maxClients.toNat := by omega
  by_cases stops : (system.clients i).connected = 0
  · simp only [acceptLoopStep, here, if_pos below, if_pos stops,
      slotFound_index clientSock (by omega : i < 256)]
    exact slotsInOrder_stopped order unclaimed clientSock stops
  · simp only [acceptLoopStep, here, if_pos below, if_neg stops]
    have passed : free ≠ i := fun same => stops (same ▸ unconnected)
    apply slotsInOrder_goTo order unclaimed rfl
    · intro _ next same
      obtain ⟨-, rfl⟩ := AcceptPc.search.inj same
      exact ⟨free, by omega, bound, unconnected⟩
    · intro _ slot same
      cases same

theorem slotsInOrder_setConnected (order : SlotsInOrder maxClients system) {clientSock : Int}
    {slot : Nat} (here : system.acceptLoop = .setConnected clientSock slot) :
    SlotsInOrder maxClients
      ((system.change slot (setConnected 1)).goTo (.setSocket clientSock slot)) := by
  have unclaimed : system.acceptLoop.claimed = none := by simp [here, AcceptPc.claimed]
  have unheld := unheld_of_free order.owns (order.found clientSock slot here)
  constructor
  case owns => exact owns_modify _ order.owns unheld
  case nodup => exact order.nodup
  case covered =>
    intro other bound connected
    by_cases same : other = slot
    · exact .inr (same ▸ rfl)
    · left
      apply order.covers unclaimed bound
      simpa [System.goTo, System.change, same] using connected
  case claimed =>
    intro other claimed
    obtain rfl : slot = other := Option.some.inj claimed
    exact ⟨by simp [System.goTo, System.change], unheld⟩
  case stored => simp [System.goTo, AcceptPc.stored]
  case searching => simp [System.goTo]
  case found => simp [System.goTo]
  case uses => exact order.uses

theorem slotsInOrder_store (order : SlotsInOrder maxClients system) {clientSock : Int}
    {slot : Nat} (here : system.acceptLoop.claimed = some slot) {next : AcceptPc}
    (claims : next.claimed = some slot) (stores : next.stored = some (slot, clientSock))
    {change : ModbusTCPClient κ → ModbusTCPClient κ}
    (keeps : ∀ client, (change client).connected = client.connected)
    (holds : (change (system.clients slot)).socket = clientSock) :
    SlotsInOrder maxClients ((system.change slot change).goTo next) := by
  obtain ⟨connected, unheld⟩ := order.claimed slot here
  have flags (other : Nat) : (((system.change slot change).goTo next).clients other).connected =
      (system.clients other).connected := modify_connected system.clients slot other change keeps
  constructor
  case owns => exact owns_modify _ order.owns unheld
  case nodup => exact order.nodup
  case covered =>
    intro other bound connected
    rw [flags] at connected
    simpa [System.goTo, System.change, claims, here] using order.covered other bound connected
  case claimed =>
    intro other claimed
    obtain rfl : slot = other := Option.some.inj (claims.symm.trans claimed)
    exact ⟨by rwa [flags], unheld⟩
  case stored =>
    intro other socket stored
    obtain ⟨rfl, rfl⟩ : slot = other ∧ clientSock = socket := by
      simpa using stores.symm.trans stored
    simpa [System.goTo, System.change] using holds
  case searching =>
    intro _ _ same
    simp [show next = _ from same, AcceptPc.claimed] at claims
  case found =>
    intro _ _ same
    simp [show next = _ from same, AcceptPc.claimed] at claims
  case uses => exact order.uses

theorem slotsInOrder_createTask (order : SlotsInOrder maxClients system) {clientSock : Int}
    {slot : Nat} (here : system.acceptLoop = .createTask clientSock slot) :
    SlotsInOrder maxClients { system with
      acceptLoop := .accept
      tasks := system.tasks ++ [⟨slot, clientSock, .receive 0⟩] } := by
  have claims : system.acceptLoop.claimed = some slot := by simp [here, AcceptPc.claimed]
  obtain ⟨connected, unheld⟩ := order.claimed slot claims
  have socket := order.stored slot clientSock (by simp [here, AcceptPc.stored])
  constructor
  case owns =>
    intro task member
    rcases List.mem_append.mp member with member | member
    · exact order.owns task member
    · obtain rfl := List.mem_singleton.mp member
      exact ⟨fun _ => connected, fun _ => socket, by simp⟩
  case nodup =>
    simp only [heldSlots_append, heldSlots_cons, heldSlots_nil, TaskPc.holds, if_true]
    rw [List.append_nil, ← List.concat_eq_append]
    exact List.Nodup.concat unheld order.nodup
  case covered =>
    intro other bound connected
    left
    have := order.covered other bound connected
    simp only [claims, Option.some.injEq] at this
    simpa [TaskPc.holds, eq_comm] using this
  case claimed => simp [AcceptPc.claimed]
  case stored => simp [AcceptPc.stored]
  case searching => simp
  case found => simp
  case uses => exact order.uses

theorem slotsInOrder_use (order : SlotsInOrder maxClients system) (operation : SocketOperation)
    {accepted socket : Int} (own : socket = accepted) :
    SlotsInOrder maxClients (system.use operation accepted socket) where
  owns := order.owns
  nodup := order.nodup
  covered := order.covered
  claimed := order.claimed
  stored := order.stored
  searching := order.searching
  found := order.found
  uses := by
    intro use member
    rcases List.mem_append.mp member with member | member
    · exact order.uses use member
    · exact List.mem_singleton.mp member ▸ own

theorem slotsInOrder_acceptLoop (order : SlotsInOrder maxClients system) (callbacks : κ)
    (clientSock tickCount : Int)
    (fewer : FewerLiveAtAccept maxClients system (.acceptLoop clientSock tickCount)) :
    SlotsInOrder maxClients (acceptLoopStep maxClients callbacks clientSock tickCount system) := by
  cases here : system.acceptLoop with
  | accept =>
      simp only [acceptLoopStep, here]
      by_cases failed : clientSock < 0
      · rw [if_pos failed]
        exact slotsInOrder_use order _ rfl
      · rw [if_neg failed]
        exact slotsInOrder_accepted order clientSock here (fewer here (Int.not_lt.mp failed))
  | search clientSock i => exact slotsInOrder_search order here callbacks _ tickCount
  | setConnected clientSock slot =>
      simp only [acceptLoopStep, here]
      exact slotsInOrder_setConnected order here
  | setSocket clientSock slot =>
      simp only [acceptLoopStep, here]
      exact slotsInOrder_store order (by rw [here]; rfl) rfl rfl (fun _ => rfl) rfl
  | setTimeStart clientSock slot =>
      simp only [acceptLoopStep, here]
      exact slotsInOrder_store order (by rw [here]; rfl) rfl rfl (fun _ => rfl)
        (order.stored slot clientSock (by rw [here]; rfl))
  | setModbusCallbacks clientSock slot =>
      simp only [acceptLoopStep, here]
      exact slotsInOrder_store order (by rw [here]; rfl) rfl rfl (fun _ => rfl)
        (order.stored slot clientSock (by rw [here]; rfl))
  | createTask clientSock slot =>
      simp only [acceptLoopStep, here]
      exact slotsInOrder_createTask order here
  | refuse clientSock =>
      simp only [acceptLoopStep, here]
      have closed := slotsInOrder_use order .close (Eq.refl clientSock)
      refine slotsInOrder_goTo closed (by simp [System.use, here, AcceptPc.claimed]) rfl ?_ ?_
      · intro _ _ same
        cases same
      · intro _ _ same
        cases same

/-! The tasks. -/

theorem putTask_split {tasks : List ConnectionTask} {index : Nat} {task : ConnectionTask}
    (there : tasks[index]? = some task) : ∃ before after, tasks = before ++ task :: after ∧
      before.length = index ∧ ∀ next, tasks.set index next = before ++ next :: after := by
  obtain ⟨bound, rfl⟩ := List.getElem?_eq_some_iff.mp there
  refine ⟨tasks.take index, tasks.drop (index + 1), ?_, ?_, fun next => ?_⟩
  · rw [List.getElem_cons_drop, List.take_append_drop]
  · exact List.length_take_of_le (Nat.le_of_lt bound)
  · rw [List.set_eq_take_append_cons_drop, if_pos bound]

variable {index : Nat} {task : ConnectionTask}

theorem heldSlots_putTask (there : system.tasks[index]? = some task) {pc : TaskPc}
    (holds : pc.holds = task.pc.holds) :
    heldSlots (system.putTask index { task with pc }).tasks = heldSlots system.tasks := by
  obtain ⟨before, after, split, -, replaced⟩ := putTask_split there
  simp only [System.putTask, replaced]
  simp only [split, heldSlots_append, heldSlots_cons, holds]

theorem slotsInOrder_move (order : SlotsInOrder maxClients system)
    (there : system.tasks[index]? = some task) (pc : TaskPc)
    (holds : pc.holds = task.pc.holds)
    (argument : ∀ clientSocket, pc = .respond clientSocket → clientSocket = task.accepted) :
    SlotsInOrder maxClients (system.putTask index { task with pc }) := by
  have slots := heldSlots_putTask there holds
  constructor
  case owns =>
    intro other member
    rcases List.mem_or_eq_of_mem_set member with member | rfl
    · exact order.owns other member
    · have owns := order.owns task (List.mem_of_getElem? there)
      exact ⟨fun held => owns.connected (holds ▸ held), fun held => owns.socket (holds ▸ held), argument⟩
  case nodup => exact slots ▸ order.nodup
  case covered => exact slots ▸ order.covered
  case claimed => exact slots ▸ order.claimed
  case stored => exact order.stored
  case searching => exact order.searching
  case found => exact order.found
  case uses => exact order.uses

theorem slotsInOrder_change (order : SlotsInOrder maxClients system) {slot : Nat}
    {change : ModbusTCPClient κ → ModbusTCPClient κ}
    (connected : ∀ client, (change client).connected = client.connected)
    (socket : system.inUse slot → ∀ client, (change client).socket = client.socket) :
    SlotsInOrder maxClients (system.change slot change) := by
  have flags (other : Nat) : ((system.change slot change).clients other).connected =
      (system.clients other).connected := modify_connected system.clients slot other change connected
  have sockets {other : Nat} (used : system.inUse other) :
      ((system.change slot change).clients other).socket = (system.clients other).socket := by
    by_cases same : other = slot
    · exact modify_socket system.clients slot other change (socket (same ▸ used))
    · simp [System.change, same]
  constructor
  case owns =>
    intro task member
    have owns := order.owns task member
    refine ⟨fun holds => ?_, fun holds => ?_, owns.argument⟩
    · rw [flags]
      exact owns.connected holds
    · rw [sockets (.inl (mem_heldSlots member holds))]
      exact owns.socket holds
  case nodup => exact order.nodup
  case covered =>
    intro other bound flag
    rw [flags] at flag
    exact order.covered other bound flag
  case claimed =>
    intro other claimed
    rw [flags]
    exact order.claimed other claimed
  case stored =>
    intro other clientSock stored
    have used : system.inUse other := .inr (by rw [show system.acceptLoop.stored = _ from stored]; rfl)
    rw [sockets used]
    exact order.stored other clientSock stored
  case searching =>
    intro clientSock i here
    obtain ⟨free, reached, bound, unconnected⟩ := order.searching clientSock i here
    exact ⟨free, reached, bound, by rwa [flags]⟩
  case found =>
    intro clientSock other here
    rw [flags]
    exact order.found clientSock other here
  case uses => exact order.uses

theorem slotsInOrder_clearConnected (order : SlotsInOrder maxClients system)
    (there : system.tasks[index]? = some task) (here : task.pc = .clearConnected) :
    SlotsInOrder maxClients ((system.putTask index { task with pc := .clearSocket }).change task.slot
      (setConnected 0)) := by
  obtain ⟨before, after, split, -, replaced⟩ := putTask_split there
  have holds : task.pc.holds = true := by simp [here, TaskPc.holds]
  have slots : heldSlots system.tasks = heldSlots before ++ task.slot :: heldSlots after := by
    simp [split, holds]
  have left : heldSlots (system.tasks.set index { task with pc := .clearSocket }) =
      heldSlots before ++ heldSlots after := by
    simp [replaced, TaskPc.holds]
  have apart : task.slot ∉ heldSlots before ++ heldSlots after :=
    (List.nodup_cons.mp (List.nodup_middle.mp (slots ▸ order.nodup))).1
  have kept {other : Nat} (member : other ∈ heldSlots system.tasks) (different : other ≠ task.slot) :
      other ∈ heldSlots before ++ heldSlots after := by
    simp only [slots, List.mem_append, List.mem_cons, different, false_or] at member
    exact List.mem_append.mpr member
  have remain {other : Nat} (member : other ∈ heldSlots before ++ heldSlots after) :
      other ∈ heldSlots system.tasks := by
    rw [slots, List.mem_append, List.mem_cons]
    exact (List.mem_append.mp member).imp_right .inr
  have unconnected {other : Nat} (free : (system.clients other).connected = 0) :
      (system.clients.modify task.slot (setConnected 0) other).connected = 0 := by
    by_cases same : other = task.slot
    · simp [same]
    · simpa [same] using free
  constructor
  case owns =>
    apply owns_modify
    · intro other member
      rcases List.mem_or_eq_of_mem_set member with member | rfl
      · exact order.owns other member
      · exact ⟨by simp [TaskPc.holds], by simp [TaskPc.holds], by simp⟩
    · exact left ▸ apart
  case nodup =>
    have nodup := (List.nodup_cons.mp (List.nodup_middle.mp (slots ▸ order.nodup))).2
    exact left ▸ nodup
  case covered =>
    intro other bound connected
    by_cases same : other = task.slot
    · simp [System.change, same] at connected
    · have flag : (system.clients other).connected ≠ 0 := by
        simpa [System.change, System.putTask, same] using connected
      exact (order.covered other bound flag).imp_left fun member => left ▸ kept member same
  case claimed =>
    intro other claimed
    obtain ⟨connected, unheld⟩ := order.claimed other claimed
    have different : other ≠ task.slot := by
      rintro rfl
      exact unheld (mem_heldSlots (List.mem_of_getElem? there) holds)
    exact ⟨by simpa [System.change, System.putTask, different] using connected,
      left ▸ fun member => unheld (remain member)⟩
  case stored =>
    intro other clientSock stored
    have socket := modify_socket system.clients task.slot other (setConnected 0) fun _ => rfl
    exact socket.trans (order.stored other clientSock stored)
  case searching =>
    intro clientSock i searching
    obtain ⟨free, reached, bound, flag⟩ := order.searching clientSock i searching
    exact ⟨free, reached, bound, unconnected flag⟩
  case found => exact fun clientSock other found => unconnected (order.found clientSock other found)
  case uses => exact order.uses

theorem slotsInOrder_task (order : SlotsInOrder maxClients system) (index : Nat)
    (bytesReceived : Int) (answers : Bool) (ret : UInt8)
    (safe : ClearsUnusedSocket system (.task index bytesReceived answers ret)) :
    SlotsInOrder maxClients (taskStep index bytesReceived answers ret system) := by
  unfold taskStep
  cases there : system.tasks[index]? with
  | none => exact order
  | some task =>
      have owns := order.owns task (List.mem_of_getElem? there)
      cases here : task.pc with
      | receive lastRet =>
          simp only [here]
          by_cases closing : lastRet = modbusTcpCloseConnection
          · rw [if_pos closing]
            exact slotsInOrder_move order there _ (by simp [here, TaskPc.holds]) (by simp)
          · rw [if_neg closing]
            apply slotsInOrder_use _ .recv (owns.socket (by simp [here, TaskPc.holds]))
            apply slotsInOrder_move order there
            · by_cases received : 0 < bytesReceived <;> simp [received, here, TaskPc.holds]
            · by_cases received : 0 < bytesReceived <;> simp [received]
      | handle =>
          simp only [here]
          apply slotsInOrder_move order there _ (by simp [here, TaskPc.holds])
          intro clientSocket argument
          obtain rfl := TaskPc.respond.inj argument
          exact owns.socket (by simp [here, TaskPc.holds])
      | respond clientSocket =>
          simp only [here]
          have moved := slotsInOrder_move order there (.receive ret)
            (by simp [here, TaskPc.holds]) (by simp)
          by_cases answered : answers = true
          · rw [if_pos answered]
            exact slotsInOrder_use moved .send (owns.argument clientSocket here)
          · rw [if_neg answered]
            exact moved
      | close =>
          simp only [here]
          apply slotsInOrder_use _ .close (owns.socket (by simp [here, TaskPc.holds]))
          exact slotsInOrder_move order there _ (by simp [here, TaskPc.holds]) (by simp)
      | clearConnected =>
          simp only [here]
          exact slotsInOrder_clearConnected order there here
      | clearSocket =>
          simp only [here]
          have after : TaskPc.clearTimeStart.holds = task.pc.holds := by simp [here, TaskPc.holds]
          have moved := slotsInOrder_move order there .clearTimeStart after (by simp)
          refine slotsInOrder_change moved (fun _ => rfl) ?_
          -- this is the only assignment that could reach a newer client's socket
          intro used
          rw [System.inUse, heldSlots_putTask there after] at used
          exact absurd used (safe task there here)
      | clearTimeStart =>
          simp only [here]
          have moved := slotsInOrder_move order there .deleted
            (by simp [here, TaskPc.holds]) (by simp)
          exact slotsInOrder_change moved (fun _ => rfl) fun _ _ => rfl
      | deleted => simpa only [here] using order

theorem slotsInOrder_step (callbacks : κ) (system : System κ) (action : Action)
    (order : SlotsInOrder maxClients system)
    (meets : FewerLiveAtAccept maxClients system action ∧ ClearsUnusedSocket system action) :
    SlotsInOrder maxClients (systemStep maxClients callbacks system action) := by
  cases action with
  | acceptLoop clientSock tickCount =>
      exact slotsInOrder_acceptLoop order callbacks clientSock tickCount meets.1
  | task index bytesReceived answers ret =>
      exact slotsInOrder_task order index bytesReceived answers ret meets.2

theorem slotsInOrder_start {clients : ClientTable κ}
    (free : ∀ slot < maxClients.toNat, (clients slot).connected = 0) :
    SlotsInOrder maxClients (System.start clients) := by
  constructor
  case covered => exact fun slot bound connected => absurd (free slot bound) connected
  all_goals simp [System.start, AcceptPc.claimed, AcceptPc.stored]

/-- In every interleaving that starts from free slots and accepts only below the limit, and
whose tasks clear `socket` only in slots not in use again, each recv, send and close uses
the socket that accept returned for the client it is made for. -/
theorem calls_useOwnSocket (maxClients : UInt8) (callbacks : κ) (clients : ClientTable κ)
    (free : ∀ slot < maxClients.toNat, (clients slot).connected = 0) (actions : List Action)
    (fewer : Throughout (systemStep maxClients callbacks) (FewerLiveAtAccept maxClients)
      (System.start clients) actions)
    (unused : Throughout (systemStep maxClients callbacks) ClearsUnusedSocket
      (System.start clients) actions) :
    ∀ use ∈ (actions.foldl (systemStep maxClients callbacks) (System.start clients)).uses,
      use.socket = use.accepted :=
  (invariant_run (slotsInOrder_step callbacks) (slotsInOrder_start free)
    (fewer.and unused)).uses

/-! Two clients of one slot, the second accepted after and during the cleanup of the first. -/

def acceptOf (clientSock : Int) : List Action := List.replicate 7 (.acceptLoop clientSock 0)

def receives (index : Nat) (bytesReceived : Int) : Action := .task index bytesReceived true 0

def reusedAfterCleanup : List Action :=
  acceptOf 3 ++ List.replicate 5 (receives 0 0) ++ acceptOf 4 ++ List.replicate 4 (receives 1 8)

def reusedDuringCleanup : List Action :=
  acceptOf 3 ++ List.replicate 3 (receives 0 0) ++ acceptOf 4 ++ [receives 0 0, receives 1 8]

theorem reusedAfterCleanup_useOwnSocket :
    let system := reusedAfterCleanup.foldl (systemStep 2 ()) (.start fun _ => ⟨0, 0, 0, ()⟩)
    system.uses = [⟨.recv, 3, 3⟩, ⟨.close, 3, 3⟩, ⟨.recv, 4, 4⟩, ⟨.send, 4, 4⟩, ⟨.recv, 4, 4⟩] ∧
      ∀ use ∈ system.uses, use.socket = use.accepted :=
  ⟨by decide, calls_useOwnSocket 2 () (fun _ => ⟨0, 0, 0, ()⟩) (by simp) reusedAfterCleanup
    (by decide) (by decide)⟩

/-- The first task sets `connected` to 0, the accept loop stores the second client in the
slot, and the first task then sets that client's socket to 0. -/
theorem reusedDuringCleanup_receivesOther :
    let start : System Unit := .start fun _ => ⟨0, 0, 0, ()⟩
    Throughout (systemStep 2 ()) (FewerLiveAtAccept 2) start reusedDuringCleanup ∧
      (⟨.recv, 4, 0⟩ : SocketUse) ∈ (reusedDuringCleanup.foldl (systemStep 2 ()) start).uses ∧
      ¬ ∀ use ∈ (reusedDuringCleanup.foldl (systemStep 2 ()) start).uses,
        use.socket = use.accepted := by
  refine ⟨by decide, by decide, by decide⟩

end SpeFramework
