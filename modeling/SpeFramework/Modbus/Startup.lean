import SpeFramework.Modbus.OwnSocket

/-!
`modbus_tcp_start` from its first statement on: the steps that set the server up, each of which
may fail, then its accept loop beside the connection tasks, one shared access at a time. The
ledger holds what it has acquired and nobody has given back.
-/

namespace SpeFramework

open Runs ModbusTCPClient

variable {κ : Type}

/-- The call `modbus_tcp_start` makes next; `serve` is its accept loop. -/
inductive StartPc where
  | allocate
  | socket
  | inetPton
  | bind
  | listen
  | serve
  | returned
  deriving DecidableEq, Repr

structure Service (κ : Type) where
  pc : StartPc
  /-- The block of `modbus_tcp_clients` is allocated and not freed. -/
  tableHeld : Bool
  sockfd : Int
  /-- The descriptors `lwip_socket` and `lwip_accept` returned that are not closed. -/
  opened : List Int
  system : System κ

/-- What the environment answers the next call of one party with. -/
inductive ServiceEvent (κ : Type) where
  | allocate (modbusTcpClients : Option (ClientTable κ))
  | call (result : Int)
  | acceptLoop (clientSock tickCount : Int) (created : Bool)
  | task (index : Nat) (bytesReceived : Int) (answers : Bool) (ret : UInt8)

def Service.start (clients : ClientTable κ) : Service κ := ⟨.allocate, false, 0, [], .start clients⟩

/-- The descriptors of `opened` that `uses` did not close. -/
def remaining (opened : List Int) (uses : List SocketUse) : List Int :=
  opened.filter fun fd => uses.all fun use => use.operation ≠ .close ∨ use.socket ≠ fd

def Service.lwipClose (fd : Int) (service : Service κ) : Service κ :=
  { service with opened := remaining service.opened [⟨.close, fd, fd⟩] }

def Service.goTo (pc : StartPc) (service : Service κ) : Service κ := { service with pc }

/-- The accept loop and the tasks go on to `next`, with the sockets they close on the way. -/
def Service.advance (next : System κ) (service : Service κ) : Service κ :=
  { service with
    system := next
    opened := remaining service.opened (next.uses.drop service.system.uses.length) }

def setupStep (result : Int) (service : Service κ) : Service κ :=
  match service.pc with
  | .socket =>
      if result < 0 then service.goTo .returned
      else { service with pc := .inetPton, sockfd := result, opened := result :: service.opened }
  | .inetPton => if result ≤ 0 then service.goTo .returned else service.goTo .bind
  | .bind =>
      if result < 0 then (service.lwipClose service.sockfd).goTo .returned else service.goTo .listen
  | .listen =>
      if result < 0 then (service.lwipClose service.sockfd).goTo .returned else service.goTo .serve
  | _ => service

def acceptLoopTurn (maxClients : UInt8) (callbacks : κ) (clientSock tickCount : Int)
    (created : Bool) (system : System κ) : System κ :=
  match system.acceptLoop, created with
  -- the result of `xTaskCreate` is not looked at
  | .createTask _ _, false => system.goTo .accept
  | _, _ => acceptLoopStep maxClients callbacks clientSock tickCount system

def serviceStep (maxClients : UInt8) (callbacks : κ) (service : Service κ) :
    ServiceEvent κ → Service κ
  | .allocate modbusTcpClients =>
      if service.pc = .allocate then
        match modbusTcpClients with
        | none => service.goTo .returned
        | some clients => { service with pc := .socket, tableHeld := true, system := .start clients }
      else service
  | .call result => setupStep result service
  | .acceptLoop clientSock tickCount created =>
      if service.pc = .serve then
        let advanced := service.advance
          (acceptLoopTurn maxClients callbacks clientSock tickCount created service.system)
        if service.system.acceptLoop = .accept ∧ 0 ≤ clientSock then
          { advanced with opened := clientSock :: advanced.opened }
        else advanced
      else service
  | .task index bytesReceived answers ret =>
      if service.pc = .serve then
        service.advance (taskStep index bytesReceived answers ret service.system)
      else service

/-! What has to be accounted for, on return and at each start of the accept loop. -/

/-- The socket is that of a live task, in whose slot alone it is connected. -/
def OwnedByTask (maxClients : UInt8) (system : System κ) (fd : Int) : Prop :=
  ∃ task ∈ system.tasks, task.pc.holds = true ∧ task.slot < maxClients.toNat ∧
    (system.clients task.slot).connected ≠ 0 ∧ (system.clients task.slot).socket = fd ∧
    ∀ slot < maxClients.toNat, (system.clients slot).connected ≠ 0 →
      (system.clients slot).socket = fd → slot = task.slot

structure LoopAccounted (maxClients : UInt8) (service : Service κ) : Prop where
  sockets : ∀ fd ∈ service.opened, fd ≠ service.sockfd →
    OwnedByTask maxClients service.system fd
  slots : ∀ slot < maxClients.toNat, (service.system.clients slot).connected ≠ 0 →
    ∃ task ∈ service.system.tasks, task.pc.holds = true ∧ task.slot = slot

def Accounted (maxClients : UInt8) (service : Service κ) : Prop :=
  match service.pc with
  | .returned => service.tableHeld = false ∧ service.opened = []
  | .serve => service.system.acceptLoop = .accept → LoopAccounted maxClients service
  | _ => True

def heldSockets (tasks : List ConnectionTask) : List Int :=
  (tasks.filter (·.pc.holds)).map (·.accepted)

def SetupSucceeds (result : Int) : StartPc → Prop
  | .socket | .bind | .listen => 0 ≤ result
  | .inetPton => 0 < result
  | _ => True

/-- The search finds a free slot, the task is created, and a descriptor comes back only once the
task it was handed to has given up its slot. -/
def TurnSucceeds (maxClients : UInt8) (tasks : List ConnectionTask) (clientSock : Int)
    (created : Bool) : AcceptPc → Prop
  | .accept => 0 ≤ clientSock → clientSock ∉ heldSockets tasks
  | .search _ i => i < maxClients.toNat
  | .createTask _ _ => created = true
  | _ => True

def LosesNothing (maxClients : UInt8) (service : Service κ) : ServiceEvent κ → Prop
  | .allocate modbusTcpClients => service.pc = .allocate → ∀ clients ∈ modbusTcpClients,
      ∀ slot < maxClients.toNat, (clients slot).connected = 0
  | .call result => SetupSucceeds result service.pc
  | .acceptLoop clientSock _ created => service.pc = .serve →
      TurnSucceeds maxClients service.system.tasks clientSock created service.system.acceptLoop
  | .task index bytesReceived answers ret => service.pc = .serve →
      ClearsUnusedSocket service.system (.task index bytesReceived answers ret)

instance (result : Int) : ∀ pc, Decidable (SetupSucceeds result pc)
  | .socket | .bind | .listen => inferInstanceAs (Decidable (0 ≤ result))
  | .inetPton => inferInstanceAs (Decidable (0 < result))
  | .allocate | .serve | .returned => isTrue trivial

instance (maxClients : UInt8) (tasks : List ConnectionTask) (clientSock : Int) (created : Bool) :
    ∀ pc, Decidable (TurnSucceeds maxClients tasks clientSock created pc)
  | .accept => inferInstanceAs (Decidable (_ → _))
  | .search _ i => inferInstanceAs (Decidable (i < maxClients.toNat))
  | .createTask _ _ => inferInstanceAs (Decidable (created = true))
  | .setConnected _ _ | .setSocket _ _ | .setTimeStart _ _ | .setModbusCallbacks _ _
  | .refuse _ => isTrue trivial

instance (maxClients : UInt8) (service : Service κ) :
    ∀ event, Decidable (LosesNothing maxClients service event)
  | .allocate modbusTcpClients =>
      inferInstanceAs (Decidable (_ → ∀ clients ∈ modbusTcpClients, _))
  | .call result => inferInstanceAs (Decidable (SetupSucceeds result service.pc))
  | .acceptLoop _ _ _ => inferInstanceAs (Decidable (_ → TurnSucceeds _ _ _ _ _))
  | .task index bytesReceived answers ret => inferInstanceAs (Decidable
      (_ → ClearsUnusedSocket service.system (.task index bytesReceived answers ret)))

/-! The ledger of the accept loop. The slots are in order apart from the search, whose success is
a condition of its own here. -/

def AcceptPc.settled : AcceptPc → AcceptPc
  | .search _ _ => .accept
  | loop => loop

def System.settled (system : System κ) : System κ :=
  { system with acceptLoop := system.acceptLoop.settled }

/-- The socket accepted last, until it has a task or is closed. -/
def AcceptPc.pending : AcceptPc → Option Int
  | .accept => none
  | .search clientSock _ | .setConnected clientSock _ | .setSocket clientSock _
  | .setTimeStart clientSock _ | .setModbusCallbacks clientSock _ | .createTask clientSock _
  | .refuse clientSock => some clientSock

def AcceptPc.chosen : AcceptPc → Option Nat
  | .setConnected _ slot | .setSocket _ slot | .setTimeStart _ slot
  | .setModbusCallbacks _ slot | .createTask _ slot => some slot
  | _ => none

/-- Before its `lwip_close` a task's socket is open. -/
def TaskPc.opens : TaskPc → Bool
  | .receive _ | .handle | .respond _ | .close => true
  | _ => false

structure Ledger (maxClients : UInt8) (service : Service κ) : Prop where
  order : SlotsInOrder maxClients service.system.settled
  distinct : (heldSockets service.system.tasks ++
    service.system.acceptLoop.pending.toList).Nodup
  bound : ∀ task ∈ service.system.tasks, task.slot < maxClients.toNat
  chosen : ∀ slot, service.system.acceptLoop.chosen = some slot → slot < maxClients.toNat
  opened : ∀ fd ∈ service.opened, fd = service.sockfd ∨
    (∃ task ∈ service.system.tasks, task.pc.opens = true ∧ task.accepted = fd) ∨
    service.system.acceptLoop.pending = some fd

theorem mem_remaining {opened : List Int} {uses : List SocketUse} {fd : Int} :
    fd ∈ remaining opened uses ↔
      fd ∈ opened ∧ ∀ use ∈ uses, use.operation = .close → use.socket ≠ fd := by
  simp [remaining, imp_iff_not_or]

@[simp] theorem remaining_nil (opened : List Int) : remaining opened [] = opened := by
  simp [remaining]

theorem holds_of_opens {pc : TaskPc} (opens : pc.opens = true) : pc.holds = true := by
  cases pc <;> first | rfl | cases opens

@[simp] theorem settled_stored (system : System κ) :
    system.settled.acceptLoop.stored = system.acceptLoop.stored := by
  simp only [System.settled]
  cases system.acceptLoop <;> rfl

theorem settled_eq {system : System κ}
    (settled : system.acceptLoop.settled = system.acceptLoop) : system.settled = system := by
  rw [System.settled, settled]

section Loop

variable {maxClients : UInt8} {service : Service κ}

/-- At the start of its loop the ledger accounts for everything. -/
theorem Ledger.accounted (ledger : Ledger maxClients service)
    (here : service.system.acceptLoop = .accept) : LoopAccounted maxClients service := by
  have order := ledger.order
  rw [settled_eq (by rw [here]; rfl)] at order
  have unclaimed : service.system.acceptLoop.claimed = none := by simp [here, AcceptPc.claimed]
  have distinct := ledger.distinct
  simp only [here, AcceptPc.pending, Option.toList_none, List.append_nil] at distinct
  have holder {slot : Nat} (bound : slot < maxClients.toNat)
      (connected : (service.system.clients slot).connected ≠ 0) :
      ∃ task ∈ service.system.tasks, task.pc.holds = true ∧ task.slot = slot := by
    obtain ⟨task, member, same⟩ := List.mem_map.mp (order.covers unclaimed bound connected)
    obtain ⟨member, holds⟩ := List.mem_filter.mp member
    exact ⟨task, member, holds, same⟩
  refine ⟨fun fd member accepted => ?_, fun slot bound connected => holder bound connected⟩
  rcases ledger.opened fd member with own | ⟨task, running, opens, rfl⟩ | pending
  · exact absurd own accepted
  · have holds := holds_of_opens opens
    have owns := order.owns task running
    refine ⟨task, running, holds, ledger.bound task running, owns.connected holds,
      owns.socket holds, ?_⟩
    intro slot bound connected socket
    obtain ⟨other, otherRunning, otherHolds, rfl⟩ := holder bound connected
    have sameSocket : other.accepted = task.accepted :=
      ((order.owns other otherRunning).socket otherHolds).symm.trans socket
    have same := List.inj_on_of_nodup_map distinct
      (List.mem_filter.mpr ⟨otherRunning, otherHolds⟩) (List.mem_filter.mpr ⟨running, holds⟩)
      sameSocket
    rw [same]
  · simp [here, AcceptPc.pending] at pending

/-- A turn of the accept loop that keeps its socket, the tasks and what was closed. -/
theorem Ledger.goOn (ledger : Ledger maxClients service) {next : System κ}
    (order : SlotsInOrder maxClients next.settled) (tasks : next.tasks = service.system.tasks)
    (uses : next.uses = service.system.uses)
    (pending : next.acceptLoop.pending = service.system.acceptLoop.pending)
    (chosen : ∀ slot, next.acceptLoop.chosen = some slot → slot < maxClients.toNat) :
    Ledger maxClients (service.advance next) where
  order := order
  distinct := by simpa [Service.advance, tasks, pending] using ledger.distinct
  bound := by simpa [Service.advance, tasks] using ledger.bound
  chosen := chosen
  opened := by simpa [Service.advance, tasks, uses, pending] using ledger.opened

theorem Ledger.failedAccept (ledger : Ledger maxClients service) (clientSock : Int) :
    Ledger maxClients (service.advance (service.system.use .close clientSock clientSock)) where
  order := slotsInOrder_use ledger.order .close rfl
  distinct := ledger.distinct
  bound := ledger.bound
  chosen := ledger.chosen
  opened := fun fd member => ledger.opened fd (mem_remaining.mp member).1

theorem Ledger.accepted (ledger : Ledger maxClients service) {clientSock : Int}
    (here : service.system.acceptLoop = .accept)
    (fresh : clientSock ∉ heldSockets service.system.tasks) :
    Ledger maxClients
      { service.advance (service.system.goTo (.search clientSock 0)) with
        opened := clientSock ::
          (service.advance (service.system.goTo (.search clientSock 0))).opened } where
  order := by
    have same : (service.system.goTo (.search clientSock 0)).settled = service.system.settled := by
      simp [System.settled, System.goTo, here, AcceptPc.settled]
    exact same ▸ ledger.order
  distinct := by
    have distinct := ledger.distinct
    simp only [here, AcceptPc.pending, Option.toList_none, List.append_nil] at distinct
    have grown := List.Nodup.concat fresh distinct
    rw [List.concat_eq_append] at grown
    exact grown
  bound := ledger.bound
  chosen := by simp [Service.advance, System.goTo, AcceptPc.chosen]
  opened := by
    intro fd member
    rcases List.mem_cons.mp member with rfl | member
    · exact .inr (.inr rfl)
    · have earlier := ledger.opened fd (mem_remaining.mp member).1
      simp only [here, AcceptPc.pending, reduceCtorEq, or_false] at earlier
      exact earlier.imp_right .inl

theorem Ledger.search (ledger : Ledger maxClients service) (callbacks : κ) {clientSock : Int}
    {i : Nat} (here : service.system.acceptLoop = .search clientSock i) (below : i < maxClients.toNat)
    (result tickCount : Int) :
    Ledger maxClients (service.advance
      (acceptLoopStep maxClients callbacks result tickCount service.system)) := by
  have small := maxClients.toNat_lt
  have unclaimed : service.system.settled.acceptLoop.claimed = none := by
    simp [System.settled, here, AcceptPc.settled, AcceptPc.claimed]
  by_cases stops : (service.system.clients i).connected = 0
  · simp only [acceptLoopStep, here, if_pos below, if_pos stops,
      slotFound_index clientSock (by omega : i < 256)]
    refine ledger.goOn ?_ rfl rfl (by rw [here]; rfl) ?_
    · exact slotsInOrder_stopped ledger.order unclaimed clientSock stops
    · intro slot same
      obtain rfl := Option.some.inj same
      exact below
  · simp only [acceptLoopStep, here, if_pos below, if_neg stops]
    refine ledger.goOn ?_ rfl rfl (by rw [here]; rfl) (by simp [System.goTo, AcceptPc.chosen])
    have same : (service.system.goTo (.search clientSock (i + 1))).settled =
        service.system.settled := by
      simp [System.settled, System.goTo, here, AcceptPc.settled]
    exact same ▸ ledger.order

theorem Ledger.createTask (ledger : Ledger maxClients service) {clientSock : Int} {slot : Nat}
    (here : service.system.acceptLoop = .createTask clientSock slot) :
    Ledger maxClients (service.advance { service.system with
      acceptLoop := .accept
      tasks := service.system.tasks ++ [⟨slot, clientSock, .receive 0⟩] }) where
  order := by
    have order := ledger.order
    rw [settled_eq (by rw [here]; rfl)] at order
    exact slotsInOrder_createTask order here
  distinct := by
    simpa [Service.advance, heldSockets, AcceptPc.pending, TaskPc.holds, here] using ledger.distinct
  bound := by
    intro task member
    rcases List.mem_append.mp member with member | member
    · exact ledger.bound task member
    · obtain rfl := List.mem_singleton.mp member
      exact ledger.chosen slot (by rw [here]; rfl)
  chosen := by simp [Service.advance, AcceptPc.chosen]
  opened := by
    intro fd member
    rcases ledger.opened fd (mem_remaining.mp member).1 with own | ⟨task, running, opens⟩ | pending
    · exact .inl own
    · exact .inr (.inl ⟨task, List.mem_append_left _ running, opens⟩)
    · rw [here] at pending
      obtain rfl := Option.some.inj pending
      exact .inr (.inl ⟨_, List.mem_append_right _ (List.mem_singleton_self _), rfl, rfl⟩)

theorem Ledger.refuse (ledger : Ledger maxClients service) {clientSock : Int}
    (here : service.system.acceptLoop = .refuse clientSock) :
    Ledger maxClients (service.advance
      ((service.system.use .close clientSock clientSock).goTo .accept)) where
  order := by
    have closed := slotsInOrder_use ledger.order .close (Eq.refl clientSock)
    refine slotsInOrder_goTo closed ?_ rfl ?_ ?_
    · simp [System.use, System.settled, here, AcceptPc.settled, AcceptPc.claimed]
    · intro _ _ same
      cases same
    · intro _ _ same
      cases same
  distinct := by
    have distinct := ledger.distinct
    simp only [List.nodup_append] at distinct
    simpa [Service.advance, System.goTo, System.use, AcceptPc.pending] using distinct.1
  bound := ledger.bound
  chosen := by simp [Service.advance, System.goTo, AcceptPc.chosen]
  opened := by
    intro fd member
    obtain ⟨member, unclosed⟩ := mem_remaining.mp member
    rcases ledger.opened fd member with own | owned | pending
    · exact .inl own
    · exact .inr (.inl owned)
    · rw [here] at pending
      obtain rfl := Option.some.inj pending
      exact absurd rfl (unclosed ⟨.close, clientSock, clientSock⟩
        (by simp [System.goTo, System.use]) rfl)

theorem Ledger.acceptLoop (ledger : Ledger maxClients service) (callbacks : κ)
    (clientSock tickCount : Int)
    (begun : service.system.acceptLoop ≠ .accept)
    (found : ∀ socket i, service.system.acceptLoop = .search socket i → i < maxClients.toNat) :
    Ledger maxClients (service.advance
      (acceptLoopStep maxClients callbacks clientSock tickCount service.system)) := by
  cases here : service.system.acceptLoop with
  | accept => exact absurd here begun
  | search socket i => exact ledger.search callbacks here (found socket i here) _ tickCount
  | createTask socket slot =>
      simp only [acceptLoopStep, here]
      exact ledger.createTask here
  | refuse socket =>
      simp only [acceptLoopStep, here]
      exact ledger.refuse here
  | setConnected socket slot | setSocket socket slot | setTimeStart socket slot
  | setModbusCallbacks socket slot =>
      have order := ledger.order
      rw [settled_eq (by rw [here]; rfl)] at order
      have turn := slotsInOrder_acceptLoop order callbacks clientSock tickCount
        (fun same => absurd same begun)
      have chosen := ledger.chosen
      simp only [acceptLoopStep, here] at turn chosen ⊢
      exact ledger.goOn turn rfl rfl (by rw [here]; rfl) chosen

end Loop

/-! The tasks. -/

section Tasks

variable {system : System κ} {index : Nat} {task : ConnectionTask}

/-- What one step of a task does to the tasks, the accept loop and the calls made: it closes a
socket where it stands at its `lwip_close`, and otherwise leaves open what was. -/
theorem taskStep_moves (there : system.tasks[index]? = some task) (bytesReceived : Int)
    (answers : Bool) (ret : UInt8) :
    ∃ pc uses, (taskStep index bytesReceived answers ret system).tasks =
        system.tasks.set index { task with pc } ∧
      (taskStep index bytesReceived answers ret system).acceptLoop = system.acceptLoop ∧
      (taskStep index bytesReceived answers ret system).uses = system.uses ++ uses ∧
      (pc.holds = true → task.pc.holds = true) ∧
      (task.pc = .close ∧ uses = [⟨.close, task.accepted, (system.clients task.slot).socket⟩] ∨
        (∀ use ∈ uses, use.operation ≠ .close) ∧ (task.pc.opens = true → pc.opens = true)) := by
  simp only [taskStep, there]
  cases here : task.pc with
  | receive lastRet =>
      by_cases closing : lastRet = modbusTcpCloseConnection
      · simp only [if_pos closing]
        exact ⟨.close, [], rfl, rfl, (List.append_nil _).symm, by simp [TaskPc.holds],
          .inr ⟨by simp, fun _ => rfl⟩⟩
      · simp only [if_neg closing]
        refine ⟨_, _, rfl, rfl, rfl, by simp [TaskPc.holds], .inr ⟨by simp, fun _ => ?_⟩⟩
        split <;> rfl
  | handle =>
      exact ⟨_, [], rfl, rfl, (List.append_nil _).symm, by simp [TaskPc.holds],
        .inr ⟨by simp, fun _ => rfl⟩⟩
  | respond clientSocket =>
      by_cases answered : answers = true
      · simp only [if_pos answered]
        exact ⟨_, _, rfl, rfl, rfl, by simp [TaskPc.holds], .inr ⟨by simp, fun _ => rfl⟩⟩
      · simp only [if_neg answered]
        exact ⟨_, [], rfl, rfl, (List.append_nil _).symm, by simp [TaskPc.holds],
          .inr ⟨by simp, fun _ => rfl⟩⟩
  | close => exact ⟨_, _, rfl, rfl, rfl, by simp [TaskPc.holds], .inl ⟨rfl, rfl⟩⟩
  | clearConnected | clearSocket | clearTimeStart =>
      exact ⟨_, [], rfl, rfl, (List.append_nil _).symm, by simp [TaskPc.holds],
        .inr ⟨by simp, fun opened => absurd opened Bool.false_ne_true⟩⟩
  | deleted =>
      obtain ⟨before, after, split, -, replaced⟩ := putTask_split there
      refine ⟨.deleted, [], ?_, rfl, (List.append_nil _).symm, by simp,
        .inr ⟨by simp, fun opened => absurd opened Bool.false_ne_true⟩⟩
      rw [replaced, split, ← here]

theorem taskStep_settled (bytesReceived : Int) (answers : Bool) (ret : UInt8) :
    (taskStep index bytesReceived answers ret system).settled =
      taskStep index bytesReceived answers ret system.settled := by
  unfold taskStep
  simp only [System.settled]
  cases system.tasks[index]? with
  | none => rfl
  | some task =>
      cases here : task.pc <;> simp only [here] <;> (try split) <;> rfl

theorem heldSockets_set (there : system.tasks[index]? = some task) {pc : TaskPc}
    (holds : pc.holds = true → task.pc.holds = true) :
    (heldSockets (system.tasks.set index { task with pc })).Sublist (heldSockets system.tasks) := by
  obtain ⟨before, after, split, -, replaced⟩ := putTask_split there
  rw [replaced, split]
  simp only [heldSockets, List.filter_append, List.map_append, List.filter_cons]
  refine List.Sublist.append (List.Sublist.refl _) ?_
  by_cases held : pc.holds = true
  · simp [held, holds held]
  · cases task.pc.holds <;> simp [held]

theorem opens_set (there : system.tasks[index]? = some task) {pc : TaskPc} {fd : Int}
    (kept : task.pc.opens = true → task.accepted = fd → pc.opens = true)
    (owned : ∃ owner ∈ system.tasks, owner.pc.opens = true ∧ owner.accepted = fd) :
    ∃ owner ∈ system.tasks.set index { task with pc }, owner.pc.opens = true ∧
      owner.accepted = fd := by
  obtain ⟨before, after, split, -, replaced⟩ := putTask_split there
  obtain ⟨owner, member, opens, rfl⟩ := owned
  rw [split] at member
  rw [replaced]
  rcases List.mem_append.mp member with member | member
  · exact ⟨owner, List.mem_append_left _ member, opens, rfl⟩
  · rcases List.mem_cons.mp member with rfl | member
    · exact ⟨{ owner with pc }, by simp, kept opens rfl, rfl⟩
    · exact ⟨owner, List.mem_append_right _ (List.mem_cons_of_mem _ member), opens, rfl⟩

theorem Ledger.taskMoved {maxClients : UInt8} {service : Service κ} (ledger : Ledger maxClients service)
    (index : Nat) (bytesReceived : Int) (answers : Bool) (ret : UInt8)
    (safe : ClearsUnusedSocket service.system (.task index bytesReceived answers ret)) :
    Ledger maxClients
      (service.advance (taskStep index bytesReceived answers ret service.system)) := by
  have order : SlotsInOrder maxClients
      (taskStep index bytesReceived answers ret service.system).settled := by
    rw [taskStep_settled]
    apply slotsInOrder_task ledger.order
    intro task running clears used
    rw [System.inUse, settled_stored] at used
    exact safe task running clears used
  cases there : service.system.tasks[index]? with
  | none =>
      have still : taskStep index bytesReceived answers ret service.system = service.system := by
        simp only [taskStep, there]
      rw [still] at order ⊢
      exact ledger.goOn order rfl rfl rfl ledger.chosen
  | some task =>
      obtain ⟨pc, uses, tasks, acceptLoop, grown, holds, closes⟩ :=
        taskStep_moves there bytesReceived answers ret
      have running := List.mem_of_getElem? there
      constructor
      case order => exact order
      case distinct =>
        simp only [Service.advance, tasks, acceptLoop]
        exact ledger.distinct.sublist ((heldSockets_set there holds).append (List.Sublist.refl _))
      case bound =>
        simp only [Service.advance, tasks]
        intro other member
        rcases List.mem_or_eq_of_mem_set member with member | rfl
        · exact ledger.bound other member
        · exact ledger.bound task running
      case chosen => simpa only [Service.advance, acceptLoop] using ledger.chosen
      case opened =>
        intro fd member
        obtain ⟨member, unclosed⟩ := mem_remaining.mp member
        simp only [grown, List.drop_left] at unclosed
        simp only [Service.advance, tasks, acceptLoop]
        refine (ledger.opened fd member).imp_right (Or.imp_left (opens_set there ?_))
        intro opens own
        rcases closes with ⟨closing, rfl⟩ | ⟨_, stays⟩
        · -- the socket it closes is its own, so it is not the one that is still open
          have socket := (ledger.order.owns task running).socket (holds_of_opens opens)
          exact absurd (socket.trans own) (unclosed _ (List.mem_singleton_self _) rfl)
        · exact stays opens

end Tasks

/-! Whole runs. -/

section Runs

variable {maxClients : UInt8} {service : Service κ}

def StartsFree (maxClients : UInt8) (service : Service κ) : Prop :=
  ∃ clients, service.system = .start clients ∧
    ∀ slot < maxClients.toNat, (clients slot).connected = 0

def Prepared (maxClients : UInt8) (service : Service κ) : Prop :=
  match service.pc with
  | .allocate | .returned => service.tableHeld = false ∧ service.opened = []
  | .socket => service.opened = [] ∧ StartsFree maxClients service
  | .inetPton | .bind | .listen =>
      (∀ fd ∈ service.opened, fd = service.sockfd) ∧ StartsFree maxClients service
  | .serve => Ledger maxClients service

theorem Prepared.accounted (prepared : Prepared maxClients service) :
    Accounted maxClients service := by
  unfold Accounted
  cases here : service.pc <;> simp only [Prepared, here] at prepared ⊢
  · exact prepared.accounted
  · exact prepared

theorem Prepared.serving (here : service.pc = .serve) (ledger : Ledger maxClients service) :
    Prepared maxClients service := by
  simp only [Prepared, here]
  exact ledger

theorem ledger_start (opened : ∀ fd ∈ service.opened, fd = service.sockfd)
    (free : StartsFree maxClients service) : Ledger maxClients (service.goTo .serve) := by
  obtain ⟨clients, start, free⟩ := free
  constructor
  case order =>
    simp only [Service.goTo, start]
    exact slotsInOrder_start free
  case opened => exact fun fd member => .inl (opened fd member)
  all_goals simp [Service.goTo, start, System.start, heldSockets, AcceptPc.pending, AcceptPc.chosen]

theorem setupStep_prepared (prepared : Prepared maxClients service) (result : Int)
    (succeeds : LosesNothing maxClients service (.call result)) :
    Prepared maxClients (setupStep result service) := by
  unfold setupStep
  cases here : service.pc with
  | allocate | serve | returned => exact prepared
  | socket =>
      simp only [LosesNothing, SetupSucceeds, here] at succeeds
      simp only [Prepared, here] at prepared
      rw [if_neg (Int.not_lt.mpr succeeds)]
      simp only [Prepared]
      refine ⟨?_, prepared.2⟩
      simp [prepared.1]
  | inetPton =>
      simp only [LosesNothing, SetupSucceeds, here] at succeeds
      simp only [Prepared, here] at prepared
      rw [if_neg (Int.not_le.mpr succeeds)]
      exact prepared
  | bind =>
      simp only [LosesNothing, SetupSucceeds, here] at succeeds
      simp only [Prepared, here] at prepared
      simp only [if_neg (Int.not_lt.mpr succeeds)]
      exact prepared
  | listen =>
      simp only [LosesNothing, SetupSucceeds, here] at succeeds
      simp only [Prepared, here] at prepared
      simp only [if_neg (Int.not_lt.mpr succeeds)]
      exact ledger_start prepared.1 prepared.2

theorem acceptLoop_ledger (ledger : Ledger maxClients service) (callbacks : κ)
    (here : service.pc = .serve) (clientSock tickCount : Int) (created : Bool)
    (meets : LosesNothing maxClients service (.acceptLoop clientSock tickCount created)) :
    Ledger maxClients
      (serviceStep maxClients callbacks service (.acceptLoop clientSock tickCount created)) := by
  have meets := meets here
  simp only [serviceStep, if_pos here]
  by_cases waiting : service.system.acceptLoop = .accept
  · have turn : acceptLoopTurn maxClients callbacks clientSock tickCount created service.system =
        acceptLoopStep maxClients callbacks clientSock tickCount service.system := by
      simp only [acceptLoopTurn, waiting]
    simp only [TurnSucceeds, waiting] at meets
    rw [turn]
    by_cases failed : clientSock < 0
    · rw [if_neg (by omega)]
      simp only [acceptLoopStep, waiting, if_pos failed]
      exact ledger.failedAccept clientSock
    · rw [if_pos ⟨waiting, by omega⟩]
      simp only [acceptLoopStep, waiting, if_neg failed]
      exact ledger.accepted waiting (meets (by omega))
  · have turn : acceptLoopTurn maxClients callbacks clientSock tickCount created service.system =
        acceptLoopStep maxClients callbacks clientSock tickCount service.system := by
      unfold acceptLoopTurn
      split
      · rename_i creating _
        simp [TurnSucceeds, creating] at meets
      · rfl
    rw [turn, if_neg fun both => waiting both.1]
    refine ledger.acceptLoop callbacks clientSock tickCount waiting ?_
    intro socket i searching
    simpa only [TurnSucceeds, searching] using meets

theorem prepared_step (callbacks : κ) (service : Service κ) (event : ServiceEvent κ)
    (prepared : Prepared maxClients service) (meets : LosesNothing maxClients service event) :
    Prepared maxClients (serviceStep maxClients callbacks service event) := by
  cases event with
  | allocate modbusTcpClients =>
      by_cases here : service.pc = .allocate
      · have meets := meets here
        simp only [Prepared, here] at prepared
        simp only [serviceStep, if_pos here]
        cases modbusTcpClients with
        | none => exact prepared
        | some clients => exact ⟨prepared.2, clients, rfl, meets clients rfl⟩
      · simpa only [serviceStep, if_neg here] using prepared
  | call result => exact setupStep_prepared prepared result meets
  | acceptLoop clientSock tickCount created =>
      by_cases here : service.pc = .serve
      · simp only [Prepared, here] at prepared
        have ledger := acceptLoop_ledger prepared callbacks here clientSock tickCount created meets
        apply Prepared.serving ?_ ledger
        simp only [serviceStep, if_pos here]
        split <;> exact here
      · simpa only [serviceStep, if_neg here] using prepared
  | task index bytesReceived answers ret =>
      by_cases here : service.pc = .serve
      · simp only [Prepared, here] at prepared
        simp only [serviceStep, if_pos here]
        exact Prepared.serving here (prepared.taskMoved index bytesReceived answers ret (meets here))
      · simpa only [serviceStep, if_neg here] using prepared

theorem prepared_start (clients : ClientTable κ) :
    Prepared maxClients (Service.start clients) :=
  ⟨rfl, rfl⟩

/-- In every run that starts from a fresh call of `modbus_tcp_start`, over every interleaving of
its accept loop with the connection tasks. -/
theorem start_accountsForAll (maxClients : UInt8) (callbacks : κ) (clients : ClientTable κ)
    (events : List (ServiceEvent κ))
    (meets : Throughout (serviceStep maxClients callbacks) (LosesNothing maxClients)
      (.start clients) events) :
    Accounted maxClients (events.foldl (serviceStep maxClients callbacks) (.start clients)) :=
  (invariant_run (prepared_step callbacks) (prepared_start clients) meets).accounted

end Runs

/-! One client: served from socket 4 in slot 0, and the same client where `xTaskCreate` fails. A
failed `lwip_socket` returns with the table allocated. -/

def freeTable : ClientTable Unit := fun _ => ⟨0, 0, 0, ()⟩

def setup : List (ServiceEvent Unit) := [.allocate (some freeTable), .call 3, .call 1, .call 0, .call 0]

def firstClient (created : Bool) : List (ServiceEvent Unit) :=
  List.replicate 7 (.acceptLoop 4 0 created)

theorem firstClient_accounted :
    ((setup ++ firstClient true).foldl (serviceStep 2 ()) (.start freeTable)).opened = [4, 3] ∧
      Accounted 2 ((setup ++ firstClient true).foldl (serviceStep 2 ()) (.start freeTable)) :=
  ⟨by decide, start_accountsForAll 2 () freeTable _ (by decide)⟩

theorem failures_unaccounted :
    ¬ Accounted 2 ([.allocate (some freeTable), .call (-1)].foldl (serviceStep 2 ())
        (.start freeTable)) ∧
      ¬ Accounted 2 ((setup ++ firstClient false).foldl (serviceStep 2 ()) (.start freeTable)) := by
  constructor
  · intro accounted
    exact absurd accounted.1 (by decide)
  · intro accounted
    obtain ⟨task, running, _⟩ := (accounted (by decide)).slots 0 (by decide) (by decide)
    have idle : ((setup ++ firstClient false).foldl (serviceStep 2 ())
        (.start freeTable)).system.tasks = [] := by decide
    rw [idle] at running
    cases running

end SpeFramework
