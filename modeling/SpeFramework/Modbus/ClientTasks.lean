import SpeFramework.Modbus.Clients
import SpeFramework.Modbus.Tcp

/-!
The accept loop of `modbus_tcp_start` and the tasks that run `modbus_tcp_connection_handle`,
one shared access at a time: each read of the table the search makes, each assignment to a
client's field, each `lwip_recv`, `lwip_send` and `lwip_close` is a step of its own.
-/

namespace SpeFramework

open Runs ModbusTCPClient

variable {κ : Type}

inductive AcceptPc where
  | accept
  | search (clientSock : Int) (i : Nat)
  | setConnected (clientSock : Int) (slot : Nat)
  | setSocket (clientSock : Int) (slot : Nat)
  | setTimeStart (clientSock : Int) (slot : Nat)
  | setModbusCallbacks (clientSock : Int) (slot : Nat)
  | createTask (clientSock : Int) (slot : Nat)
  | refuse (clientSock : Int)
  deriving DecidableEq, Repr

/-- The statement a connection task executes next. `respond` is inside
`modbus_tcp_handle_request`, which was handed the socket as an argument. -/
inductive TaskPc where
  | receive (ret : UInt8)
  | handle
  | respond (clientSocket : Int)
  | close
  | clearConnected
  | clearSocket
  | clearTimeStart
  | deleted
  deriving DecidableEq, Repr

/-- `accepted` is what `lwip_accept` returned for the client; the code does not keep it. -/
structure ConnectionTask where
  slot : Nat
  accepted : Int
  pc : TaskPc
  deriving DecidableEq, Repr

inductive SocketOperation where
  | recv
  | send
  | close
  deriving DecidableEq, Repr

structure SocketUse where
  operation : SocketOperation
  accepted : Int
  socket : Int
  deriving DecidableEq, Repr

structure System (κ : Type) where
  clients : ClientTable κ
  acceptLoop : AcceptPc
  tasks : List ConnectionTask
  uses : List SocketUse

inductive Action where
  | acceptLoop (clientSock tickCount : Int)
  | task (index : Nat) (bytesReceived : Int) (answers : Bool) (ret : UInt8)
  deriving DecidableEq, Repr

def slotFound (clientSock : Int) (found : Int16) : AcceptPc :=
  let connectionSlot := found.toUInt16
  if (connectionSlot.toNat : Int) ≠ -1 then .setConnected clientSock connectionSlot.toNat
  else .refuse clientSock

theorem slotFound_eq (clientSock : Int) (found : Int16) :
    slotFound clientSock found = .setConnected clientSock found.toUInt16.toNat := by
  have unsigned : (found.toUInt16.toNat : Int) ≠ -1 := by omega
  simp only [slotFound, if_pos unsigned]

def System.change (slot : Nat) (change : ModbusTCPClient κ → ModbusTCPClient κ)
    (system : System κ) : System κ :=
  { system with clients := system.clients.modify slot change }

def System.goTo (acceptLoop : AcceptPc) (system : System κ) : System κ :=
  { system with acceptLoop }

def System.use (operation : SocketOperation) (accepted socket : Int) (system : System κ) :
    System κ :=
  { system with uses := system.uses ++ [⟨operation, accepted, socket⟩] }

def System.putTask (index : Nat) (task : ConnectionTask) (system : System κ) : System κ :=
  { system with tasks := system.tasks.set index task }

def acceptLoopStep (maxClients : UInt8) (callbacks : κ) (clientSock tickCount : Int)
    (system : System κ) : System κ :=
  match system.acceptLoop with
  | .accept =>
      if clientSock < 0 then system.use .close clientSock clientSock
      else system.goTo (.search clientSock 0)
  | .search clientSock i =>
      if i < maxClients.toNat then
        if (system.clients i).connected = 0 then system.goTo (slotFound clientSock (Int16.ofNat i))
        else system.goTo (.search clientSock (i + 1))
      else system.goTo (slotFound clientSock (-1))
  | .setConnected clientSock slot =>
      (system.change slot (setConnected 1)).goTo (.setSocket clientSock slot)
  | .setSocket clientSock slot =>
      (system.change slot (setSocket clientSock)).goTo (.setTimeStart clientSock slot)
  | .setTimeStart clientSock slot =>
      (system.change slot (setTimeStart tickCount)).goTo (.setModbusCallbacks clientSock slot)
  | .setModbusCallbacks clientSock slot =>
      (system.change slot (setModbusCallbacks callbacks)).goTo (.createTask clientSock slot)
  | .createTask clientSock slot =>
      { system with acceptLoop := .accept, tasks := system.tasks ++ [⟨slot, clientSock, .receive 0⟩] }
  | .refuse clientSock => (system.use .close clientSock clientSock).goTo .accept

def taskStep (index : Nat) (bytesReceived : Int) (answers : Bool) (ret : UInt8)
    (system : System κ) : System κ :=
  match system.tasks[index]? with
  | none => system
  | some task =>
      let moved (pc : TaskPc) := system.putTask index { task with pc }
      let socket := (system.clients task.slot).socket
      match task.pc with
      | .receive lastRet =>
          if lastRet = modbusTcpCloseConnection then moved .close
          else (moved (if 0 < bytesReceived then .handle else .close)).use .recv task.accepted socket
      | .handle => moved (.respond socket)
      | .respond clientSocket =>
          if answers then (moved (.receive ret)).use .send task.accepted clientSocket
          else moved (.receive ret)
      | .close => (moved .clearConnected).use .close task.accepted socket
      | .clearConnected => (moved .clearSocket).change task.slot (setConnected 0)
      | .clearSocket => (moved .clearTimeStart).change task.slot (setSocket 0)
      | .clearTimeStart => (moved .deleted).change task.slot (setTimeStart 0)
      | .deleted => system

def systemStep (maxClients : UInt8) (callbacks : κ) (system : System κ) : Action → System κ
  | .acceptLoop clientSock tickCount => acceptLoopStep maxClients callbacks clientSock tickCount system
  | .task index bytesReceived answers ret => taskStep index bytesReceived answers ret system

def System.start (clients : ClientTable κ) : System κ := ⟨clients, .accept, [], []⟩

/-! A task holds its slot until it has set `connected` to 0; until then its client is live. -/

def TaskPc.holds : TaskPc → Bool
  | .receive _ | .handle | .respond _ | .close | .clearConnected => true
  | .clearSocket | .clearTimeStart | .deleted => false

@[simp] theorem holds_deleted : TaskPc.deleted.holds = false := rfl

def heldSlots (tasks : List ConnectionTask) : List Nat :=
  (tasks.filter (·.pc.holds)).map (·.slot)

@[simp] theorem heldSlots_append (tasks later : List ConnectionTask) :
    heldSlots (tasks ++ later) = heldSlots tasks ++ heldSlots later := by
  simp [heldSlots]

@[simp] theorem heldSlots_cons (task : ConnectionTask) (tasks : List ConnectionTask) :
    heldSlots (task :: tasks) = (if task.pc.holds then [task.slot] else []) ++ heldSlots tasks := by
  by_cases holds : task.pc.holds = true <;> simp [heldSlots, holds]

@[simp] theorem heldSlots_nil : heldSlots [] = [] := rfl

theorem mem_heldSlots {task : ConnectionTask} {tasks : List ConnectionTask}
    (member : task ∈ tasks) (holds : task.pc.holds = true) : task.slot ∈ heldSlots tasks :=
  List.mem_map_of_mem (List.mem_filter.mpr ⟨member, holds⟩)

end SpeFramework
