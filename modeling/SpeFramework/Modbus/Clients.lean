import SpeFramework.Lib.Runs
import Mathlib.Data.List.Perm.Subperm
import Mathlib.Data.List.Nodup
import Mathlib.Logic.Function.Basic

/-!
The client table of `modbus_tcp_start`: the accept loop with its slot search, and the end of
`modbus_tcp_connection_handle`, each taken as one event.
-/

namespace SpeFramework

open Runs

structure ModbusTCPClient (κ : Type) where
  connected : UInt8
  socket : Int
  timeStart : Int
  modbusCallbacks : κ
  deriving DecidableEq, Repr

variable {κ : Type}

namespace ModbusTCPClient

@[simps]
def setConnected (connected : UInt8) (client : ModbusTCPClient κ) : ModbusTCPClient κ :=
  { client with connected }

@[simps]
def setSocket (socket : Int) (client : ModbusTCPClient κ) : ModbusTCPClient κ :=
  { client with socket }

@[simps]
def setTimeStart (timeStart : Int) (client : ModbusTCPClient κ) : ModbusTCPClient κ :=
  { client with timeStart }

@[simps]
def setModbusCallbacks (modbusCallbacks : κ) (client : ModbusTCPClient κ) : ModbusTCPClient κ :=
  { client with modbusCallbacks }

end ModbusTCPClient

open ModbusTCPClient

/-- What the pointer `modbus_tcp_clients` reaches; the allocation ends at `max_clients`. -/
abbrev ClientTable (κ : Type) := Nat → ModbusTCPClient κ

def ClientTable.modify (clients : ClientTable κ) (slot : Nat)
    (change : ModbusTCPClient κ → ModbusTCPClient κ) : ClientTable κ :=
  Function.update clients slot (change (clients slot))

@[simp] theorem modify_here (clients : ClientTable κ) (slot : Nat)
    (change : ModbusTCPClient κ → ModbusTCPClient κ) :
    clients.modify slot change slot = change (clients slot) := by
  simp [ClientTable.modify]

@[simp] theorem modify_elsewhere (clients : ClientTable κ) {slot other : Nat}
    (change : ModbusTCPClient κ → ModbusTCPClient κ) (apart : other ≠ slot) :
    clients.modify slot change other = clients other := by
  simp [ClientTable.modify, apart]

def FreeSlot (clients : ClientTable κ) (maxClients : UInt8) : Prop :=
  ∃ slot < maxClients.toNat, (clients slot).connected = 0

theorem freeSlot_of_length_lt (clients : ClientTable κ) (maxClients : UInt8) (held : List Nat)
    (covers : ∀ slot < maxClients.toNat, (clients slot).connected ≠ 0 → slot ∈ held)
    (fewer : held.length < maxClients.toNat) : FreeSlot clients maxClients := by
  by_contra none
  have included : List.range maxClients.toNat ⊆ held := by
    intro slot bound
    rw [List.mem_range] at bound
    exact covers slot bound fun free => none ⟨slot, bound, free⟩
  have length := (List.subperm_of_subset List.nodup_range included).length_le
  rw [List.length_range] at length
  omega

def modbusTcpFindFreeConnectionSlot (modbusTcpClients : ClientTable κ) (maxClients : UInt8) :
    Int16 :=
  ((List.range maxClients.toNat).find? fun i => (modbusTcpClients i).connected = 0).elim
    (-1) Int16.ofNat

/-- The search stored in the `uint16_t` of the accept loop: its −1 is entry 65535. -/
theorem connectionSlot_cases (clients : ClientTable κ) (maxClients : UInt8) :
    (∃ slot < maxClients.toNat, (clients slot).connected = 0 ∧
      (modbusTcpFindFreeConnectionSlot clients maxClients).toUInt16.toNat = slot) ∨
    (¬ FreeSlot clients maxClients ∧
      (modbusTcpFindFreeConnectionSlot clients maxClients).toUInt16.toNat = 65535) := by
  unfold modbusTcpFindFreeConnectionSlot
  cases search : (List.range maxClients.toNat).find? (fun i => (clients i).connected = 0) with
  | some slot =>
      left
      have bound : slot < maxClients.toNat := List.mem_range.mp (List.mem_of_find?_eq_some search)
      have small := maxClients.toNat_lt
      refine ⟨slot, bound, by simpa using List.find?_some search, ?_⟩
      rw [Option.elim_some, Int16.toUInt16_ofNat', UInt16.toNat_ofNat']
      omega
  | none =>
      right
      refine ⟨?_, rfl⟩
      intro ⟨slot, bound, free⟩
      have taken := List.find?_eq_none.mp search slot (List.mem_range.mpr bound)
      simp [free] at taken

/-! One iteration of the accept loop, and one connection that ends. -/

structure Server (κ : Type) where
  clients : ClientTable κ
  /-- The entries the running connection tasks were created with. -/
  live : List Nat
  closed : List Int

def Server.start (clients : ClientTable κ) : Server κ := ⟨clients, [], []⟩

def Server.lwipClose (socket : Int) (server : Server κ) : Server κ :=
  { server with closed := server.closed ++ [socket] }

def storeClient (slot : Nat) (clientSock tickCount : Int) (callbacks : κ)
    (clients : ClientTable κ) : ClientTable κ :=
  clients.modify slot (setConnected 1)
    |>.modify slot (setSocket clientSock)
    |>.modify slot (setTimeStart tickCount)
    |>.modify slot (setModbusCallbacks callbacks)

def clearClient (slot : Nat) (clients : ClientTable κ) : ClientTable κ :=
  clients.modify slot (setConnected 0)
    |>.modify slot (setSocket 0)
    |>.modify slot (setTimeStart 0)

def modbusTcpAccept (maxClients : UInt8) (callbacks : κ) (clientSock tickCount : Int)
    (server : Server κ) : Server κ :=
  if clientSock < 0 then server.lwipClose clientSock
  else
    let connectionSlot := (modbusTcpFindFreeConnectionSlot server.clients maxClients).toUInt16
    -- both sides of the comparison are promoted to `int`
    if (connectionSlot.toNat : Int) ≠ -1 then
      { server with
        clients := storeClient connectionSlot.toNat clientSock tickCount callbacks server.clients
        live := server.live ++ [connectionSlot.toNat] }
    else server.lwipClose clientSock

def modbusTcpConnectionEnd (task : Nat) (server : Server κ) : Server κ :=
  match server.live[task]? with
  | none => server
  | some slot =>
      { clients := clearClient slot server.clients
        live := server.live.eraseIdx task
        closed := server.closed ++ [(server.clients slot).socket] }

inductive ServerEvent where
  | accept (clientSock tickCount : Int)
  | connectionEnd (task : Nat)
  deriving DecidableEq, Repr

def serverStep (maxClients : UInt8) (callbacks : κ) (server : Server κ) :
    ServerEvent → Server κ
  | .accept clientSock tickCount => modbusTcpAccept maxClients callbacks clientSock tickCount server
  | .connectionEnd task => modbusTcpConnectionEnd task server

/-! The slot rule of one accepted client, and the state in which the code meets it. -/

structure ObeysSlotRule (maxClients : UInt8) (clientSock : Int) (before after : Server κ) :
    Prop where
  given_iff : (∃ slot, after.live = before.live ++ [slot]) ↔
    before.live.length < maxClients.toNat
  fresh : ∀ slot, after.live = before.live ++ [slot] → slot < maxClients.toNat ∧ slot ∉ before.live
  refused : before.live.length = maxClients.toNat →
    after.closed = before.closed ++ [clientSock] ∧ after.clients = before.clients

def AcceptObeysSlotRule (maxClients : UInt8) (callbacks : κ) (server : Server κ) :
    ServerEvent → Prop
  | .accept clientSock tickCount => 0 ≤ clientSock → ObeysSlotRule maxClients clientSock server
      (serverStep maxClients callbacks server (.accept clientSock tickCount))
  | .connectionEnd _ => True

def AcceptFindsFreeSlot (maxClients : UInt8) (server : Server κ) : ServerEvent → Prop
  | .accept clientSock _ => 0 ≤ clientSock → FreeSlot server.clients maxClients
  | .connectionEnd _ => True

structure LiveSlots (maxClients : UInt8) (server : Server κ) : Prop where
  nodup : server.live.Nodup
  bound : ∀ slot ∈ server.live, slot < maxClients.toNat
  connected : ∀ slot ∈ server.live, (server.clients slot).connected ≠ 0

/-- The accept loop never sees −1: every accepted client is stored and gets a task. -/
theorem accept_stores (maxClients : UInt8) (callbacks : κ) (clientSock tickCount : Int)
    (server : Server κ) (accepted : 0 ≤ clientSock) :
    modbusTcpAccept maxClients callbacks clientSock tickCount server =
      { server with
        clients := storeClient (modbusTcpFindFreeConnectionSlot server.clients maxClients).toUInt16.toNat
          clientSock tickCount callbacks server.clients
        live := server.live ++
          [(modbusTcpFindFreeConnectionSlot server.clients maxClients).toUInt16.toNat] } := by
  have unsigned (slot : UInt16) : (slot.toNat : Int) ≠ -1 := by omega
  simp only [modbusTcpAccept, Int.not_lt.mpr accepted, if_false, if_pos (unsigned _)]

theorem obeysSlotRule_iff (maxClients : UInt8) (callbacks : κ) (clientSock tickCount : Int)
    (server : Server κ) (slots : LiveSlots maxClients server) (accepted : 0 ≤ clientSock) :
    ObeysSlotRule maxClients clientSock server
        (modbusTcpAccept maxClients callbacks clientSock tickCount server) ↔
      FreeSlot server.clients maxClients := by
  rw [accept_stores maxClients callbacks clientSock tickCount server accepted]
  have small := maxClients.toNat_lt
  obtain ⟨slot, bound, free, found⟩ | ⟨full, found⟩ := connectionSlot_cases server.clients maxClients
  · rw [found]
    have fresh : slot ∉ server.live := fun taken => slots.connected slot taken free
    have room : server.live.length < maxClients.toNat := by
      have nodup : (slot :: server.live).Nodup := List.nodup_cons.mpr ⟨fresh, slots.nodup⟩
      have included : slot :: server.live ⊆ List.range maxClients.toNat := by
        intro taken member
        rcases List.mem_cons.mp member with rfl | member
        · exact List.mem_range.mpr bound
        · exact List.mem_range.mpr (slots.bound taken member)
      have length := (List.subperm_of_subset nodup included).length_le
      rw [List.length_cons, List.length_range] at length
      omega
    refine ⟨fun _ => ⟨slot, bound, free⟩, fun _ => ⟨?_, ?_, ?_⟩⟩
    · exact ⟨fun _ => room, fun _ => ⟨slot, rfl⟩⟩
    · intro given same
      have : given = slot := by simpa using same.symm
      exact this ▸ ⟨bound, fresh⟩
    · intro crowded
      omega
  · rw [found]
    constructor
    · intro rule
      have := (rule.fresh 65535 rfl).1
      omega
    · intro free
      exact absurd free full

@[simp] theorem storeClient_elsewhere (clients : ClientTable κ) {slot other : Nat}
    (clientSock tickCount : Int) (callbacks : κ) (apart : other ≠ slot) :
    storeClient slot clientSock tickCount callbacks clients other = clients other := by
  simp [storeClient, apart]

@[simp] theorem storeClient_here (clients : ClientTable κ) (slot : Nat)
    (clientSock tickCount : Int) (callbacks : κ) :
    storeClient slot clientSock tickCount callbacks clients slot =
      ⟨1, clientSock, tickCount, callbacks⟩ := by
  simp [storeClient, setConnected, setSocket, setTimeStart, setModbusCallbacks]

@[simp] theorem clearClient_elsewhere (clients : ClientTable κ) {slot other : Nat}
    (apart : other ≠ slot) : clearClient slot clients other = clients other := by
  simp [clearClient, apart]

theorem liveSlots_accept {maxClients : UInt8} (callbacks : κ) {clientSock : Int} (tickCount : Int)
    {server : Server κ} (slots : LiveSlots maxClients server)
    (free : 0 ≤ clientSock → FreeSlot server.clients maxClients) :
    LiveSlots maxClients (modbusTcpAccept maxClients callbacks clientSock tickCount server) := by
  by_cases accepted : 0 ≤ clientSock
  · rw [accept_stores maxClients callbacks clientSock tickCount server accepted]
    obtain ⟨slot, bound, unconnected, found⟩ | ⟨full, -⟩ :=
      connectionSlot_cases server.clients maxClients
    · rw [found]
      have fresh : slot ∉ server.live := fun taken => slots.connected slot taken unconnected
      refine ⟨?_, ?_, ?_⟩
      · rw [← List.concat_eq_append]
        exact List.Nodup.concat fresh slots.nodup
      · intro other member
        rcases List.mem_append.mp member with member | member
        · exact slots.bound other member
        · exact List.mem_singleton.mp member ▸ bound
      · intro other member
        by_cases same : other = slot
        · simp [same]
        · simp only [List.mem_append, List.mem_singleton, same, or_false] at member
          simpa [same] using slots.connected other member
    · exact absurd (free accepted) full
  · simp only [modbusTcpAccept, Int.not_le.mp accepted, if_true]
    exact ⟨slots.nodup, slots.bound, slots.connected⟩

theorem liveSlots_connectionEnd {maxClients : UInt8} (task : Nat) {server : Server κ}
    (slots : LiveSlots maxClients server) :
    LiveSlots maxClients (modbusTcpConnectionEnd task server) := by
  unfold modbusTcpConnectionEnd
  cases running : server.live[task]? with
  | none => exact slots
  | some slot =>
      have stays : ∀ other ∈ server.live.eraseIdx task, other ∈ server.live :=
        fun other => List.mem_of_mem_eraseIdx
      refine ⟨slots.nodup.eraseIdx task, fun other member => slots.bound other (stays other member), ?_⟩
      intro other member
      -- the entry that is cleared belonged to this task alone
      have apart : other ≠ slot := by
        rintro rfl
        obtain ⟨index, elsewhere, there⟩ := List.mem_eraseIdx_iff_getElem?.mp member
        have inBounds := (List.getElem?_eq_some_iff.mp there).1
        exact elsewhere ((List.getElem?_inj inBounds slots.nodup).mp (there.trans running.symm))
      simpa [apart] using slots.connected other (stays other member)

theorem liveSlots_step {maxClients : UInt8} (callbacks : κ) (server : Server κ)
    (event : ServerEvent) (slots : LiveSlots maxClients server)
    (free : AcceptFindsFreeSlot maxClients server event) :
    LiveSlots maxClients (serverStep maxClients callbacks server event) := by
  cases event with
  | accept clientSock tickCount => exact liveSlots_accept callbacks tickCount slots free
  | connectionEnd task => exact liveSlots_connectionEnd task slots

theorem liveSlots_start (maxClients : UInt8) (clients : ClientTable κ) :
    LiveSlots maxClients (Server.start clients) :=
  ⟨List.nodup_nil, by simp [Server.start], by simp [Server.start]⟩

/-- Every accept of a run obeys the slot rule exactly when every accept of it finds an entry
below `max_clients` whose `connected` is 0, whatever the table held at the start. -/
theorem accepts_obeySlotRule_iff (maxClients : UInt8) (callbacks : κ) (clients : ClientTable κ)
    (events : List ServerEvent) :
    Throughout (serverStep maxClients callbacks) (AcceptObeysSlotRule maxClients callbacks)
        (Server.start clients) events ↔
      Throughout (serverStep maxClients callbacks) (AcceptFindsFreeSlot maxClients)
        (Server.start clients) events := by
  refine throughout_congr ?_ (liveSlots_step callbacks) (liveSlots_start maxClients clients) events
  intro server event slots
  cases event with
  | accept clientSock tickCount =>
      exact forall_congr' (obeysSlotRule_iff maxClients callbacks clientSock tickCount server slots)
  | connectionEnd task => exact Iff.rfl

theorem secondClient_leavesTable :
    let server : Server Unit :=
      [.accept 3 0, .accept 4 0].foldl (serverStep 1 ()) (.start fun _ => ⟨0, 0, 0, ()⟩)
    server.live = [0, 65535] ∧ server.closed = [] ∧ (server.clients 65535).socket = 4 ∧
      ¬ Throughout (serverStep 1 ()) (AcceptObeysSlotRule 1 ())
        (.start fun _ => ⟨0, 0, 0, ()⟩) [.accept 3 0, .accept 4 0] := by
  refine ⟨by decide, by decide, by decide, ?_⟩
  rw [throughout_iff_split]
  intro obeys
  have rule := obeys [.accept 3 0] (.accept 4 0) [] rfl (by decide)
  have closed := (rule.refused (by decide)).1
  exact absurd closed (by decide)

end SpeFramework
