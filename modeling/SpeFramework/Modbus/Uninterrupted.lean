import SpeFramework.Modbus.ClientTasks

/-!
Each event of the server is an uninterrupted run of the steps behind it, so that the server's
runs are the interleavings in which nobody is preempted.
-/

namespace SpeFramework

open Runs ModbusTCPClient

variable {κ : Type} (maxClients : UInt8) (callbacks : κ)

def System.server (system : System κ) : Server κ where
  clients := system.clients
  live := heldSlots system.tasks
  closed := (system.uses.filter (·.operation = .close)).map (·.socket)

structure Settled (system : System κ) : Prop where
  accepting : system.acceptLoop = .accept
  receiving : ∀ task ∈ system.tasks, task.pc.holds → task.pc = .receive 0

theorem search_uninterrupted (clientSock result tickCount : Int) (system : System κ) :
    ∀ remaining i, i + remaining = maxClients.toNat → ∃ count,
      (List.replicate count (.acceptLoop result tickCount)).foldl (systemStep maxClients callbacks)
          (system.goTo (.search clientSock i)) =
        system.goTo (slotFound clientSock
          (((List.range' i remaining).find? fun i => (system.clients i).connected = 0).elim
            (-1) Int16.ofNat)) := by
  intro remaining
  induction remaining with
  | zero =>
      intro i whole
      have past : ¬ i < maxClients.toNat := by omega
      exact ⟨1, by simp [systemStep, acceptLoopStep, System.goTo, past]⟩
  | succ remaining ih =>
      intro i whole
      have below : i < maxClients.toNat := by omega
      by_cases stops : (system.clients i).connected = 0
      · exact ⟨1, by simp [systemStep, acceptLoopStep, System.goTo, below, stops, List.range'_succ]⟩
      · obtain ⟨count, run⟩ := ih (i + 1) (by omega)
        refine ⟨count + 1, ?_⟩
        have passed : systemStep maxClients callbacks (system.goTo (.search clientSock i))
            (.acceptLoop result tickCount) = system.goTo (.search clientSock (i + 1)) := by
          simp [systemStep, acceptLoopStep, System.goTo, below, stops]
        rw [List.replicate_succ, List.foldl_cons, passed, run, List.range'_succ]
        simp [stops]

theorem store_uninterrupted (clientSock result tickCount : Int) (slot : Nat) (system : System κ) :
    (List.replicate 5 (.acceptLoop result tickCount)).foldl (systemStep maxClients callbacks)
        (system.goTo (.setConnected clientSock slot)) =
      { system with
        clients := storeClient slot clientSock tickCount callbacks system.clients
        acceptLoop := .accept
        tasks := system.tasks ++ [⟨slot, clientSock, .receive 0⟩] } := by
  simp [List.replicate, systemStep, acceptLoopStep, System.goTo, System.change, storeClient]

theorem accept_uninterrupted {system : System κ} (settled : Settled system)
    (clientSock tickCount : Int) : ∃ actions : List Action,
      Settled (actions.foldl (systemStep maxClients callbacks) system) ∧
      (actions.foldl (systemStep maxClients callbacks) system).server =
        modbusTcpAccept maxClients callbacks clientSock tickCount system.server := by
  have accepting := settled.accepting
  by_cases failed : clientSock < 0
  · refine ⟨[.acceptLoop clientSock tickCount], ?_⟩
    have refused : systemStep maxClients callbacks system (.acceptLoop clientSock tickCount) =
        system.use .close clientSock clientSock := by
      simp [systemStep, acceptLoopStep, accepting, failed]
    rw [List.foldl_cons, List.foldl_nil, refused]
    refine ⟨⟨accepting, settled.receiving⟩, ?_⟩
    simp [System.server, System.use, modbusTcpAccept, failed, Server.lwipClose]
  · obtain ⟨count, run⟩ := search_uninterrupted maxClients callbacks clientSock clientSock
      tickCount system maxClients.toNat 0 (Nat.zero_add _)
    rw [← List.range_eq_range', slotFound_eq] at run
    have accepted : systemStep maxClients callbacks system (.acceptLoop clientSock tickCount) =
        system.goTo (.search clientSock 0) := by
      simp [systemStep, acceptLoopStep, accepting, failed]
    refine ⟨.acceptLoop clientSock tickCount :: List.replicate count (.acceptLoop clientSock tickCount)
      ++ List.replicate 5 (.acceptLoop clientSock tickCount), ?_⟩
    rw [List.foldl_append, List.foldl_cons, accepted, run, store_uninterrupted]
    constructor
    · refine ⟨rfl, fun task member holds => ?_⟩
      rcases List.mem_append.mp member with member | member
      · exact settled.receiving task member holds
      · exact List.mem_singleton.mp member ▸ rfl
    · rw [accept_stores _ _ _ _ _ (Int.not_lt.mp failed)]
      simp only [System.server, modbusTcpFindFreeConnectionSlot, heldSlots_append, heldSlots_cons,
        heldSlots_nil, TaskPc.holds, if_true, List.append_nil]
      rfl

theorem heldSlots_split {slot : Nat} :
    ∀ {tasks : List ConnectionTask} {place : Nat}, (heldSlots tasks)[place]? = some slot →
      ∃ before task after, tasks = before ++ task :: after ∧ task.pc.holds = true ∧
        task.slot = slot ∧ (heldSlots before).length = place := by
  intro tasks
  induction tasks with
  | nil => intro place there; simp at there
  | cons first tasks ih =>
      intro place there
      by_cases holds : first.pc.holds = true
      · cases place with
        | zero =>
            refine ⟨[], first, tasks, rfl, holds, ?_, rfl⟩
            simpa [holds] using there
        | succ place =>
            obtain ⟨before, task, after, rfl, held, same, length⟩ :=
              ih (by simpa [holds] using there)
            exact ⟨first :: before, task, after, rfl, held, same, by simp [holds, length]⟩
      · obtain ⟨before, task, after, rfl, held, same, length⟩ :=
          ih (by simpa [holds] using there)
        exact ⟨first :: before, task, after, rfl, held, same, by simpa [holds] using length⟩

theorem cleanup_uninterrupted {system : System κ} {before after : List ConnectionTask}
    {task : ConnectionTask} (split : system.tasks = before ++ task :: after)
    (receiving : task.pc = .receive 0) :
    (List.replicate 5 (.task before.length 0 false 0)).foldl (systemStep maxClients callbacks) system =
      { system with
        clients := clearClient task.slot system.clients
        tasks := before ++ { task with pc := .deleted } :: after
        uses := system.uses ++ [⟨.recv, task.accepted, (system.clients task.slot).socket⟩,
          ⟨.close, task.accepted, (system.clients task.slot).socket⟩] } := by
  obtain ⟨clients, acceptLoop, tasks, uses⟩ := system
  obtain ⟨slot, accepted, pc⟩ := task
  obtain rfl := receiving
  obtain rfl := split
  simp [List.replicate, systemStep, taskStep, System.putTask, System.use, System.change, clearClient,
    modbusTcpCloseConnection]

theorem connectionEnd_uninterrupted {system : System κ} (settled : Settled system) (place : Nat) :
    ∃ actions : List Action,
      Settled (actions.foldl (systemStep maxClients callbacks) system) ∧
      (actions.foldl (systemStep maxClients callbacks) system).server =
        modbusTcpConnectionEnd place system.server := by
  cases there : (heldSlots system.tasks)[place]? with
  | none => exact ⟨[], settled, by simp [modbusTcpConnectionEnd, System.server, there]⟩
  | some slot =>
      obtain ⟨before, task, after, split, holds, rfl, length⟩ := heldSlots_split there
      have member : task ∈ system.tasks := by simp [split]
      have run := cleanup_uninterrupted maxClients callbacks split (settled.receiving task member holds)
      refine ⟨List.replicate 5 (.task before.length 0 false 0), ?_⟩
      rw [run]
      constructor
      · refine ⟨settled.accepting, fun other member holds => ?_⟩
        simp only [List.mem_append, List.mem_cons] at member
        rcases member with member | rfl | member
        · exact settled.receiving other (by simp [split, member]) holds
        · simp [TaskPc.holds] at holds
        · exact settled.receiving other (by simp [split, member]) holds
      · simp only [modbusTcpConnectionEnd, System.server, there]
        simp [split, holds, ← length, List.eraseIdx_append_of_length_le]

/-- Every run of the server is what some interleaving of its tasks does to the table, to the
slots in use and to the sockets closed. -/
theorem serverRun_uninterrupted (clients : ClientTable κ) (events : List ServerEvent) :
    ∃ actions : List Action,
      (actions.foldl (systemStep maxClients callbacks) (System.start clients)).server =
        events.foldl (serverStep maxClients callbacks) (Server.start clients) := by
  suffices runs : ∀ system : System κ, Settled system → ∃ actions : List Action,
      (actions.foldl (systemStep maxClients callbacks) system).server =
        events.foldl (serverStep maxClients callbacks) system.server from
    runs (System.start clients) ⟨rfl, by simp [System.start]⟩
  induction events with
  | nil => exact fun system _ => ⟨[], rfl⟩
  | cons event events ih =>
      intro system settled
      obtain ⟨first, settledNext, same⟩ : ∃ actions : List Action,
          Settled (actions.foldl (systemStep maxClients callbacks) system) ∧
          (actions.foldl (systemStep maxClients callbacks) system).server =
            serverStep maxClients callbacks system.server event := by
        cases event with
        | accept clientSock tickCount =>
            exact accept_uninterrupted maxClients callbacks settled clientSock tickCount
        | connectionEnd place =>
            exact connectionEnd_uninterrupted maxClients callbacks settled place
      obtain ⟨later, rest⟩ := ih _ settledNext
      exact ⟨first ++ later, by rw [List.foldl_append, rest, same, List.foldl_cons]⟩

end SpeFramework
