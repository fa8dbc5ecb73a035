import Ph5Firmware.Wire.Drain

/-!
# The clients of the WebSocket server

`AsyncWebSocket` keeps a list of its clients, oldest first.  `notifyClients` queues a status
message for every connected one; the main loop calls `cleanupClients`, which closes the first
of the list when more than eight are connected.

`history` and `heard` are no variables of the program: they record what has happened to a
client, and the status messages there were since it connected.

* `feed_delivered`: what a client is sent of the feed, over every run of the server.
* `cleanup_piles_up`: closing a client only queues a closing frame and leaves the client
  connected, so every iteration queues one more, and only acknowledgements take any away.
-/

namespace Ph5Firmware

/-- `DEFAULT_MAX_WS_CLIENTS` -/
def defaultMaxWsClients : ℕ := 8

/-- What a client's connection brings.  Control frames keep to the length the protocol
allows them. -/
inductive ClientEvent where
  | ping (payload : List UInt8) (fits : payload.length ≤ 125) (socket : Socket)
  | closing (data : List UInt8) (fits : data.length ≤ 125) (socket : Socket)
  | acked (len : UInt16) (socket : Socket)
  | poll (socket : Socket)

def ClientEvent.sent : ClientEvent → SenderEvent
  | ping payload _ socket => .control wsPong payload socket
  | closing data _ socket => .closing data socket
  | acked len socket => .acked len socket
  | poll socket => .poll socket

structure ServerClient where
  id : UInt32
  transmission : Transmission
  history : List SenderEvent
  heard : List (List UInt8)

namespace ServerClient

def new (id : UInt32) : ServerClient :=
  { id := id, transmission := .fresh, history := [], heard := [] }

def status (client : ServerClient) : AwsClientStatus :=
  client.transmission.sender.status

def step (client : ServerClient) (event : SenderEvent) : ServerClient :=
  { client with
    transmission := client.transmission.step event
    history := client.history ++ [event] }

/-- `client->binary(buffer)`, for a client that is connected. -/
def notify (data : List UInt8) (socket : Socket) (client : ServerClient) : ServerClient :=
  let client := { client with heard := client.heard ++ [data] }
  if client.status = .connected then client.step (.message wsBinary data socket) else client

end ServerClient

structure AsyncWebSocket where
  clients : List ServerClient
  nextId : UInt32

inductive ServerEvent where
  | connect
  /-- Something happens on the connection of one of the clients. -/
  | client (index : ℕ) (event : ClientEvent)
  /-- `_onDisconnect` of one of the clients: its connection has been closed, has broken off
  or has timed out. -/
  | disconnect (index : ℕ)
  /-- `notifyClients`, with what each client's connection answers -/
  | notifyClients (data : List UInt8) (sockets : ℕ → Socket)
  | cleanupClients (socket : Socket)

namespace AsyncWebSocket

def fresh : AsyncWebSocket :=
  { clients := [], nextId := 1 }

/-- `count` -/
def count (server : AsyncWebSocket) : ℕ :=
  server.clients.countP fun client => client.status == .connected

/-- `_handleDisconnect` -/
def handleDisconnect (client : ServerClient) (server : AsyncWebSocket) : AsyncWebSocket :=
  { server with clients := server.clients.eraseP fun other => other.id == client.id }

/-- A client whose handshake has ended closes its connection. -/
def replace (index : ℕ) (client : ServerClient) (server : AsyncWebSocket) : AsyncWebSocket :=
  if client.status = .disconnected then server.handleDisconnect client
  else { server with clients := server.clients.set index client }

def cleanupClients (socket : Socket) (server : AsyncWebSocket) : AsyncWebSocket :=
  if defaultMaxWsClients < server.count then
    match server.clients with
    | front :: rest => { server with clients := front.step (.close socket) :: rest }
    | [] => server
  else server

def step (server : AsyncWebSocket) : ServerEvent → AsyncWebSocket
  | .connect =>
      { clients := server.clients ++ [.new server.nextId], nextId := server.nextId + 1 }
  | .client index event =>
      match server.clients[index]? with
      | some client => server.replace index (client.step event.sent)
      | none => server
  | .disconnect index =>
      match server.clients[index]? with
      | some client => server.handleDisconnect client
      | none => server
  | .notifyClients data sockets =>
      { server with
        clients := server.clients.mapIdx fun index client => client.notify data (sockets index) }
  | .cleanupClients socket => server.cleanupClients socket

end AsyncWebSocket

/-! ## The feed -/

/-- The record of a client is right, and it has been given a part of the feed. -/
structure ServerClient.Tracked (client : ServerClient) : Prop where
  history : client.transmission = client.history.foldl Transmission.step .fresh
  messages : client.transmission.messages.Sublist
    (client.heard.map fun data => (wsBinary, data))

namespace ServerClient

theorem tracked_new (id : UInt32) : (new id).Tracked :=
  ⟨rfl, List.Sublist.refl _⟩

/-- What is not a message adds nothing to the messages. -/
theorem Tracked.step {client : ServerClient} (htracked : client.Tracked) {event : SenderEvent}
    (hnone : event.messages client.transmission.sender = []) : (client.step event).Tracked where
  history := by
    show client.transmission.step event = (client.history ++ [event]).foldl _ _
    rw [List.foldl_append, ← htracked.history]
    rfl
  messages := by
    have hsame : (client.transmission.step event).messages = client.transmission.messages := by
      unfold Transmission.step
      split_ifs
      · rfl
      · simp only [hnone, List.append_nil]
    show (client.transmission.step event).messages.Sublist _
    rw [hsame]
    exact htracked.messages

theorem Tracked.notify {client : ServerClient} (htracked : client.Tracked) (data : List UInt8)
    (socket : Socket) : (client.notify data socket).Tracked := by
  have hheard : (client.heard ++ [data]).map (fun data => (wsBinary, data)) =
      client.heard.map (fun data => (wsBinary, data)) ++ [(wsBinary, data)] := by simp
  unfold ServerClient.notify
  simp only
  split_ifs
  · refine ⟨?_, ?_⟩
    · show client.transmission.step _ = (client.history ++ [_]).foldl _ _
      rw [List.foldl_append, ← htracked.history]
      rfl
    · show (client.transmission.step _).messages.Sublist ((client.heard ++ [data]).map _)
      rw [hheard]
      unfold Transmission.step
      split_ifs
      · exact htracked.messages.trans (List.sublist_append_left _ _)
      · refine htracked.messages.append ?_
        unfold SenderEvent.messages
        simp only
        split_ifs
        · exact List.Sublist.refl _
        · exact List.nil_sublist _
  · refine ⟨htracked.history, ?_⟩
    show client.transmission.messages.Sublist ((client.heard ++ [data]).map _)
    rw [hheard]
    exact htracked.messages.trans (List.sublist_append_left _ _)

end ServerClient

namespace AsyncWebSocket

theorem messages_sent (event : ClientEvent) (sender : Sender) :
    event.sent.messages sender = [] := by
  cases event <;> rfl

theorem tracked_step {server : AsyncWebSocket}
    (htracked : ∀ client ∈ server.clients, client.Tracked) (event : ServerEvent) :
    ∀ client ∈ (server.step event).clients, client.Tracked := by
  cases event with
  | connect =>
      intro client hclient
      rcases List.mem_append.mp hclient with hbefore | hnew
      · exact htracked client hbefore
      · rw [List.mem_singleton.mp hnew]
        exact ServerClient.tracked_new _
  | client index event =>
      intro client hclient
      unfold AsyncWebSocket.step at hclient
      cases hindex : server.clients[index]? with
      | none =>
          simp only [hindex] at hclient
          exact htracked client hclient
      | some changed =>
          simp only [hindex] at hclient
          have hbefore := htracked changed (List.mem_of_getElem? hindex)
          have hchanged := hbefore.step (messages_sent event changed.transmission.sender)
          unfold replace at hclient
          split_ifs at hclient
          · exact htracked client (List.mem_of_mem_eraseP hclient)
          · rcases List.mem_or_eq_of_mem_set hclient with hother | rfl
            · exact htracked client hother
            · exact hchanged
  | disconnect index =>
      intro client hclient
      unfold AsyncWebSocket.step at hclient
      cases hindex : server.clients[index]? with
      | none =>
          simp only [hindex] at hclient
          exact htracked client hclient
      | some gone =>
          simp only [hindex] at hclient
          exact htracked client (List.mem_of_mem_eraseP hclient)
  | notifyClients data sockets =>
      intro client hclient
      obtain ⟨index, hindex, rfl⟩ := List.mem_mapIdx.mp hclient
      exact (htracked _ (List.getElem_mem hindex)).notify data (sockets index)
  | cleanupClients socket =>
      intro client hclient
      cases hclients : server.clients with
      | nil =>
          simp only [AsyncWebSocket.step, cleanupClients, hclients, ite_self] at hclient
          exact htracked client (hclients ▸ hclient)
      | cons front rest =>
          simp only [AsyncWebSocket.step, cleanupClients, hclients] at hclient
          split_ifs at hclient
          · rcases List.mem_cons.mp hclient with rfl | hother
            · exact (htracked front (by rw [hclients]; exact List.mem_cons_self)).step rfl
            · exact htracked client (by rw [hclients]; exact List.mem_cons_of_mem _ hother)
          · exact htracked client hclient

theorem tracked_run (events : List ServerEvent) :
    ∀ client ∈ (events.foldl step fresh).clients, client.Tracked := by
  have hrun : ∀ server : AsyncWebSocket, (∀ client ∈ server.clients, client.Tracked) →
      ∀ client ∈ (events.foldl step server).clients, client.Tracked := by
    induction events with
    | nil => exact fun _ htracked => htracked
    | cons event rest ih =>
        intro server htracked
        exact ih (server.step event) (tracked_step htracked event)
  exact hrun fresh fun client hclient => absurd hclient List.not_mem_nil

/-- **The feed, for each client.** In every run of the server, what a client whose own history
is orderly has on its wire are frames, and the messages in them are status messages there have
been since it connected: none twice, none out of order, and none of another kind. -/
theorem feed_delivered (events : List ServerEvent) {client : ServerClient}
    (hclient : client ∈ (events.foldl step fresh).clients)
    (hallowed : Run.Along Transmission.step Transmission.Allowed .fresh client.history) :
    ∃ (frames : List WireFrame) (done : List (UInt8 × List UInt8))
        (current : Option (UInt8 × List UInt8)),
      client.transmission.sender.wire = frames.flatMap WireFrame.bytes ∧
        Reassembly.reassemble (frames.filterMap WireFrame.fragment) = some ⟨done, current⟩ ∧
        done.Sublist (client.heard.map fun data => (wsBinary, data)) := by
  obtain ⟨hhistory, hmessages⟩ := tracked_run events client hclient
  obtain ⟨frames, hcarries⟩ := Transmission.transmission_carries hallowed
  rw [← hhistory] at hcarries
  obtain ⟨done, hinbox, hdone⟩ := hcarries.inbox
  refine ⟨frames, done, _, hcarries.wire, hinbox, ?_⟩
  refine List.Sublist.trans ?_ hmessages
  rw [hdone]
  exact List.sublist_append_left _ _

/-- Two status messages, the first of them acknowledged, to the second of two clients. -/
def feedRun : List ServerEvent :=
  [.connect, .connect, .notifyClients [9, 8] fun _ => .roomy, .client 1 (.acked 4 .roomy),
    .notifyClients [7] fun _ => .roomy]

theorem feedRun_delivered :
    ∃ (frames : List WireFrame) (done : List (UInt8 × List UInt8))
        (current : Option (UInt8 × List UInt8)),
      ((feedRun.foldl step fresh).clients.get ⟨1, by decide⟩).transmission.sender.wire =
          frames.flatMap WireFrame.bytes ∧
        Reassembly.reassemble (frames.filterMap WireFrame.fragment) = some ⟨done, current⟩ ∧
        done.Sublist (((feedRun.foldl step fresh).clients.get ⟨1, by decide⟩).heard.map
          fun data => (wsBinary, data)) :=
  feed_delivered feedRun (List.get_mem _ _) (by decide)

end AsyncWebSocket

/-! ## Too many clients -/

/-- How many closing frames the server queues with this event. -/
def SenderEvent.closes : SenderEvent → ℕ
  | .close _ => 1
  | _ => 0

def SenderEvent.acks : SenderEvent → ℕ
  | .acked _ _ => 1
  | _ => 0

def ServerEvent.cleanups : ServerEvent → ℕ
  | .cleanupClients _ => 1
  | _ => 0

/-- Acknowledgements of the first client in the list. -/
def ServerEvent.frontAcks : ServerEvent → ℕ
  | .client 0 event => event.sent.acks
  | _ => 0

namespace Sender

theorem length_runQueue (socket : Socket) (sender : Sender) :
    (sender.runQueue socket).controlQueue.length = sender.controlQueue.length := by
  have hcontrol : ∀ sender : Sender,
      (sender.sendControl socket).controlQueue.length = sender.controlQueue.length := by
    intro sender
    unfold sendControl
    cases hqueue : sender.controlQueue with
    | nil => rw [hqueue]
    | cons control rest => rfl
  have hmessage : ∀ sender : Sender,
      (sender.sendMessage socket).controlQueue = sender.controlQueue := by
    intro sender
    unfold sendMessage
    cases sender.messageQueue with
    | nil => rfl
    | cons message rest =>
        simp only
        split_ifs <;> rfl
  unfold runQueue
  simp only
  split_ifs
  · exact hcontrol sender.dropFinished
  · rw [hmessage]
    rfl

theorem length_runIf (enabled : Bool) (socket : Socket) (sender : Sender) :
    (sender.runIf enabled socket).controlQueue.length = sender.controlQueue.length := by
  unfold runIf
  split_ifs
  · exact sender.length_runQueue socket
  · rfl

/-- A connected client is given one more control frame by `close`, and loses at most one by an
acknowledgement. -/
theorem length_step {sender : Sender} (hconnected : sender.status = .connected)
    (event : SenderEvent) :
    sender.controlQueue.length + event.closes ≤
      (sender.step event).controlQueue.length + event.acks := by
  unfold step
  rw [if_neg (by rw [hconnected]; decide)]
  have hqueued : ∀ (sender : Sender) (control : AsyncWebSocketControl) (socket : Socket),
      (sender.queueControl control socket).controlQueue.length =
        sender.controlQueue.length + 1 := by
    intro sender control socket
    unfold queueControl
    rw [length_runIf, List.length_append, List.length_singleton]
  cases event with
  | message opcode data socket =>
      simp only
      unfold queueMessage
      split_ifs
      · exact le_rfl
      · rw [length_runIf]
        exact le_rfl
      · rw [length_runIf]
        exact le_rfl
  | control opcode data socket =>
      simp only [hqueued]
      exact Nat.le_succ _
  | close socket =>
      simp only [hconnected, if_true, hqueued]
      exact le_rfl
  | closing data socket =>
      simp only [hconnected, reduceCtorEq, if_false, hqueued]
      exact Nat.le_succ _
  | acked len socket =>
      simp only
      unfold onAck
      cases hqueue : sender.controlQueue with
      | nil => exact Nat.zero_le _
      | cons control rest =>
          simp only
          split_ifs
          · exact le_rfl
          · rw [length_runQueue, (Transmission.acknowledgeFront_fields _ _).1]
            exact le_rfl
          · rw [length_runQueue, (Transmission.acknowledgeFront_fields _ _).1, hqueue]
            exact Nat.le_succ _
  | poll socket =>
      simp only
      unfold onPoll
      rw [length_runIf]
      exact le_rfl

end Sender

namespace AsyncWebSocket

/-- The control frames queued for the first client of the list. -/
def frontControls (server : AsyncWebSocket) : ℕ :=
  (server.clients.head?.map fun front => front.transmission.sender.controlQueue.length).getD 0

/-- The first client of the list is connected and stays in it, and the server is cleaned up
with more than eight connected. -/
def crowded (server : AsyncWebSocket) (event : ServerEvent) : Bool :=
  server.clients.head?.any (fun front => front.status == .connected) &&
    match event with
    | .client index event =>
        server.clients[index]?.all fun client =>
          (client.step event.sent).status != .disconnected ||
            server.clients.head?.all fun front => front.id != client.id
    | .disconnect index =>
        server.clients[index]?.all fun client =>
          server.clients.head?.all fun front => front.id != client.id
    | .cleanupClients _ => decide (defaultMaxWsClients < server.count)
    | .connect | .notifyClients _ _ => true

theorem length_client_step {client : ServerClient} (hconnected : client.status = .connected)
    (event : SenderEvent) :
    client.transmission.sender.controlQueue.length + event.closes ≤
      (client.step event).transmission.sender.controlQueue.length + event.acks := by
  have hopen : ¬ client.transmission.sender.status = .disconnected := by
    intro hclosed
    rw [ServerClient.status, hclosed] at hconnected
    cases hconnected
  unfold ServerClient.step Transmission.step
  simp only [if_neg hopen]
  exact Sender.length_step hconnected event

/-- Another client's connection is gone. -/
theorem clients_handleDisconnect {server : AsyncWebSocket} {front client : ServerClient}
    {rest : List ServerClient} (hclients : server.clients = front :: rest)
    (hother : ¬ front.id = client.id) :
    ∃ tail, (server.handleDisconnect client).clients = front :: tail := by
  refine ⟨rest.eraseP fun other => other.id == client.id, ?_⟩
  unfold handleDisconnect
  simp [hclients, hother]

theorem frontControls_step {server : AsyncWebSocket} {event : ServerEvent}
    (hcrowded : server.crowded event = true) :
    server.frontControls + event.cleanups ≤
      (server.step event).frontControls + event.frontAcks := by
  obtain ⟨hfront, hevent⟩ := Bool.and_eq_true_iff.mp hcrowded
  cases hclients : server.clients with
  | nil => simp [hclients] at hfront
  | cons front rest =>
      have hconnected : front.status = .connected := by
        simpa [hclients] using hfront
      have hcontrols : ∀ (other : AsyncWebSocket) (tail : List ServerClient) (first : ServerClient),
          other.clients = first :: tail →
            other.frontControls = first.transmission.sender.controlQueue.length := by
        intro other tail first hother
        unfold frontControls
        rw [hother]
        rfl
      rw [hcontrols server rest front hclients]
      cases event with
      | connect =>
          have hnext : (server.step .connect).clients =
              front :: (rest ++ [.new server.nextId]) := by
            simp only [AsyncWebSocket.step, hclients, List.cons_append]
          rw [hcontrols _ _ _ hnext]
          exact le_rfl
      | disconnect index =>
          have hnext : ∃ tail, (server.step (.disconnect index)).clients = front :: tail := by
            cases hindex : server.clients[index]? with
            | none =>
                simp only [AsyncWebSocket.step, hindex]
                exact ⟨rest, hclients⟩
            | some client =>
                -- it is not the front client that goes
                have hother : ¬ front.id = client.id := by
                  rw [hclients] at hindex
                  simpa [hclients, hindex] using hevent
                simp only [AsyncWebSocket.step, hindex]
                exact clients_handleDisconnect hclients hother
          obtain ⟨tail, hnext⟩ := hnext
          rw [hcontrols _ _ _ hnext]
          exact le_rfl
      | notifyClients data sockets =>
          have hnext : (server.step (.notifyClients data sockets)).clients =
              front.notify data (sockets 0) ::
                rest.mapIdx fun index client => client.notify data (sockets (index + 1)) := by
            simp only [AsyncWebSocket.step, hclients, List.mapIdx_cons]
          have hgiven : front.notify data (sockets 0) = ServerClient.step
              { front with heard := front.heard ++ [data] }
              (.message wsBinary data (sockets 0)) := if_pos hconnected
          rw [hcontrols _ _ _ hnext, hgiven]
          exact length_client_step hconnected (.message wsBinary data (sockets 0))
      | cleanupClients socket =>
          have hmany : defaultMaxWsClients < server.count := of_decide_eq_true hevent
          have hnext : (server.step (.cleanupClients socket)).clients =
              front.step (.close socket) :: rest := by
            simp only [AsyncWebSocket.step, cleanupClients, if_pos hmany, hclients]
          rw [hcontrols _ _ _ hnext]
          exact length_client_step hconnected (.close socket)
      | client index event =>
          cases index with
          | zero =>
              -- a crowded server keeps its front client
              have hstays : ¬ (front.step event.sent).status = .disconnected := by
                simpa [hclients] using hevent
              have hnext : (server.step (.client 0 event)).clients =
                  front.step event.sent :: rest := by
                simp only [AsyncWebSocket.step, hclients, List.getElem?_cons_zero, replace,
                  if_neg hstays, List.set_cons_zero]
              have hlength := length_client_step hconnected event.sent
              rw [hcontrols _ _ _ hnext]
              exact (Nat.le_add_right _ _).trans hlength
          | succ index =>
              have hnext : ∃ tail, (server.step (.client (index + 1) event)).clients =
                  front :: tail := by
                simp only [AsyncWebSocket.step, hclients, List.getElem?_cons_succ]
                cases hother : rest[index]? with
                | none => exact ⟨rest, hclients⟩
                | some other =>
                    simp only [replace, hclients]
                    split_ifs with hgone
                    · have hothers : ¬ front.id = other.id := by
                        simpa [hclients, hother, hgone] using hevent
                      exact clients_handleDisconnect hclients hothers
                    · exact ⟨_, rfl⟩
              obtain ⟨tail, hnext⟩ := hnext
              rw [hcontrols _ _ _ hnext]
              exact le_rfl

/-- **Closing frames pile up.** Along every run in which the server is cleaned up with more than
eight clients connected, the first of them among these, each cleaning-up queues one more closing
frame for it, and only an acknowledgement it sends takes one away. -/
theorem cleanup_piles_up {server : AsyncWebSocket} {events : List ServerEvent}
    (hcrowded : Run.Along step (fun server event => server.crowded event = true) server events) :
    server.frontControls + (events.map ServerEvent.cleanups).sum ≤
      (events.foldl step server).frontControls + (events.map ServerEvent.frontAcks).sum := by
  induction events generalizing server with
  | nil => exact le_rfl
  | cons event rest ih =>
      obtain ⟨hevent, hrest⟩ := hcrowded
      have hstep := frontControls_step hevent
      have hlater := ih hrest
      rw [List.map_cons, List.map_cons, List.sum_cons, List.sum_cons, List.foldl_cons]
      omega

/-- Nine clients that never answer. -/
def nineClients : AsyncWebSocket :=
  (List.replicate 9 .connect).foldl step fresh

def threeIterations : List ServerEvent :=
  List.replicate 3 (.cleanupClients .full)

theorem nineClients_pile_up :
    nineClients.frontControls + (threeIterations.map ServerEvent.cleanups).sum ≤
      (threeIterations.foldl step nineClients).frontControls +
        (threeIterations.map ServerEvent.frontAcks).sum :=
  cleanup_piles_up (by decide)

end AsyncWebSocket

end Ph5Firmware
