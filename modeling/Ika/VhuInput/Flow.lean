import Ika.VhuInput.EventSource
import Mathlib.Data.List.Nodup
import Mathlib.Data.List.Perm.Subperm

/-! What reaches the guest and the clients while the guest sends no status to a client. -/

set_option autoImplicit false

namespace Ika.VhuInput

open List Function Nat

/-- Every group of events fits the reader's buffer: a report is among any 1024 events. -/
def Fits (bytes : List UInt8) : Prop :=
  ∀ first, VIRTIO_INPUT_EVENT_SIZE * first + BUFFER_SIZE ≤ bytes.length →
    ∃ event, first ≤ event ∧ IsReport bytes event ∧
      VIRTIO_INPUT_EVENT_SIZE * (event + 1) ≤ VIRTIO_INPUT_EVENT_SIZE * first + BUFFER_SIZE

def Server.inHand : Server → List UInt8
  | .appending bytes _ => bytes
  | _ => []

def Server.ready : Server → List Nat
  | .handling ready => ready
  | .taking ready => ready
  | .appending _ ready => ready
  | .notifying ready => ready
  | .panicked => []

def Server.isNotifying : Server → Bool
  | .notifying _ => true
  | _ => false

def Server.isTaking : Server → Bool
  | .taking _ => true
  | _ => false

namespace State

variable (state : State)

def consumed (id : Nat) : List UInt8 :=
  ((state.log.filter fun entry => entry.1 = id).map Prod.snd).flatten

def passed : List UInt8 := (state.log.map Prod.snd).flatten

/-- Whole groups are passed on once and in order, and the status goes to the clients. -/
structure Faithful : Prop where
  flow : state.guest ++ state.event_queue ++ state.cells .eventBytes ++ state.server.inHand =
    state.passed
  groups : ∀ entry ∈ state.log, WholeGroups entry.2
  streams : ∀ id, ∃ rest, Unfinished rest ∧
    (state.sockets id).sent = state.consumed id ++ rest ++ (state.sockets id).inbound
  served : ∀ id, (state.sockets id).inbound ≠ [] →
    id ∈ state.backlog ∨ id ∈ state.clients.map Client.socket
  delivered : state.server = .handling [] → state.device = .idle → state.toDevice = 0 →
    state.kicked = false → state.avail ≠ [] → state.guest = state.passed
  status : ∀ id, (state.sockets id).outbound.Sublist (state.sockets id).due
  statusWhole : ∀ id, (state.sockets id).lagging = false →
    (state.sockets id).outbound = (state.sockets id).due
  fed : state.server = .handling [] → state.device = .idle → state.toServer = 0 →
    state.statusKicked = false → state.owed = [] ∧ state.statusAvail = []
  calm : state.server ≠ .panicked

/-! ## The invariant -/

/-- What the parts of the system keep while they run. -/
structure Kept : Prop where
  flow : state.guest ++ state.event_queue ++ state.cells .eventBytes ++ state.server.inHand =
    state.passed
  groups : ∀ entry ∈ state.log, WholeGroups entry.2
  streams : ∀ id, ∃ rest, Unfinished rest ∧
    (state.sockets id).sent = state.consumed id ++ rest ++ (state.sockets id).inbound
  served : ∀ id, (state.sockets id).inbound ≠ [] →
    id ∈ state.backlog ∨ id ∈ state.clients.map Client.socket
  readers : ∀ client ∈ state.clients, Unfinished client.reader.buffer ∧
    (state.sockets client.socket).sent = state.consumed client.socket ++ client.reader.buffer ++
      (state.sockets client.socket).inbound
  waiting : ∀ id, id ∈ state.backlog ∨ state.connected ≤ id → state.consumed id = [] ∧
    (state.sockets id).sent = (state.sockets id).inbound
  alive : ∀ id, id < state.connected → (state.sockets id).shut = false →
    id ∈ state.backlog ∨ id ∈ state.clients.map Client.socket
  owners : (state.clients.map Client.socket ++ state.backlog).Nodup
  known : ∀ id ∈ state.clients.map Client.socket ++ state.backlog, id < state.connected
  tokens : (state.clients.map Client.token).Nodup
  clientTokens : ∀ client ∈ state.clients, FIRST_CLIENT_TOKEN ≤ client.token
  ready : ∀ token ∈ state.server.ready, state.isReady token = true
  distinct : state.server.ready.Nodup
  fits : ∀ id, Fits (state.sockets id).sent
  status : ∀ id, (state.sockets id).outbound = (state.sockets id).due
  wakes : state.cells .eventBytes ≠ [] →
    0 < state.toDevice ∨ state.device = .taking ∨ state.server.isNotifying = true
  owes : state.owed ≠ [] →
    0 < state.toServer ∨ state.device = .notifying ∨ state.server.isTaking = true
  pending : state.device = .idle ∨ state.device = .feeding ∨ state.device = .notifying →
    state.event_queue ≠ [] → state.suppressed = false ∧ (state.avail ≠ [] → state.kicked = true)
  feeds : state.device ≠ .feeding → state.device ≠ .notifying →
    state.statusSuppressed = false ∧ (state.statusAvail ≠ [] → state.statusKicked = true)
  unmapped : state.mem = false →
    state.avail = [] ∧ state.statusAvail = [] ∧ state.suppressed = false
  calm : state.server ≠ .panicked

variable {state} {after : State}

theorem Kept.faithful (kept : state.Kept) : state.Faithful := by
  refine ⟨kept.flow, kept.groups, kept.streams, kept.served, ?_, ?_, fun id _ => kept.status id, ?_,
    kept.calm⟩
  · intro server device notified kicked posted
    have flow := kept.flow
    have events : state.cells .eventBytes = [] := by
      by_contra some
      rcases kept.wakes some with waiting | taking | notifying
      · omega
      · cases device.symm.trans taking
      · rw [server] at notifying
        cases notifying
    have queue : state.event_queue = [] := by
      by_contra some
      have := (kept.pending (.inl device) some).2 posted
      cases kicked.symm.trans this
    simpa [events, queue, server, Server.inHand] using flow
  · intro id
    rw [kept.status id]
  · intro server device notified kicked
    constructor
    · by_contra some
      rcases kept.owes some with waiting | notifying | taking
      · omega
      · cases device.symm.trans notifying
      · rw [server] at taking
        cases taking
    · by_contra some
      have := (kept.feeds (by simp [device]) (by simp [device])).2 some
      cases kicked.symm.trans this

variable {bytes : List UInt8} {token : Nat} {client : Client}

theorem setCell_self {cell : Cell} : (state.setCell cell bytes).cells cell = bytes := if_pos rfl

/-! ## Readiness -/

theorem client?_some (found : state.client? token = some client) :
    client ∈ state.clients ∧ client.token = token := by
  have key := find?_some found
  exact ⟨mem_of_find?_eq_some found, of_decide_eq_true key⟩

theorem client?_setReader {changed : Nat} {client : Client} {reader : EventReader}
    (found : state.client? token = some client) (differ : token ≠ changed) :
    (state.setReader changed reader).find? (fun client => client.token = token) = some client := by
  have key : ((fun client : Client => decide (client.token = token)) ∘ fun client : Client =>
      if client.token = changed then {client with reader} else client) =
      fun client => decide (client.token = token) := by
    funext client
    simp only [comp_apply]
    split <;> rfl
  have other : client.token ≠ changed := (client?_some found).2 ▸ differ
  unfold setReader
  rw [find?_map, key]
  change Option.map _ (state.client? token) = _
  rw [found, Option.map_some, if_neg other]

theorem client?_filter {removed : Nat} {client : Client}
    (found : state.client? token = some client) (differ : token ≠ removed) :
    (state.clients.filter fun client => client.token ≠ removed).find?
      (fun client => client.token = token) = some client := by
  have key : (fun client : Client => decide (client.token ≠ removed ∧ client.token = token)) =
      fun client => decide (client.token = token) := by
    funext client
    refine decide_eq_decide.mpr ⟨And.right, fun same => ⟨same ▸ differ, same⟩⟩
  rw [find?_filter]
  simp only [decide_eq_true_eq]
  rw [key]
  exact found

theorem isReady_client (first : FIRST_CLIENT_TOKEN ≤ token) :
    state.isReady token = true ↔ ∃ client, state.client? token = some client ∧
      ((state.sockets client.socket).inbound ≠ [] ∨ (state.sockets client.socket).shut = true) := by
  have server : token ≠ SERVER_TOKEN := by
    unfold FIRST_CLIENT_TOKEN at first
    unfold SERVER_TOKEN
    omega
  have event : token ≠ EVENT_TOKEN := by
    unfold FIRST_CLIENT_TOKEN at first
    unfold EVENT_TOKEN
    omega
  unfold isReady
  rw [if_neg server, if_neg event]
  cases state.client? token <;> simp

theorem isReady_mono (ready : state.isReady token = true)
    (backlog : token = SERVER_TOKEN → state.backlog ≠ [] → after.backlog ≠ [])
    (notices : token = EVENT_TOKEN → 0 < state.toServer → 0 < after.toServer)
    (client : FIRST_CLIENT_TOKEN ≤ token → ∀ client, state.client? token = some client →
      ∃ other, after.client? token = some other ∧
        ((state.sockets client.socket).inbound ≠ [] → (after.sockets other.socket).inbound ≠ []) ∧
        ((state.sockets client.socket).shut = true → (after.sockets other.socket).shut = true)) :
    after.isReady token = true := by
  by_cases first : FIRST_CLIENT_TOKEN ≤ token
  · rw [isReady_client first] at ready ⊢
    obtain ⟨one, found, readable⟩ := ready
    obtain ⟨other, found', more, shut⟩ := client first one found
    exact ⟨other, found', readable.imp more shut⟩
  · unfold isReady at ready ⊢
    unfold FIRST_CLIENT_TOKEN at first
    by_cases server : token = SERVER_TOKEN
    · rw [if_pos server] at ready ⊢
      exact decide_eq_true (backlog server (of_decide_eq_true ready))
    · have event : token = EVENT_TOKEN := by
        unfold SERVER_TOKEN at server
        unfold EVENT_TOKEN
        omega
      rw [if_neg server, if_pos event] at ready ⊢
      exact decide_eq_true (notices event (of_decide_eq_true ready))

/-! ## What was passed on -/

theorem wholeGroups_length (whole : WholeGroups bytes) :
    VIRTIO_INPUT_EVENT_SIZE ∣ bytes.length := by
  rcases whole with rfl | ⟨event, -, length⟩
  · exact Nat.dvd_zero _
  · exact ⟨event + 1, length⟩

theorem length_groups {passed : List (List UInt8)} (groups : ∀ bytes ∈ passed, WholeGroups bytes) :
    VIRTIO_INPUT_EVENT_SIZE ∣ passed.flatten.length := by
  induction passed with
  | nil => exact Nat.dvd_zero _
  | cons bytes rest ih =>
    rw [flatten_cons, length_append]
    exact Nat.dvd_add (wholeGroups_length (groups bytes mem_cons_self))
      (ih fun other member => groups other (mem_cons_of_mem _ member))

theorem length_consumed (groups : ∀ entry ∈ state.log, WholeGroups entry.2) (id : Nat) :
    VIRTIO_INPUT_EVENT_SIZE ∣ (state.consumed id).length := by
  refine length_groups fun bytes listed => ?_
  obtain ⟨entry, found, rfl⟩ := mem_map.mp listed
  exact groups entry (mem_of_mem_filter found)

theorem Kept.buffer_lt (kept : state.Kept) (member : client ∈ state.clients) :
    client.reader.buffer.length < BUFFER_SIZE := by
  obtain ⟨unfinished, sent⟩ := kept.readers client member
  obtain ⟨first, length⟩ := length_consumed kept.groups client.socket
  by_contra full
  have lengths := congrArg List.length sent
  simp only [length_append] at lengths
  obtain ⟨event, after, report, before⟩ := kept.fits client.socket first (by omega)
  rw [sent] at report
  have report := (isReport_append (by rw [length_append]; omega)).mp report
  have here : (state.consumed client.socket ++ client.reader.buffer).drop
      (VIRTIO_INPUT_EVENT_SIZE * first) = client.reader.buffer := by
    rw [← length, drop_left]
  refine unfinished (event - first) (here ▸ isReport_from report after)

theorem consumed_append {id other : Nat} :
    consumed {state with log := state.log ++ [(id, bytes)]} other =
      state.consumed other ++ if other = id then bytes else [] := by
  unfold consumed
  by_cases same : other = id
  · simp [same]
  · have : id ≠ other := fun equal => same equal.symm
    simp [same, this]

/-! ## Tokens -/

theorem newToken_isSome (state : State) :
    ∃ token, state.newToken = some token ∧ FIRST_CLIENT_TOKEN ≤ token ∧ token ∉ state.clients.map Client.token := by
  cases found : state.newToken with
  | some token =>
    have fresh := find?_some found
    have member := mem_of_find?_eq_some found
    exact ⟨token, rfl, (mem_range'_1.mp member).1, of_decide_eq_true fresh⟩
  | none =>
    have taken := List.find?_eq_none.mp found
    have subset : List.range' FIRST_CLIENT_TOKEN (state.clients.length + 1) ⊆
        state.clients.map Client.token := fun token member => by simpa using taken token member
    have := (subperm_of_subset nodup_range' subset).length_le
    rw [length_range', length_map] at this
    omega

/-! ## The clients -/

namespace Kept

theorem connect (kept : state.Kept) : state.connect.Kept :=
  {kept with
    served := fun id some => (kept.served id some).imp_left (mem_append_left _)
    waiting := fun id unread => by
      rcases unread with member | beyond
      · rcases mem_append.mp member with old | new
        · exact kept.waiting id (.inl old)
        · exact kept.waiting id (.inr (Nat.le_of_eq (mem_singleton.mp new).symm))
      · exact kept.waiting id (.inr (le_of_succ_le beyond))
    alive := fun id known opened => by
      rcases Nat.lt_succ_iff_lt_or_eq.mp known with old | rfl
      · exact (kept.alive id old opened).imp_left (mem_append_left _)
      · exact .inl (mem_append_right _ (mem_singleton_self _))
    owners := by
      change (_ ++ (_ ++ [_])).Nodup
      rw [← append_assoc]
      refine nodup_append.mpr ⟨kept.owners, nodup_singleton _, ?_⟩
      intro id member other new
      rw [mem_singleton.mp new]
      exact Nat.ne_of_lt (kept.known id member)
    known := fun id member => by
      change id ∈ _ ++ (_ ++ [_]) at member
      rw [← append_assoc] at member
      rcases mem_append.mp member with old | new
      · exact lt_succ_of_lt (kept.known id old)
      · rw [mem_singleton.mp new]
        exact lt_succ_self _
    ready := fun token member => isReady_mono (kept.ready token member)
      (fun _ _ => append_ne_nil_of_right_ne_nil _ (cons_ne_nil _ _)) (fun _ => id)
      fun _ client found => ⟨client, found, id, id⟩}

variable {id : Nat} {socket : Socket} {bytes : List UInt8} {one client : Client} {count : Nat}

theorem setSocket_other {other : Nat} (differ : other ≠ id) :
    (state.setSocket id socket).sockets other = state.sockets other := if_neg differ

theorem setSocket_self : (state.setSocket id socket).sockets id = socket := if_pos rfl

theorem setSocket_all (holds : Socket → Prop) (own : holds socket)
    (kept : ∀ other, holds (state.sockets other)) (other : Nat) :
    holds ((state.setSocket id socket).sockets other) := by
  by_cases here : other = id
  · rwa [here, setSocket_self]
  · rw [setSocket_other here]
    exact kept other

theorem setSocket_same {Part : Type} (part : Socket → Part)
    (own : part socket = part (state.sockets id)) (other : Nat) :
    part ((state.setSocket id socket).sockets other) = part (state.sockets other) := by
  by_cases here : other = id
  · rw [here, setSocket_self, own]
  · rw [setSocket_other here]

section

variable (kept : state.Kept)
include kept

theorem clientSend (fits : Fits ((state.sockets id).sent ++ bytes))
    (moved : state.clientSend id bytes = some after) : after.Kept := by
  unfold State.clientSend at moved
  dsimp only at moved
  split_ifs at moved with writable
  cases moved
  obtain ⟨known, opened⟩ := writable
  have sent : ∀ head other, (state.sockets other).sent = head ++ (state.sockets other).inbound →
      ((state.setSocket id { state.sockets id with
        inbound := (state.sockets id).inbound ++ bytes
        sent := (state.sockets id).sent ++ bytes}).sockets other).sent =
      head ++ ((state.setSocket id { state.sockets id with
        inbound := (state.sockets id).inbound ++ bytes
        sent := (state.sockets id).sent ++ bytes}).sockets other).inbound := by
    intro head other same
    by_cases here : other = id
    · subst here
      rw [setSocket_self]
      dsimp only
      rw [same, append_assoc]
    · rw [setSocket_other here, same]
  exact {kept with
    streams := fun other => by
      obtain ⟨rest, unfinished, same⟩ := kept.streams other
      exact ⟨rest, unfinished, sent _ other same⟩
    served := fun other some => by
      by_cases here : other = id
      · subst here
        exact kept.alive other known opened
      · rw [setSocket_other here] at some
        exact kept.served other some
    readers := fun client member =>
      ⟨(kept.readers client member).1, sent _ _ (kept.readers client member).2⟩
    waiting := fun other unread => by
      obtain ⟨none, same⟩ := kept.waiting other unread
      exact ⟨none, sent [] other same⟩
    alive := fun other known opened' => by
      by_cases here : other = id
      · subst here
        exact kept.alive other known opened
      · rw [setSocket_other here] at opened'
        exact kept.alive other known opened'
    ready := fun token member => isReady_mono (kept.ready token member) (fun _ => fun some => some)
      (fun _ => fun some => some) fun _ client found => by
        refine ⟨client, found, ?_⟩
        by_cases here : client.socket = id
        · rw [here, setSocket_self]
          exact ⟨fun some => append_ne_nil_of_left_ne_nil some _, fun shut => shut⟩
        · rw [setSocket_other here]
          exact ⟨fun some => some, fun shut => shut⟩
    fits := setSocket_all (fun socket => Fits socket.sent) fits kept.fits
    status := setSocket_all (fun socket => socket.outbound = socket.due) (kept.status id)
      kept.status}

theorem clientClose (moved : state.clientClose id = some after) : after.Kept := by
  unfold State.clientClose at moved
  split_ifs at moved with known
  cases moved
  let closed := {state.sockets id with shut := true}
  have inbound : ∀ other, ((state.setSocket id closed).sockets other).inbound =
      (state.sockets other).inbound := setSocket_same Socket.inbound rfl
  have sent : ∀ other, ((state.setSocket id closed).sockets other).sent =
      (state.sockets other).sent := setSocket_same Socket.sent rfl
  exact {kept with
    streams := fun other => by
      obtain ⟨rest, unfinished, same⟩ := kept.streams other
      exact ⟨rest, unfinished, by rw [sent, inbound]; exact same⟩
    served := fun other some => kept.served other (by rwa [inbound] at some)
    readers := fun client member => by
      rw [sent, inbound]
      exact kept.readers client member
    waiting := fun other unread => by
      rw [sent, inbound]
      exact kept.waiting other unread
    alive := fun other known' opened => by
      by_cases here : other = id
      · rw [here, setSocket_self] at opened
        cases opened
      · rw [setSocket_other here] at opened
        exact kept.alive other known' opened
    ready := fun token member => isReady_mono (kept.ready token member) (fun _ some => some)
      (fun _ some => some) fun _ client found => by
        refine ⟨client, found, fun some => by rwa [inbound], fun shut => ?_⟩
        by_cases here : client.socket = id
        · rw [here, setSocket_self]
        · rwa [setSocket_other here]
    fits := fun other => by
      rw [sent]
      exact kept.fits other
    status := setSocket_all (fun socket => socket.outbound = socket.due) (kept.status id)
      kept.status}

/-! ## The server thread -/

theorem wakes_of (some : state.cells .eventBytes ≠ [])
    (other : state.server.isNotifying = false) : 0 < state.toDevice ∨ state.device = .taking := by
  simpa [other] using kept.wakes some

theorem owes_of (some : state.owed ≠ [])
    (other : state.server.isTaking = false) : 0 < state.toServer ∨ state.device = .notifying := by
  simpa [other] using kept.owes some

theorem wait {ready : List Nat} (moved : state.wait ready = some after) : after.Kept := by
  unfold State.wait at moved
  split_ifs at moved with may
  cases moved
  obtain ⟨idle, -, distinct, readable⟩ := may
  exact {kept with
    flow := by
      have flow := kept.flow
      rw [idle] at flow
      exact flow
    ready := readable
    distinct
    wakes := fun some => (kept.wakes_of some (by rw [idle]; rfl)).imp_right .inl
    owes := fun some => (kept.owes_of some (by rw [idle]; rfl)).imp_right .inl
    calm := nofun}

theorem accept {ok : Bool} (moved : state.accept ok = some after) : after.Kept := by
  unfold State.accept at moved
  split at moved
  · rename_i ready id backlog server queue
    have distinct := kept.distinct
    have readable := kept.ready
    rw [server] at distinct readable
    obtain ⟨first, distinct⟩ := nodup_cons.mp distinct
    have flow := kept.flow
    rw [server] at flow
    have wakes : state.cells .eventBytes ≠ [] →
        0 < state.toDevice ∨ state.device = .taking ∨ false = true := fun some =>
      (kept.wakes_of some (by rw [server]; rfl)).imp_right .inl
    have owes : state.owed ≠ [] →
        0 < state.toServer ∨ state.device = .notifying ∨ false = true := fun some =>
      (kept.owes_of some (by rw [server]; rfl)).imp_right .inl
    cases ok with
    | false =>
      cases moved
      exact {kept with
        flow
        ready := fun token member => readable token (mem_cons_of_mem _ member)
        distinct
        wakes
        owes
        calm := nofun}
    | true =>
      obtain ⟨token, made, above, fresh⟩ := state.newToken_isSome
      simp only [made, if_true] at moved
      cases moved
      have accepted : ∀ other, other ∈ state.backlog ∨ other ∈ state.clients.map Client.socket →
          other ∈ backlog ∨
            other ∈ (state.clients ++ [(⟨token, id, {}⟩ : Client)]).map Client.socket := by
        intro other place
        rw [queue, mem_cons] at place
        simp only [map_append, mem_append, map_cons, mem_cons]
        tauto
      have same : (state.clients ++ [(⟨token, id, {}⟩ : Client)]).map Client.socket ++ backlog =
          state.clients.map Client.socket ++ state.backlog := by
        simp [queue]
      exact {kept with
        flow
        served := fun other some => accepted other (kept.served other some)
        readers := fun client member => by
          rcases mem_append.mp member with old | new
          · exact kept.readers client old
          · rw [mem_singleton.mp new]
            obtain ⟨none, sent⟩ := kept.waiting id (.inl (queue ▸ mem_cons_self))
            refine ⟨fun event report => ?_, ?_⟩
            · exact absurd report.1 (by simp [VIRTIO_INPUT_EVENT_SIZE])
            · change (state.sockets id).sent = state.consumed id ++ [] ++ (state.sockets id).inbound
              rw [none, sent]
              rfl
        waiting := fun other unread =>
          kept.waiting other (unread.imp_left fun member => queue ▸ mem_cons_of_mem _ member)
        alive := fun other known opened => accepted other (kept.alive other known opened)
        owners := same ▸ kept.owners
        known := same ▸ kept.known
        tokens := by
          rw [map_append]
          refine nodup_append.mpr ⟨kept.tokens, nodup_singleton _, ?_⟩
          intro one member other new
          rw [mem_singleton.mp new]
          rintro rfl
          exact fresh member
        clientTokens := fun client member => by
          rcases mem_append.mp member with old | new
          · exact kept.clientTokens client old
          · rw [mem_singleton.mp new]
            exact above
        ready := fun other member => by
          refine isReady_mono (readable other (mem_cons_of_mem _ member)) (fun server => ?_)
            (fun _ some => some) fun _ client found => ⟨client, ?_, fun some => some, fun shut => shut⟩
          · have here : other = 0 := server
            exact absurd (here ▸ member) first
          · unfold client? at found ⊢
            rw [find?_append, found]
            rfl
        distinct
        wakes
        owes
        calm := nofun}
  · cases moved

theorem drain (moved : state.drain = some after) : after.Kept := by
  unfold State.drain at moved
  split at moved
  · rename_i ready server
    cases moved
    have distinct := kept.distinct
    have readable := kept.ready
    have flow := kept.flow
    rw [server] at distinct readable flow
    obtain ⟨first, distinct⟩ := nodup_cons.mp distinct
    exact {kept with
      flow
      ready := fun token member => by
        refine isReady_mono (readable token (mem_cons_of_mem _ member)) (fun _ some => some)
          (fun event => ?_) fun _ client found =>
            ⟨client, found, fun some => some, fun shut => shut⟩
        have here : token = 1 := event
        exact absurd (here ▸ member) first
      distinct
      wakes := fun some => (kept.wakes_of some (by rw [server]; rfl)).imp_right .inl
      owes := fun _ => .inr (.inr rfl)
      calm := nofun}
  · cases moved

theorem take {accepts : Nat → Nat} (none : state.cells .eventBytes = [])
    (clear : state.owed = [] ∨ state.clients = []) (moved : state.take accepts = some after) :
    after.Kept := by
  unfold State.take at moved
  split at moved
  · rename_i ready server
    cases moved
    have taken : state.cells serverHandles.status = [] := none
    have cells : (state.setCell serverHandles.status []).cells = state.cells := by
      funext cell
      by_cases here : cell = serverHandles.status
      · rw [here, taken, setCell_self]
      · exact if_neg here
    have sockets : (fun id => if id ∈ state.clients.map Client.socket then
        (state.sockets id).write (state.cells serverHandles.status) state.owed (accepts id)
      else state.sockets id) = state.sockets := by
      funext id
      split_ifs with member
      · have owed : state.owed = [] := clear.resolve_right fun empty => by
          rw [empty] at member
          cases member
        simp [Socket.write, taken, owed]
      · rfl
    have distinct := kept.distinct
    have readable := kept.ready
    have flow := kept.flow
    rw [server] at distinct readable flow
    have same : { state.setCell serverHandles.status [] with
        sockets := fun id => if id ∈ state.clients.map Client.socket then
          (state.sockets id).write (state.cells serverHandles.status) state.owed (accepts id)
          else state.sockets id
        owed := [], server := .handling ready} =
        {state with owed := [], server := .handling ready} := by
      rw [sockets]
      change {state with
        cells := (state.setCell serverHandles.status []).cells, owed := _, server := _} = _
      rw [cells]
    rw [same]
    exact {kept with
      flow
      ready := readable
      distinct
      wakes := fun some => absurd none some
      owes := fun some => absurd rfl some
      calm := nofun}
  · cases moved

theorem token_inj {other : Client} (first : one ∈ state.clients)
    (second : other ∈ state.clients) (same : one.token = other.token) : one = other :=
  inj_on_of_nodup_map kept.tokens first second same

theorem socket_inj {other : Client} (first : one ∈ state.clients)
    (second : other ∈ state.clients) (same : one.socket = other.socket) : one = other :=
  inj_on_of_nodup_map (nodup_append.mp kept.owners).1 first second same

theorem socket_new (member : client ∈ state.clients)
    (unread : id ∈ state.backlog ∨ state.connected ≤ id) : id ≠ client.socket := by
  have listed : client.socket ∈ state.clients.map Client.socket := mem_map_of_mem member
  rintro rfl
  rcases unread with waits | beyond
  · exact (nodup_append.mp kept.owners).2.2 _ listed _ waits rfl
  · have := kept.known _ (mem_append_left _ listed)
    omega

theorem passOn {reader : EventReader} {ready : List Nat}
    (member : client ∈ state.clients) (server : state.server = .handling (client.token :: ready))
    (split : client.reader.buffer ++ (state.sockets client.socket).inbound.take count =
      bytes ++ reader.buffer) (whole : WholeGroups bytes) (unfinished : Unfinished reader.buffer) :
    Kept { state.setSocket client.socket { state.sockets client.socket with
        inbound := (state.sockets client.socket).inbound.drop count} with
      clients := state.setReader client.token reader
      log := state.log ++ [(client.socket, bytes)]
      server := .appending bytes ready} := by
  let socket := { state.sockets client.socket with
    inbound := (state.sockets client.socket).inbound.drop count}
  have owners : (state.setReader client.token reader).map Client.socket =
      state.clients.map Client.socket := by
    unfold setReader
    rw [map_map]
    refine map_congr_left fun other _ => ?_
    simp only [comp_apply]
    split <;> rfl
  have tokens : (state.setReader client.token reader).map Client.token =
      state.clients.map Client.token := by
    unfold setReader
    rw [map_map]
    refine map_congr_left fun other _ => ?_
    simp only [comp_apply]
    split <;> rfl
  -- the bytes that were read are in hand or in the buffer now
  have moved : ∀ other head, (state.sockets other).sent = head ++ (state.sockets other).inbound →
      other ≠ client.socket → ((state.setSocket client.socket socket).sockets other).sent =
        head ++ ((state.setSocket client.socket socket).sockets other).inbound := by
    intro other head same differ
    rw [setSocket_other differ, same]
  have here : ((state.setSocket client.socket socket).sockets client.socket).sent =
      (state.consumed client.socket ++ bytes) ++ reader.buffer ++
        ((state.setSocket client.socket socket).sockets client.socket).inbound := by
    rw [setSocket_self]
    change (state.sockets client.socket).sent = _ ++ (state.sockets client.socket).inbound.drop count
    rw [(kept.readers client member).2, append_assoc _ bytes, ← split]
    simp only [append_assoc, take_append_drop]
  have now : consumed {state with log := state.log ++ [(client.socket, bytes)]} client.socket =
      state.consumed client.socket ++ bytes := consumed_append.trans (by rw [if_pos rfl])
  have later : ∀ other, other ≠ client.socket →
      consumed {state with log := state.log ++ [(client.socket, bytes)]} other =
        state.consumed other := fun other differ =>
    consumed_append.trans (by rw [if_neg differ, append_nil])
  have distinct := kept.distinct
  have readable := kept.ready
  have flow := kept.flow
  rw [server] at distinct readable flow
  obtain ⟨first, distinct⟩ := nodup_cons.mp distinct
  have inbound : ∀ other, ((state.setSocket client.socket socket).sockets other).inbound ≠ [] →
      (state.sockets other).inbound ≠ [] := by
    intro other some
    by_cases same : other = client.socket
    · subst same
      rw [setSocket_self] at some
      exact fun none => some (by simp [socket, none])
    · rwa [setSocket_other same] at some
  have sent : ∀ other, ((state.setSocket client.socket socket).sockets other).sent =
      (state.sockets other).sent := setSocket_same Socket.sent rfl
  exact {kept with
    flow := by
      change _ ++ bytes = (List.map Prod.snd (state.log ++ [(client.socket, bytes)])).flatten
      rw [map_append, flatten_append]
      have flow : state.guest ++ state.event_queue ++ state.cells .eventBytes = state.passed :=
        (append_nil _).symm.trans flow
      change state.guest ++ state.event_queue ++ state.cells .eventBytes ++ bytes =
        state.passed ++ [bytes].flatten
      rw [flow, flatten_singleton]
    groups := fun entry listed => by
      rcases mem_append.mp listed with old | new
      · exact kept.groups entry old
      · rw [mem_singleton.mp new]
        exact whole
    streams := fun other => by
      by_cases same : other = client.socket
      · subst same
        exact ⟨reader.buffer, unfinished, now ▸ here⟩
      · obtain ⟨rest, open', sent⟩ := kept.streams other
        exact ⟨rest, open', later other same ▸ moved other _ sent same⟩
    served := fun other some => by
      rw [owners]
      exact kept.served other (inbound other some)
    readers := fun other listed => by
      obtain ⟨old, found, rfl⟩ := mem_map.mp listed
      split_ifs with same
      · cases kept.token_inj found member same
        exact ⟨unfinished, now ▸ here⟩
      · have differ : old.socket ≠ client.socket := fun equal =>
          same (congrArg Client.token (kept.socket_inj found member equal))
        obtain ⟨open', sent⟩ := kept.readers old found
        exact ⟨open', later _ differ ▸ moved _ _ sent differ⟩
    waiting := fun other unread => by
      have differ := kept.socket_new member unread
      obtain ⟨none, sent⟩ := kept.waiting other unread
      exact ⟨(later other differ).trans none, moved other [] sent differ⟩
    alive := fun other known opened => by
      rw [owners]
      refine kept.alive other known ?_
      by_cases same : other = client.socket
      · subst same
        rwa [setSocket_self] at opened
      · rwa [setSocket_other same] at opened
    owners := owners.symm ▸ kept.owners
    known := owners.symm ▸ kept.known
    tokens := tokens.symm ▸ kept.tokens
    clientTokens := fun other listed => by
      obtain ⟨old, found, rfl⟩ := mem_map.mp listed
      split_ifs
      · exact kept.clientTokens old found
      · exact kept.clientTokens old found
    ready := fun token listed => by
      have other : token ≠ client.token := fun same => first (same ▸ listed)
      refine isReady_mono (readable token (mem_cons_of_mem _ listed)) (fun _ some => some)
        (fun _ some => some) fun _ one found => ⟨one, ?_, ?_⟩
      · exact client?_setReader found other
      · obtain ⟨known, same⟩ := client?_some found
        have differ : one.socket ≠ client.socket := fun equal =>
          other (same.symm.trans (congrArg Client.token (kept.socket_inj known member equal)))
        change (_ → ((state.setSocket client.socket socket).sockets one.socket).inbound ≠ []) ∧
          (_ → ((state.setSocket client.socket socket).sockets one.socket).shut = true)
        rw [setSocket_other differ]
        exact ⟨fun some => some, fun shut => shut⟩
    distinct
    fits := fun other => by
      rw [sent]
      exact kept.fits other
    status := setSocket_all (fun socket => socket.outbound = socket.due) (kept.status _) kept.status
    wakes := fun some => (kept.wakes_of some (by rw [server]; rfl)).imp_right .inl
    owes := fun some => (kept.owes_of some (by rw [server]; rfl)).imp_right .inl
    calm := nofun}

theorem remove {ready : List Nat} (member : client ∈ state.clients)
    (server : state.server = .handling (client.token :: ready))
    (inbound : (state.sockets client.socket).inbound = [])
    (shut : (state.sockets client.socket).shut = true) :
    Kept {state with
      clients := state.clients.filter fun other => other.token ≠ client.token
      server := .handling ready} := by
  have sublist : (state.clients.filter fun other => other.token ≠ client.token).Sublist
    state.clients := filter_sublist
  have stays : ∀ other, other ≠ client.socket →
      other ∈ state.backlog ∨ other ∈ state.clients.map Client.socket → other ∈ state.backlog ∨
        other ∈ (state.clients.filter fun one => one.token ≠ client.token).map Client.socket := by
    intro other differ place
    refine place.imp_right fun listed => ?_
    obtain ⟨one, found, rfl⟩ := mem_map.mp listed
    refine mem_map_of_mem (mem_filter.mpr ⟨found, decide_eq_true fun same => ?_⟩)
    exact differ (congrArg Client.socket (kept.token_inj found member same))
  have places := (sublist.map Client.socket).append (Sublist.refl state.backlog)
  have distinct := kept.distinct
  have readable := kept.ready
  have flow := kept.flow
  rw [server] at distinct readable flow
  obtain ⟨first, distinct⟩ := nodup_cons.mp distinct
  exact {kept with
    flow
    served := fun other some => by
      refine stays other ?_ (kept.served other some)
      rintro rfl
      exact some inbound
    readers := fun other listed => kept.readers other (sublist.subset listed)
    alive := fun other known opened => by
      refine stays other ?_ (kept.alive other known opened)
      rintro rfl
      cases shut.symm.trans opened
    owners := kept.owners.sublist places
    known := fun other listed => kept.known other (places.subset listed)
    tokens := kept.tokens.sublist (sublist.map Client.token)
    clientTokens := fun other listed => kept.clientTokens other (sublist.subset listed)
    ready := fun token listed => by
      have other : token ≠ client.token := fun same => first (same ▸ listed)
      exact isReady_mono (readable token (mem_cons_of_mem _ listed)) (fun _ some => some)
        (fun _ some => some) fun _ one found =>
          ⟨one, client?_filter found other, fun some => some, fun shut => shut⟩
    distinct
    wakes := fun some => (kept.wakes_of some (by rw [server]; rfl)).imp_right .inl
    owes := fun some => (kept.owes_of some (by rw [server]; rfl)).imp_right .inl
    calm := nofun}

theorem read (moved : state.read count = some after) : after.Kept := by
  unfold State.read at moved
  split at moved
  · rename_i token ready server
    split_ifs at moved with early
    have first : FIRST_CLIENT_TOKEN ≤ token := Nat.le_of_not_lt early
    have readable := kept.ready token (by rw [server]; exact mem_cons_self)
    obtain ⟨client, found, some⟩ := (isReady_client first).mp readable
    obtain ⟨member, rfl⟩ := client?_some found
    simp only [found] at moved
    split_ifs at moved with amount
    obtain ⟨unfinished, -⟩ := kept.readers client member
    have bound := kept.buffer_lt member
    by_cases inbound : (state.sockets client.socket).inbound = []
    · -- the client has closed and everything was read
      have shut : (state.sockets client.socket).shut = true := some.resolve_left (absurd inbound)
      have ended : client.reader.read_events (readSocket (state.sockets client.socket) count) =
          .error .UnexpectedEof := by
        simp [readSocket, inbound, shut, EventReader.read_events, EventReader.read_ahead,
          Nat.ne_of_lt bound, Except.map]
      rw [ended] at moved
      cases moved
      exact kept.remove member server inbound shut
    · have room : client.reader.room ≠ 0 := by
        unfold EventReader.room
        omega
      have enough : 0 < count := by
        by_contra none
        exact amount ⟨inbound, room, .inl (by omega)⟩
      have taken : (state.sockets client.socket).inbound.take count ≠ [] := by
        intro none
        rcases take_eq_nil_iff.mp none with zero | empty
        · omega
        · exact inbound empty
      obtain ⟨reader, bytes, given, split, whole, rest⟩ :=
        EventReader.read_events_ok unfinished bound taken
      rw [readSocket, if_pos inbound, given] at moved
      cases moved
      exact kept.passOn member server split whole rest
  · cases moved

theorem append (moved : state.append = some after) : after.Kept := by
  unfold State.append at moved
  split at moved
  · rename_i bytes ready server
    cases moved
    have distinct := kept.distinct
    have readable := kept.ready
    have flow := kept.flow
    rw [server] at distinct readable flow
    exact {kept with
      flow := by
        have whole : state.guest ++ state.event_queue ++ (state.cells .eventBytes ++ bytes) ++ [] =
            state.passed := by
          rw [append_nil, ← append_assoc]
          exact flow
        exact whole
      ready := readable
      distinct
      wakes := fun _ => .inr (.inr rfl)
      owes := fun some => (kept.owes_of some (by rw [server]; rfl)).imp_right .inl
      calm := nofun}
  · cases moved

theorem notify (moved : state.notify true = some after) : after.Kept := by
  unfold State.notify at moved
  split at moved
  · rename_i ready server
    cases moved
    have distinct := kept.distinct
    have readable := kept.ready
    have flow := kept.flow
    rw [server] at distinct readable flow
    exact {kept with
      flow
      ready := readable
      distinct
      wakes := fun _ => .inl (succ_pos _)
      owes := fun some => (kept.owes_of some (by rw [server]; rfl)).imp_right .inl
      calm := nofun}
  · cases moved

end

end Kept

end State

end Ika.VhuInput
