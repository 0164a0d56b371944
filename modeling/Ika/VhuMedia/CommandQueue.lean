import Ika.VhuMedia.Backend
import Mathlib.Data.List.Basic

/-! Requests that are answered, and what the backend keeps while all of them are. -/

set_option autoImplicit false

namespace Ika.VhuMedia

open List Function Option

variable {Ioctl Device Session : Type}

namespace Core

variable (protocol : Protocol Ioctl) (driver : Driver Ioctl Device Session)
  (core : Core Device Session)

def keys : List UInt32 := core.sessions.map Prod.fst

/-- The chain holds a whole command that the device takes, and has room for the response. -/
def Answerable (chain : Chain) : Prop :=
  match chain.readable, chain.writable with
  | some bytes, some room =>
    match protocol.readHeader bytes with
    | none => False
    | some (cmd, input) =>
      let error (e : Int32) : Prop := (protocol.errResp e).length ≤ room
      if cmd = protocol.VIRTIO_MEDIA_CMD_OPEN then
        match (driver.new_session core.session_id_counter core.device).2 with
        | .ok _ => (protocol.openResp core.session_id_counter).length ≤ room
        | .error e => error e
      else if cmd = protocol.VIRTIO_MEDIA_CMD_CLOSE then
        match protocol.readClose input with
        | none => False
        | some (session_id, _) => (core.get session_id).isSome ∨ error EINVAL
      else if cmd = protocol.VIRTIO_MEDIA_CMD_IOCTL then
        match protocol.readIoctl input with
        | none => False
        | some ((session_id, code), rest) =>
          match core.get session_id, protocol.ioctl code with
          | some session, some ioctl =>
            (driver.do_ioctl ioctl core.device session rest room).1.isSome
          | some _, none => error ENOTTY
          | none, _ => error EINVAL
      else if cmd = protocol.VIRTIO_MEDIA_CMD_MMAP then
        match protocol.readMmap input with
        | none => False
        | some ((session_id, flags, offset), _) =>
          match core.get session_id with
          | some session =>
            match (driver.do_mmap flags offset core.device session).1 with
            | .ok (guest_addr, size) => (protocol.mmapResp guest_addr size).length ≤ room
            | .error e => error e
          | none => error EINVAL
      else if cmd = protocol.VIRTIO_MEDIA_CMD_MUNMAP then
        match protocol.readMunmap input with
        | none => False
        | some (driver_addr, _) =>
          match (driver.do_munmap driver_addr core.device).1 with
          | .ok () => protocol.munmapResp.length ≤ room
          | .error _ => error EINVAL
      else error ENOTTY
  | _, _ => False

def Opens (chain : Chain) : Prop :=
  (chain.readable.bind protocol.readHeader).map Prod.fst = some protocol.VIRTIO_MEDIA_CMD_OPEN ∧
    (driver.new_session core.session_id_counter core.device).2.isOk

/-- The counter of session ids does not come round. -/
def Unwrapped (chain : Chain) : Prop :=
  core.Opens protocol driver chain → core.session_id_counter + 1 ≠ 0

/-- A condition on each request of a batch, where its turn comes. -/
def InTurn (ok : Core Device Session → Chain → Prop) (core : Core Device Session) :
    List Chain → Prop
  | [] => True
  | chain :: rest => ok core chain ∧ InTurn ok (core.request protocol driver chain).1 rest

variable {protocol driver core}

variable {core' : Core Device Session} {room : Nat} {bytes : List UInt8} {note : Option Note}
  {session_id : UInt32} {session : Session} {after : Core Device Session} {answer : Answer}

theorem isSome_write : (core'.write room bytes note).2.isSome = true ↔ bytes.length ≤ room := by
  unfold write
  split <;> simp [*]

theorem answered_iff (chain : Chain) :
    (core.request protocol driver chain).2.isSome = true ↔ core.Answerable protocol driver chain := by
  unfold request Answerable
  cases chain.readable with
  | none => simp
  | some bytes =>
    cases chain.writable with
    | none => simp
    | some room =>
      dsimp only
      cases protocol.readHeader bytes with
      | none => simp
      | some header =>
        obtain ⟨cmd, input⟩ := header
        dsimp only
        repeat' split_ifs
        · unfold openSession
          dsimp only
          rcases driver.new_session core.session_id_counter core.device with ⟨device, made⟩
          cases made <;> exact isSome_write
        · unfold close
          cases protocol.readClose input with
          | none => simp
          | some cmd =>
            dsimp only
            cases core.get cmd.1 with
            | none => simpa using isSome_write
            | some session => simp
        · unfold doIoctl
          cases protocol.readIoctl input with
          | none => simp
          | some cmd =>
            obtain ⟨⟨session_id, code⟩, rest⟩ := cmd
            dsimp only
            cases core.get session_id with
            | none => exact isSome_write
            | some session =>
              cases protocol.ioctl code with
              | none => exact isSome_write
              | some ioctl => simp
        · unfold mmap
          cases protocol.readMmap input with
          | none => simp
          | some cmd =>
            obtain ⟨⟨session_id, flags, offset⟩, rest⟩ := cmd
            dsimp only
            cases core.get session_id with
            | none => exact isSome_write
            | some session =>
              dsimp only
              rcases driver.do_mmap flags offset core.device session with ⟨made, device, session⟩
              cases made <;> exact isSome_write
        · unfold munmap
          cases protocol.readMunmap input with
          | none => simp
          | some cmd =>
            dsimp only
            rcases driver.do_munmap cmd.1 core.device with ⟨done, device⟩
            cases done <;> exact isSome_write
        · exact isSome_write

@[simp] theorem keys_insert {session_id : UInt32} {session : Session} :
    (core.insert session_id session).keys = session_id :: core.keys.filter (· ≠ session_id) := by
  simp [keys, insert, List.filter_map, comp_def]

@[simp] theorem keys_remove :
    (core.remove session_id).keys = core.keys.filter (· ≠ session_id) := by
  simp [keys, remove, List.filter_map, comp_def]

@[simp] theorem keys_modify : (core.modify session_id session).keys = core.keys := by
  simp only [keys, modify, List.map_map]
  refine map_congr_left fun entry _ => ?_
  simp only [comp_apply]
  split <;> simp [*]

theorem get_mem (found : core.get session_id = some session) : session_id ∈ core.keys := by
  obtain ⟨entry, first, rfl⟩ := map_eq_some_iff.mp found
  have key := find?_some first
  simp only [decide_eq_true_eq] at key
  rw [← key]
  exact List.mem_map_of_mem (mem_of_find?_eq_some first)

def Keeps (before after : Core Device Session) (opens : Prop) : Option Note → Prop
  | none => after.keys = before.keys ∧ after.session_id_counter = before.session_id_counter
  | some (.opened session_id) => opens ∧ session_id = before.session_id_counter ∧
      after.keys = session_id :: before.keys.filter (· ≠ session_id) ∧
      after.session_id_counter = before.session_id_counter + 1
  | some (.closed session_id) => session_id ∈ before.keys ∧
      after.keys = before.keys.filter (· ≠ session_id) ∧
      after.session_id_counter = before.session_id_counter

theorem write_answer (written : core'.write room bytes note = (after, some answer)) :
    after = core' ∧ answer.note = note := by
  unfold write at written
  split at written <;> cases written
  exact ⟨rfl, rfl⟩

theorem request_keeps {chain : Chain}
    (answered : core.request protocol driver chain = (after, some answer)) :
    Keeps core after (core.Opens protocol driver chain) answer.note := by
  unfold request at answered
  cases readable : chain.readable with
  | none => simp [readable] at answered
  | some bytes =>
    cases writable : chain.writable with
    | none => simp [readable, writable] at answered
    | some room =>
      simp only [readable, writable] at answered
      cases read : protocol.readHeader bytes with
      | none => simp [read] at answered
      | some header =>
        obtain ⟨cmd, input⟩ := header
        simp only [read] at answered
        have plain : ∀ {core' : Core Device Session} {bytes : List UInt8},
            core'.write room bytes none = (after, some answer) → core'.keys = core.keys →
            core'.session_id_counter = core.session_id_counter →
            Keeps core after (core.Opens protocol driver chain) answer.note := by
          intro core' bytes written keys counter
          obtain ⟨rfl, note⟩ := write_answer written
          rw [note]
          exact ⟨keys, counter⟩
        split_ifs at answered with is_open
        · unfold openSession at answered
          rcases made : driver.new_session core.session_id_counter core.device with ⟨device, result⟩
          simp only [made] at answered
          cases result with
          | error e => exact plain answered rfl rfl
          | ok session =>
            obtain ⟨rfl, note⟩ := write_answer answered
            rw [note]
            refine ⟨⟨by simp [readable, read, is_open], by rw [made]; rfl⟩, rfl, ?_, rfl⟩
            exact @keys_insert _ _ {core with device} _ _
        · unfold close at answered
          cases cmd : protocol.readClose input with
          | none => simp [cmd] at answered
          | some cmd' =>
            obtain ⟨session_id, rest⟩ := cmd'
            simp only [cmd] at answered
            cases found : core.get session_id with
            | none =>
              simp only [found] at answered
              exact plain answered rfl rfl
            | some session =>
              simp only [found] at answered
              cases answered
              exact ⟨get_mem found, keys_remove, rfl⟩
        · unfold doIoctl at answered
          cases cmd : protocol.readIoctl input with
          | none => simp [cmd] at answered
          | some cmd' =>
            obtain ⟨⟨session_id, code⟩, rest⟩ := cmd'
            simp only [cmd] at answered
            cases found : core.get session_id with
            | none =>
              simp only [found] at answered
              exact plain answered rfl rfl
            | some session =>
              simp only [found] at answered
              cases known : protocol.ioctl code with
              | none =>
                simp only [known] at answered
                exact plain answered rfl rfl
              | some ioctl =>
                simp only [known, Prod.mk.injEq, map_eq_some_iff] at answered
                obtain ⟨rfl, bytes, _, rfl⟩ := answered
                exact ⟨keys_modify, rfl⟩
        · unfold mmap at answered
          cases cmd : protocol.readMmap input with
          | none => simp [cmd] at answered
          | some cmd' =>
            obtain ⟨⟨session_id, flags, offset⟩, rest⟩ := cmd'
            simp only [cmd] at answered
            cases found : core.get session_id with
            | none =>
              simp only [found] at answered
              exact plain answered rfl rfl
            | some session =>
              simp only [found] at answered
              rcases made : driver.do_mmap flags offset core.device session with
                ⟨result, device, session⟩
              simp only [made] at answered
              cases result <;> exact plain answered keys_modify rfl
        · unfold munmap at answered
          cases cmd : protocol.readMunmap input with
          | none => simp [cmd] at answered
          | some cmd' =>
            simp only [cmd] at answered
            rcases made : driver.do_munmap cmd'.1 core.device with ⟨result, device⟩
            simp only [made] at answered
            cases result <;> exact plain answered rfl rfl
        · exact plain answered rfl rfl

end Core

namespace State

variable (protocol : Protocol Ioctl) (driver : Driver Ioctl Device Session)
  (state : State Device Session)

def keys : List UInt32 := state.sessions.map Prod.fst

def Settled : Prop := state.taken = state.used.map Prod.fst

variable {protocol driver state} {device : Device}

theorem process_used (requests : List Chain) :
    ∃ count, count ≤ requests.length ∧
      (state.process_commandq_requests protocol driver device requests).1.used.map Prod.fst =
        state.used.map Prod.fst ++ requests.take count ∧
      ((state.process_commandq_requests protocol driver device requests).2 = true ↔
        count = requests.length) ∧
      (count = requests.length ↔
        Core.InTurn protocol driver (Core.Answerable protocol driver) (state.core device)
          requests) := by
  induction requests generalizing state device with
  | nil => exact ⟨0, Nat.le_refl _, by simp [process_commandq_requests], by
      simp [process_commandq_requests], by simp [Core.InTurn]⟩
  | cons chain rest ih =>
    have answered : ((state.core device).request protocol driver chain).2.isSome = true ↔
        (state.core device).Answerable protocol driver chain := Core.answered_iff chain
    unfold process_commandq_requests Core.InTurn
    rcases step : (state.core device).request protocol driver chain with ⟨core, result⟩
    rw [step] at answered
    cases result with
    | none =>
      have unanswerable : ¬(state.core device).Answerable protocol driver chain := by
        simpa using answered
      exact ⟨0, by simp, by simp [withCore], by simp, by simp [unanswerable]⟩
    | some answer =>
      obtain ⟨count, bound, used, ok, turn⟩ :=
        @ih ((state.withCore core).addUsed chain answer) core.device
      refine ⟨count + 1, by simpa using bound, ?_, by simpa using ok, ?_⟩
      · dsimp only
        rw [used]
        simp [addUsed, withCore]
      · have can : (state.core device).Answerable protocol driver chain := answered.mp rfl
        simp only [length_cons, Nat.add_right_cancel_iff, can, true_and]
        exact turn

theorem process_taken (requests : List Chain) :
    (state.process_commandq_requests protocol driver device requests).1.taken = state.taken ∧
      (state.process_commandq_requests protocol driver device requests).1.mem = state.mem ∧
      (state.process_commandq_requests protocol driver device requests).1.event_idx =
        state.event_idx := by
  induction requests generalizing state device with
  | nil => exact ⟨rfl, rfl, rfl⟩
  | cons chain rest ih =>
    unfold process_commandq_requests
    rcases (state.core device).request protocol driver chain with ⟨core, result⟩
    cases result with
    | none => exact ⟨rfl, rfl, rfl⟩
    | some answer => exact ih

variable (protocol driver) in
/-- What the requests of each round have to be, where the rounds are read. -/
def Served (ok : Core Device Session → Chain → Prop) (state : State Device Session) :
    List (List Chain) → Prop
  | [] => True
  | requests :: more => state.mem = true →
      (requests = [] ∨ ∃ device, state.device = some device ∧
        Core.InTurn protocol driver ok (state.core device) requests) ∧
      Served ok (state.process_commandq_queue protocol driver requests).1 more

theorem queue_settled (settled : state.Settled) (ready : state.mem = true) (requests : List Chain) :
    ((state.process_commandq_queue protocol driver requests).2 = true ↔
        requests = [] ∨ ∃ device, state.device = some device ∧
          Core.InTurn protocol driver (Core.Answerable protocol driver) (state.core device)
            requests) ∧
      ((state.process_commandq_queue protocol driver requests).1.Settled ↔
        (state.process_commandq_queue protocol driver requests).2 = true) := by
  unfold process_commandq_queue
  rw [if_pos ready]
  by_cases empty : requests = []
  · subst empty
    simpa [Settled] using settled
  · simp only [empty, if_false, false_or]
    cases held : state.device with
    | none =>
      simp only [Bool.false_eq_true, reduceCtorEq, false_and, exists_false, true_and, iff_false]
      intro kept
      simp only [Settled] at kept settled
      rw [settled] at kept
      exact empty (List.append_right_eq_self.mp kept)
    | some device =>
      simp only [Option.some.injEq, exists_eq_left']
      -- the requests are noted before the first of them is read
      obtain ⟨count, bound, used, ok, turn⟩ := @process_used _ _ _ protocol driver
        {state with taken := state.taken ++ requests} device requests
      have taken := (@process_taken _ _ _ protocol driver
        {state with taken := state.taken ++ requests} device requests).1
      simp only [Settled] at settled
      rw [held] at used ok taken
      refine ⟨ok.trans turn, ?_⟩
      rw [Settled, taken, used, ← settled, ok]
      simp only [append_cancel_left_eq]
      constructor
      · intro whole
        have lengths := congrArg List.length whole
        rw [length_take] at lengths
        omega
      · rintro rfl
        exact (take_length ..).symm

theorem rounds_settled (settled : state.Settled) (rounds : List (List Chain)) :
    (state.process_rounds protocol driver rounds).Settled ↔
      state.Served protocol driver (Core.Answerable protocol driver) rounds := by
  induction rounds generalizing state with
  | nil => exact iff_of_true settled trivial
  | cons requests more ih =>
    unfold process_rounds Served
    cases ready : state.mem with
    | false =>
      have stopped : state.process_commandq_queue protocol driver requests = (state, false) := by
        simp [process_commandq_queue, ready]
      rw [stopped]
      simpa using settled
    | true =>
      obtain ⟨answered, kept⟩ :=
        @queue_settled _ _ _ protocol driver _ settled ready requests
      rw [← answered]
      clear answered
      revert kept
      rcases state.process_commandq_queue protocol driver requests with ⟨after, ok⟩
      intro kept
      cases ok with
      | true => simpa using ih (kept.mpr rfl)
      | false => simpa using kept

/-- The open sessions are those opened and not closed, under ids that were never given twice. -/
structure Tidy (keys : List UInt32) (counter : UInt32) (notes : List Note) : Prop where
  once : keys.Nodup
  below : ∀ session_id, Note.opened session_id ∈ notes → session_id < counter
  opens : ∀ session_id, session_id ∈ keys ↔
    Note.opened session_id ∈ notes ∧ Note.closed session_id ∉ notes
  closes : ∀ session_id, Note.closed session_id ∈ notes → Note.opened session_id ∈ notes

theorem Tidy.keep {before after : Core Device Session} {notes : List Note} {opens : Prop}
    {note : Option Note} (tidy : Tidy before.keys before.session_id_counter notes)
    (keeps : Core.Keeps before after opens note)
    (unwrapped : opens → before.session_id_counter + 1 ≠ 0) :
    Tidy after.keys after.session_id_counter (notes ++ note.toList) := by
  match note, keeps with
  | none, ⟨keys, counter⟩ =>
    rw [keys, counter]
    simpa using tidy
  | some (.opened session_id), ⟨opened, new, keys, counter⟩ =>
    have next := unwrapped opened
    have fresh : Note.opened session_id ∉ notes := by
      intro old
      have := tidy.below _ old
      rw [new] at this
      exact absurd this (UInt32.lt_irrefl _)
    have absent : session_id ∉ before.keys := fun mem => fresh ((tidy.opens _).mp mem).1
    have whole : before.keys.filter (· ≠ session_id) = before.keys := by
      rw [filter_eq_self]
      intro other mem
      exact decide_eq_true fun same => absent (same ▸ mem)
    have grows : ∀ other, other < before.session_id_counter ∨ other = session_id →
        other < before.session_id_counter + 1 := by
      intro other below
      have size := before.session_id_counter.toNat_lt
      have sum : (before.session_id_counter + 1).toNat = before.session_id_counter.toNat + 1 := by
        have nonzero : (before.session_id_counter + 1).toNat ≠ 0 := fun zero =>
          next (UInt32.toNat_inj.mp zero)
        rw [UInt32.toNat_add] at nonzero ⊢
        simp only [UInt32.toNat_one] at nonzero ⊢
        omega
      rw [UInt32.lt_iff_toNat_lt, sum]
      rcases below with below | rfl
      · have := UInt32.lt_iff_toNat_lt.mp below
        omega
      · rw [new]
        omega
    rw [keys, counter, whole]
    refine ⟨nodup_cons.mpr ⟨absent, tidy.once⟩, ?_, ?_, ?_⟩
    · intro other mem
      refine grows other ?_
      rcases mem_append.mp mem with old | same
      · exact .inl (tidy.below other old)
      · simp only [toList_some, mem_singleton, Note.opened.injEq] at same
        exact .inr same
    · intro other
      simp only [mem_cons, mem_append, toList_some, Note.opened.injEq,
        reduceCtorEq, or_false, not_mem_nil, tidy.opens]
      constructor
      · rintro (rfl | old)
        · exact ⟨.inr rfl, fun gone => fresh (tidy.closes _ gone)⟩
        · exact ⟨.inl old.1, old.2⟩
      · rintro ⟨old | rfl, kept⟩
        · exact .inr ⟨old, kept⟩
        · exact .inl rfl
    · intro other gone
      simp only [mem_append, toList_some, mem_singleton, reduceCtorEq,
        or_false] at gone
      exact mem_append_left _ (tidy.closes other gone)
  | some (.closed session_id), ⟨held, keys, counter⟩ =>
    rw [keys, counter]
    refine ⟨tidy.once.filter _, ?_, ?_, ?_⟩
    · intro other mem
      simp only [mem_append, toList_some, mem_singleton, reduceCtorEq,
        or_false] at mem
      exact tidy.below other mem
    · intro other
      simp only [mem_filter, decide_eq_true_eq, mem_append, toList_some,
        mem_singleton, Note.closed.injEq, reduceCtorEq, or_false, not_or, tidy.opens, and_assoc]
    · intro other gone
      simp only [mem_append, toList_some, mem_singleton,
        Note.closed.injEq] at gone
      refine mem_append_left _ ?_
      rcases gone with gone | rfl
      · exact tidy.closes other gone
      · exact ((tidy.opens other).mp held).1

variable (protocol driver) in
def Fine (core : Core Device Session) (chain : Chain) : Prop :=
  core.Answerable protocol driver chain ∧ core.Unwrapped protocol driver chain

theorem process_tidy (requests : List Chain)
    (tidy : Tidy state.keys state.session_id_counter state.notes)
    (fine : Core.InTurn protocol driver (Fine protocol driver) (state.core device) requests) :
    Tidy (state.process_commandq_requests protocol driver device requests).1.keys
      (state.process_commandq_requests protocol driver device requests).1.session_id_counter
      (state.process_commandq_requests protocol driver device requests).1.notes := by
  induction requests generalizing state device with
  | nil => exact tidy
  | cons chain rest ih =>
    obtain ⟨⟨answerable, unwrapped⟩, more⟩ := fine
    have answered := (Core.answered_iff chain).mpr answerable
    unfold process_commandq_requests
    rcases step : (state.core device).request protocol driver chain with ⟨core, result⟩
    rw [step] at answered more
    cases result with
    | none => cases answered
    | some answer =>
      have kept : Tidy (state.core device).keys (state.core device).session_id_counter _ := tidy
      exact ih (kept.keep (Core.request_keeps step) unwrapped) more

end State

end Ika.VhuMedia
