import Ika.Confui.Effects

/-! What is signed was agreed to, while messages reach the session they are meant for.

A message is handled by whatever session there is when it is taken from its queue, so
the condition is about the messages that are then still on their way.
-/

set_option autoImplicit false

namespace Ika.Confui

open List Option

/-- No input of a user is left over when a session is created. -/
def Fresh (state : State) : Prop :=
  match state.curr_session_, state.hal_cmd_q with
  | none, ⟨_, .start _, _⟩ :: _ => state.user_input_evt_q = []
  | _, _ => True

/-- The message is meant for the session that handles it, or does nothing there. -/
def Meant (platform : Platform) (state : State) : Prop :=
  match state.main, state.curr_session_ with
  | .transition input _, some session => Handled session input ∧
      (input.session_id = session.session_id ∨ Ignores platform session input)
  | _, _ => True

def Allowed (platform : Platform) (state : State) : Event → Prop
  | .pop => Fresh state
  | .transition _ => Meant platform state
  | .reset => ∀ thread ∈ state.threads, thread.place = .entry
  | _ => True

instance (state : State) : Decidable (Fresh state) := by
  unfold Fresh
  split <;> infer_instance

instance (platform : Platform) (state : State) : Decidable (Meant platform state) := by
  unfold Meant
  split <;> infer_instance

instance (platform : Platform) (state : State) (event : Event) :
    Decidable (Allowed platform state event) := by
  cases event <;> unfold Allowed <;> infer_instance

/-- The input was checked against this session: in `kInSession`, after its grace period. -/
def Approved (session : Session) (thread : Thread) : Prop :=
  thread.seen = some session.serial ∧
    ∃ looked start_time, thread.ready = some (session.serial, looked) ∧
      session.start_time = some start_time ∧ GetGracePeriod ≤ looked - start_time

def Checked (session : Session) (thread : Thread) : Prop :=
  (thread.place = .isReady → thread.seen = some session.serial) ∧
    (thread.place = .push → Approved session thread)

/-- A signed reply was agreed to by a touch in its session, for what that shows. -/
def Consented (platform : Platform) (entry : Sent) : Prop :=
  ∀ message, entry.reply.Secure message →
    platform.cbor entry.session.start.prompt_text entry.session.start.extra_data = .ok message ∧
      ∃ thread x y, entry.cause = some thread ∧ thread.input = .touch x y ∧
        platform.isConfirm entry.session.start x y = true ∧ Approved entry.session thread

def Sent.IsSecure (entry : Sent) : Bool :=
  match entry.reply with
  | .respond _ (some (.secure, _)) => true
  | _ => false

theorem Sent.isSecure_iff {entry : Sent} :
    entry.IsSecure = true ↔ ∃ message, entry.reply.Secure message := by
  unfold IsSecure
  constructor
  · split
    · rename_i selection message same
      exact fun _ => ⟨message, selection, same⟩
    · exact fun no => nomatch no
  · rintro ⟨message, selection, same⟩
    rw [same]

/-- Where the main loop and the session are together. -/
def Attends (platform : Platform) (session : Session) : Main → Prop
  | .pop => session.Running ∧ session.Started platform
  | .transition input cause =>
    (Ready platform session input ∧
      (session.state = .kInit → session.start_time = none ∧ input.session_id = session.session_id)) ∧
    match cause with
    | none => input.is_secure = false
    | some thread => input = thread.message ∧ Approved session thread
  | .finalize => session.state = .kAwaitCleanup
  | .reset => session.state = .kTerminated

structure Kept (platform : Platform) (state : State) : Prop where
  alive : state.fatal = false ∧ state.missing = false
  absent : state.curr_session_ = none → state.mode = .kAndroidMode ∧ state.main = .pop ∧
    ∀ thread ∈ state.threads, thread.place = .entry
  attends : ∀ session, state.curr_session_ = some session → session.serial < state.created ∧
    Attends platform session state.main
  checked : ∀ session, state.curr_session_ = some session →
    (∀ thread ∈ state.threads, Checked session thread) ∧
      ∀ thread ∈ state.user_input_evt_q, Approved session thread
  guest : ∀ input ∈ state.hal_cmd_q, input.is_secure = false
  sent : ∀ entry ∈ state.sent, Consented platform entry
  once : ((state.sent.filter Sent.IsSecure).map (·.session.serial)).Nodup
  below : ∀ entry ∈ state.sent, entry.IsSecure = true → entry.session.serial < state.created ∧
    ∀ session, state.curr_session_ = some session → session.serial = entry.session.serial →
      session.state ≠ .kInit ∧ session.state ≠ .kInSession

variable {platform : Platform} {state after : State}

/-! ## Inputs on their way -/

variable {session other : Session} {thread : Thread} {index : Nat}

theorem Approved.congr (approved : Approved session thread)
    (serial : other.serial = session.serial) (time : other.start_time = session.start_time) :
    Approved other thread := by
  unfold Approved
  rw [serial, time]
  exact approved

theorem Checked.congr (checked : Checked session thread) (serial : other.serial = session.serial)
    (time : other.start_time = session.start_time) : Checked other thread :=
  ⟨fun place => serial ▸ checked.1 place, fun place => (checked.2 place).congr serial time⟩

theorem Kept.started (session : Session) (ready : session.IsReadyForUserInput state.now = true) :
    ∃ start_time, session.start_time = some start_time ∧
      GetGracePeriod ≤ state.now - start_time := by
  unfold Session.IsReadyForUserInput at ready
  cases time : session.start_time with
  | none => simp [time] at ready
  | some start_time =>
    simp only [time, decide_eq_true_eq] at ready
    exact ⟨start_time, rfl, ready⟩

section

variable (kept : Kept platform state)
include kept

theorem Kept.setThreads {threads queue : List _}
    (absent : state.curr_session_ = none → ∀ thread ∈ threads, thread.place = .entry)
    (checked : ∀ session, state.curr_session_ = some session →
      (∀ thread ∈ threads, Checked session thread) ∧ ∀ thread ∈ queue, Approved session thread) :
    Kept platform {state with threads, user_input_evt_q := queue} where
  alive := kept.alive
  absent none := ⟨(kept.absent none).1, (kept.absent none).2.1, absent none⟩
  attends := kept.attends
  checked := checked
  guest := kept.guest
  sent := kept.sent
  once := kept.once
  below := kept.below

theorem Kept.setThread (present : state.curr_session_ = none → thread.place = .entry)
    (checked : ∀ session, state.curr_session_ = some session → Checked session thread) :
    Kept platform (state.setThread index thread) := by
  refine kept.setThreads (fun none other mem => ?_) fun session current =>
    ⟨fun other mem => ?_, (kept.checked session current).2⟩
  · rcases mem_or_eq_of_mem_set mem with mem | rfl
    · exact (kept.absent none).2.2 other mem
    · exact present none
  · rcases mem_or_eq_of_mem_set mem with mem | rfl
    · exact (kept.checked session current).1 other mem
    · exact checked session current

theorem Kept.drop (index : Nat) {queue : List Thread}
    (approved : ∀ session, state.curr_session_ = some session →
      ∀ thread ∈ queue, Approved session thread) :
    Kept platform {state.drop index with user_input_evt_q := queue} :=
  kept.setThreads (fun none other mem => (kept.absent none).2.2 other (mem_of_mem_eraseIdx mem))
    fun session current => ⟨fun other mem =>
      (kept.checked session current).1 other (mem_of_mem_eraseIdx mem), approved session current⟩

theorem Kept.dropped (index : Nat) : Kept platform (state.drop index) :=
  kept.drop index fun session current => (kept.checked session current).2

theorem Kept.runThread (moved : state.runThread index = some after) : Kept platform after := by
  obtain ⟨thread, at_index, moved⟩ := bind_eq_some_iff.mp moved
  have mem := mem_of_getElem? at_index
  cases current : state.curr_session_ with
  | none =>
    -- without a session every thread is at its first look
    have entry := (kept.absent current).2.2 thread mem
    simp only [entry, current] at moved
    cases moved
    exact kept.dropped index
  | some session =>
    obtain ⟨checked, approved⟩ := kept.checked session current
    have mine := checked thread mem
    have plain : ∀ next : Thread, next.place ≠ .isReady → next.place ≠ .push →
        Kept platform (state.setThread index next) := by
      intro next not_ready not_push
      refine kept.setThread (fun none => by rw [current] at none; cases none) fun other same => ?_
      exact ⟨fun place => absurd place not_ready, fun place => absurd place not_push⟩
    cases place : thread.place <;> simp only [place, current] at moved
    · cases moved
      exact plain _ (by simp) (by simp)
    · cases moved
      exact plain _ (by simp) (by simp)
    · cases moved
      exact plain _ (by simp) (by simp)
    · cases moved
      exact plain _ (by simp) (by simp)
    · split at moved
      · cases moved
        refine kept.setThread (fun none => by rw [current] at none; cases none) fun other same => ?_
        cases current.symm.trans same
        exact ⟨fun _ => rfl, fun place => (nomatch place)⟩
      · cases moved
        exact kept.dropped index
    · split at moved
      · rename_i ready
        cases moved
        refine kept.setThread (fun none => by rw [current] at none; cases none) fun other same => ?_
        cases current.symm.trans same
        obtain ⟨start_time, started, grace⟩ := Kept.started session ready
        refine ⟨fun place => (nomatch place), fun _ => ?_⟩
        exact ⟨mine.1 place, state.now, start_time, rfl, started, grace⟩
      · cases moved
        exact kept.dropped index
    · cases moved
      refine kept.drop index fun other same next queued => ?_
      cases current.symm.trans same
      rcases mem_append.mp queued with queued | new
      · exact approved next queued
      · rw [mem_singleton.mp new]
        exact mine.2 place

theorem Kept.begin (input : UserInput) : Kept platform (state.begin input) := by
  refine kept.setThreads (fun none other mem => ?_) fun session current =>
    ⟨fun other mem => ?_, (kept.checked session current).2⟩
  · rcases mem_append.mp mem with mem | new
    · exact (kept.absent none).2.2 other mem
    · rw [mem_singleton.mp new]
  · rcases mem_append.mp mem with mem | new
    · exact (kept.checked session current).1 other mem
    · rw [mem_singleton.mp new]
      exact ⟨fun place => (nomatch place), fun place => (nomatch place)⟩

/-! ## The main loop -/

theorem Kept.take (idle : state.main = .pop) {input : Message}
    {cause : Option Thread} (fresh : state.curr_session_ = none →
      (∃ contents, input.cmd = .start contents) → state.user_input_evt_q = [])
    (meant : match cause with
      | none => input.is_secure = false
      | some thread => input = thread.message ∧
          (∀ session, state.curr_session_ = some session → Approved session thread) ∧
          ¬∃ contents, input.cmd = .start contents) :
    Kept platform (state.take input cause) := by
  unfold State.take
  cases current : state.curr_session_ with
  | some session =>
    dsimp only
    obtain ⟨serial, attends⟩ := kept.attends session current
    rw [idle] at attends
    refine ⟨kept.alive, fun none => by simp at none, fun other same => ?_,
      fun other same => kept.checked other (current.trans same), kept.guest, kept.sent, kept.once,
      fun sent mem secure => ?_⟩
    rotate_left
    · obtain ⟨earlier, answered⟩ := kept.below sent mem secure
      exact ⟨earlier, fun other same => answered other (current.trans same)⟩
    cases same
    refine ⟨serial, ⟨.inr attends, fun fresh => ?_⟩, ?_⟩
    · rcases attends.1 with running | running <;> simp [fresh] at running
    · cases cause with
      | none => exact meant
      | some thread => exact ⟨meant.1, meant.2.1 session current⟩
  | none =>
    cases cmd : input.cmd with
    | start contents =>
      dsimp only
      obtain ⟨_, _, entry⟩ := kept.absent current
      have empty := fresh current ⟨contents, cmd⟩
      refine ⟨kept.alive, fun none => by simp at none, fun other same => ?_, fun other same => ?_,
        kept.guest, kept.sent, kept.once, fun sent mem secure => ?_⟩
      · cases same
        refine ⟨Nat.lt_succ_self _, ⟨.inl ⟨rfl, contents, cmd⟩, fun _ => ⟨rfl, rfl⟩⟩, ?_⟩
        cases cause with
        | none => exact meant
        | some thread => exact absurd ⟨contents, cmd⟩ meant.2.2
      · refine ⟨fun thread mem => ?_, fun thread mem => ?_⟩
        · have first := entry thread mem
          exact ⟨fun place => by simp [first] at place, fun place => by simp [first] at place⟩
        · rw [show state.user_input_evt_q = [] from empty] at mem
          cases mem
      · obtain ⟨earlier, _⟩ := kept.below sent mem secure
        refine ⟨Nat.lt_succ_of_lt earlier, fun other same serial => ?_⟩
        cases same
        exact absurd serial (Nat.ne_of_gt earlier)
    | _ => exact kept

theorem Kept.pop (fresh : Fresh state) (moved : state.pop = some after) : Kept platform after := by
  unfold State.pop at moved
  split at moved
  · rename_i idle
    cases hal : state.hal_cmd_q with
    | cons input rest =>
      simp only [hal] at moved
      cases moved
      have taken : Kept platform {state with hal_cmd_q := rest} :=
        ⟨kept.alive, kept.absent, kept.attends, kept.checked,
          fun other mem => kept.guest other (hal ▸ mem_cons_of_mem _ mem), kept.sent,
          kept.once, kept.below⟩
      refine taken.take idle (fun missing ⟨contents, cmd⟩ => ?_)
        (kept.guest input (hal ▸ mem_cons_self))
      obtain ⟨session_id, cmd', is_secure⟩ := input
      cases cmd
      have current : state.curr_session_ = none := missing
      simp only [Fresh, hal, current] at fresh
      exact fresh
    | nil =>
      cases queue : state.user_input_evt_q with
      | nil => simp [hal, queue] at moved
      | cons thread rest =>
        simp only [hal, queue] at moved
        cases moved
        have taken : Kept platform {state with hal_cmd_q := [], user_input_evt_q := rest} :=
          ⟨kept.alive, kept.absent, kept.attends, fun session current =>
            ⟨(kept.checked session current).1, fun other mem =>
              (kept.checked session current).2 other (queue ▸ mem_cons_of_mem _ mem)⟩,
            (fun other mem => by cases mem), kept.sent, kept.once, kept.below⟩
        have no_start : ¬∃ contents, thread.message.cmd = .start contents := by
          rintro ⟨contents, cmd⟩
          unfold Thread.message at cmd
          split at cmd <;> cases cmd
        refine taken.take idle (fun _ starts => absurd starts no_start) ?_
        exact ⟨rfl, fun session current =>
          (kept.checked session current).2 thread (queue ▸ mem_cons_self), no_start⟩
  · cases moved

end

theorem filter_secure_short {replies : List Reply} (session : Session) (cause : Option Thread)
    (short : replies.length ≤ 1) :
    ((replies.map fun reply => (⟨reply, session, cause⟩ : Sent)).filter Sent.IsSecure).length ≤ 1 :=
  Nat.le_trans (length_filter_le _ _) (by simpa using short)

theorem Kept.transition (kept : Kept platform state) {outcome : Outcome} (meant : Meant platform state)
    (moved : state.transition platform outcome = some after) : Kept platform after := by
  unfold State.transition at moved
  cases main : state.main with
  | transition input cause =>
    cases current : state.curr_session_ with
    | none => simp [main, current] at moved
    | some session =>
      simp only [main, current] at moved
      cases moved
      obtain ⟨serial, attends⟩ := kept.attends session current
      rw [main] at attends
      obtain ⟨⟨ready, init⟩, source⟩ := attends
      unfold Meant at meant
      simp only [main, current] at meant
      have follows := session.follows state.now outcome ready meant.1
      have signed := fun reply message secure mem =>
        @Session.handle_signed platform state.now outcome session input reply message secure mem
      have calm := session.handle_fatal state.now outcome ready meant.1
      generalize session.handle platform state.now outcome input = effect at *
      -- the dialog of a session that was checked against is not shown anew
      have time : ∀ thread, Approved session thread ∨ session.Running →
          effect.session.start_time = session.start_time := by
        intro thread known
        rcases ready with ⟨fresh, _⟩ | ⟨running, _⟩
        · rcases known with ⟨_, _, start_time, _, shown, _⟩ | running
          · rw [(init fresh).1] at shown
            cases shown
          · exact follows.keeps running
        · exact follows.keeps running
      refine ⟨⟨by simp [kept.alive.1, calm], kept.alive.2⟩, fun none => by simp at none, ?_, ?_,
        kept.guest, ?_, ?_, ?_⟩
      · intro other same
        cases same
        refine ⟨follows.serial ▸ serial, ?_⟩
        dsimp only
        split
        · assumption
        · rename_i goes_on
          have running := follows.state.resolve_right goes_on
          exact ⟨running, follows.started running⟩
      · intro other same
        cases same
        obtain ⟨checked, approved⟩ := kept.checked session current
        refine ⟨fun thread mem => ⟨fun place => ?_, fun place => ?_⟩, fun thread mem => ?_⟩
        · rw [follows.serial]
          exact (checked thread mem).1 place
        · have before := (checked thread mem).2 place
          exact before.congr follows.serial (time thread (.inl before))
        · have before := approved thread mem
          exact before.congr follows.serial (time thread (.inl before))
      · intro entry mem
        rcases mem_append.mp mem with old | new
        · exact kept.sent entry old
        · obtain ⟨reply, sent, rfl⟩ := mem_map.mp new
          intro message secure
          have gave := signed reply message secure sent
          have started : session.Started platform := by
            rcases ready with ⟨fresh, _⟩ | ⟨_, started⟩
            · rw [gave.before] at fresh
              cases fresh
            · exact started
          refine ⟨gave.message ▸ started.2, ?_⟩
          cases cause with
          | none =>
            have insecure : input.is_secure = false := source
            rw [gave.secure] at insecure
            cases insecure
          | some thread =>
            obtain ⟨same, approved⟩ := source
            cases input' : thread.input with
            | touch x y =>
              have cmd : input.cmd = .userTouchEvent x y := by
                rw [same]
                simp [Thread.message, input']
              refine ⟨thread, x, y, rfl, input', ?_, approved⟩
              rcases gave.input with ⟨x', y', cmd', confirm⟩ | ⟨response, cmd', _⟩
              · cases cmd.symm.trans cmd'
                exact confirm
              · cases cmd.symm.trans cmd'
            | abort =>
              have cmd : input.cmd = .userInputEvent kUserAbort := by
                rw [same]
                simp [Thread.message, input']
              rcases gave.input with ⟨x', y', cmd', _⟩ | ⟨response, cmd', keeps⟩
              · cases cmd.symm.trans cmd'
              · cases cmd.symm.trans cmd'
                exact absurd rfl keeps
      · rw [filter_append, map_append, nodup_append]
        refine ⟨kept.once, ?_, ?_⟩
        · have short := filter_secure_short session cause follows.replies
          rcases list : ((effect.replies.map fun reply =>
            (⟨reply, session, cause⟩ : Sent)).filter Sent.IsSecure) with _ | ⟨one, _ | ⟨two, rest⟩⟩
          · simp
          · simp
          · rw [list] at short
            simp at short
        · intro one first two second same
          obtain ⟨entry, mem, rfl⟩ := mem_map.mp first
          obtain ⟨entry', mem', rfl⟩ := mem_map.mp second
          obtain ⟨mem, secure⟩ := mem_filter.mp mem
          obtain ⟨new, secure'⟩ := mem_filter.mp mem'
          obtain ⟨reply, sent, rfl⟩ := mem_map.mp new
          obtain ⟨message, secure'⟩ := Sent.isSecure_iff.mp secure'
          have gave := signed reply message secure' sent
          exact ((kept.below entry mem secure).2 session current same.symm).2 gave.before
      · intro entry mem secure
        rcases mem_append.mp mem with old | new
        · obtain ⟨earlier, answered⟩ := kept.below entry old secure
          refine ⟨earlier, fun other same serial => ?_⟩
          cases same
          rw [follows.serial] at serial
          obtain ⟨not_init, not_waiting⟩ := answered session current serial
          have waits : session.state = .kWaitStop := by
            rcases ready with ⟨fresh, _⟩ | ⟨state | state, _⟩
            · exact absurd fresh not_init
            · exact absurd state not_waiting
            · exact state
          refine ⟨fun fresh => ?_, follows.answered waits⟩
          rcases follows.state with (state | state) | state <;> simp [state] at fresh
        · obtain ⟨reply, sent, rfl⟩ := mem_map.mp new
          obtain ⟨message, secure⟩ := Sent.isSecure_iff.mp secure
          have gave := signed reply message secure sent
          refine ⟨serial, fun other same _ => ?_⟩
          cases same
          rw [gave.after]
          exact ⟨by simp, by simp⟩
  | _ => simp [main] at moved

theorem Kept.finalize (kept : Kept platform state) (moved : state.finalize = some after) :
    Kept platform after := by
  unfold State.finalize at moved
  cases main : state.main with
  | finalize =>
    cases current : state.curr_session_ with
    | none => simp [main, current] at moved
    | some session =>
      simp only [main, current] at moved
      cases moved
      obtain ⟨serial, attends⟩ := kept.attends session current
      rw [main] at attends
      have cleanup : session.state = .kAwaitCleanup := attends
      obtain ⟨checked, approved⟩ := kept.checked session current
      refine ⟨⟨by simp [kept.alive.1, cleanup], kept.alive.2⟩, fun none => by simp at none,
        fun other same => ?_, fun other same => ?_, kept.guest, kept.sent, kept.once,
        fun sent mem secure => ?_⟩
      · cases same
        exact ⟨serial, rfl⟩
      · cases same
        exact ⟨fun thread mem => (checked thread mem).congr rfl rfl,
          fun thread mem => (approved thread mem).congr rfl rfl⟩
      · refine ⟨(kept.below sent mem secure).1, fun other same _ => ?_⟩
        cases same
        exact ⟨by simp, by simp⟩
  | _ => simp [main] at moved

theorem Kept.reset (kept : Kept platform state) (idle : ∀ thread ∈ state.threads, thread.place = .entry)
    (android : state.main = .reset → state.mode = .kAndroidMode)
    (moved : state.reset = some after) : Kept platform after := by
  unfold State.reset at moved
  cases main : state.main with
  | reset =>
    simp only [main] at moved
    cases moved
    refine ⟨kept.alive, fun _ => ⟨android main, rfl, idle⟩, fun other same => by simp at same,
      fun other same => by simp at same, kept.guest, kept.sent, kept.once, fun sent mem secure => ?_⟩
    exact ⟨(kept.below sent mem secure).1, fun other same => by simp at same⟩
  | _ => simp [main] at moved

def Cleaned (state : State) : Prop := state.main = .reset → state.mode = .kAndroidMode

theorem Kept.step (kept : Kept platform state) (cleaned : Cleaned state) {event : Event}
    (allowed : Allowed platform state event)
    (moved : state.step platform event = some after) : Kept platform after ∧ Cleaned after := by
  unfold State.step at moved
  rw [if_neg (by simp [kept.alive])] at moved
  have aside : ∀ other : State, other.main = state.main → other.mode = state.mode →
      Cleaned other := by
    intro other main mode reset
    rw [mode]
    exact cleaned (main ▸ reset)
  cases event with
  | tick time =>
    cases moved
    exact ⟨⟨kept.alive, kept.absent, kept.attends, kept.checked, kept.guest, kept.sent, kept.once,
      kept.below⟩, cleaned⟩
  | receive session_id cmd =>
    cases moved
    refine ⟨⟨kept.alive, kept.absent, kept.attends, kept.checked, fun input mem => ?_, kept.sent,
      kept.once, kept.below⟩, cleaned⟩
    rcases mem_append.mp mem with old | new
    · exact kept.guest input old
    · rw [mem_singleton.mp new]
  | touchEvent x y is_down =>
    cases moved
    split
    · exact ⟨kept.begin _, cleaned⟩
    · exact ⟨kept, cleaned⟩
  | userAbortEvent =>
    cases moved
    exact ⟨kept.begin _, cleaned⟩
  | thread index =>
    refine ⟨kept.runThread moved, ?_⟩
    obtain ⟨thread, _, moved⟩ := bind_eq_some_iff.mp moved
    cases moved
    split <;> (try split) <;> exact aside _ rfl rfl
  | pop =>
    refine ⟨kept.pop allowed moved, fun reset => ?_⟩
    have idle : state.main = .pop := by
      by_contra busy
      simp [State.pop, busy] at moved
    have taken : ∀ (other : State) (input : Message) (cause : Option Thread),
        other.main = .pop → (other.take input cause).main ≠ .reset := by
      intro other input cause idle
      unfold State.take
      split <;> simp [idle]
    simp only [State.pop, idle, if_true] at moved
    split at moved <;> cases moved
    · exact absurd reset (taken _ _ _ rfl)
    · exact absurd reset (taken _ _ _ rfl)
  | transition outcome =>
    refine ⟨kept.transition allowed moved, fun reset => ?_⟩
    simp only [State.transition] at moved
    split at moved
    · cases moved
      dsimp only at reset
      split at reset <;> cases reset
    · cases moved
  | finalize =>
    refine ⟨kept.finalize moved, fun _ => ?_⟩
    simp only [State.finalize] at moved
    split at moved <;> cases moved
    rfl
  | reset =>
    refine ⟨kept.reset allowed cleaned moved, fun reset => ?_⟩
    simp only [State.reset] at moved
    split at moved <;> cases moved
    cases reset

def Known (platform : Platform) (state : State) : Prop := Kept platform state ∧ Cleaned state

theorem known (reached : (machine platform).Reaches (Allowed platform) state) :
    Known platform state := by
  refine reached.invariant ?_ fun _ _ _ known allowed moved => known.1.step known.2 allowed moved
  intro start first
  subst first
  refine ⟨⟨⟨rfl, rfl⟩, fun _ => ⟨rfl, rfl, fun _ mem => by cases mem⟩, ?_, ?_, ?_, ?_, .nil, ?_⟩, ?_⟩
  · exact fun _ current => by cases current
  · exact fun _ current => by cases current
  · exact fun _ mem => by cases mem
  · exact fun _ mem => by cases mem
  · exact fun _ mem => by cases mem
  · exact fun reset => by cases reset

/-- While each input meets the session it was made for, each signed reply was agreed to there, once
in a session, and no message for another session does anything or is fatal. -/
theorem signed_with_consent (reached : (machine platform).Reaches (Allowed platform) state) :
    ((∀ entry ∈ state.sent, Consented platform entry) ∧
      ((state.sent.filter Sent.IsSecure).map (·.session.serial)).Nodup) ∧
    (∀ session input cause outcome after, state.curr_session_ = some session →
      state.main = .transition input cause → input.session_id ≠ session.session_id →
      Allowed platform state (.transition outcome) →
      state.step platform (.transition outcome) = some after →
      after.curr_session_ = state.curr_session_ ∧ after.sent = state.sent) ∧
    (state.fatal = false ∧ state.missing = false) ∧
    (state.curr_session_ = none → state.mode = .kAndroidMode) := by
  obtain ⟨known, _⟩ := known reached
  refine ⟨⟨known.sent, known.once⟩, ?_, known.alive, fun none => (known.absent none).1⟩
  intro session input cause outcome after current main other allowed moved
  have meant : Meant platform state := allowed
  simp only [Meant, main, current] at meant
  have ignored := meant.2.resolve_left other
  unfold State.step at moved
  rw [if_neg (by simp [known.alive])] at moved
  simp only [State.transition, main, current, Session.handle_ignored ignored] at moved
  cases moved
  exact ⟨current.symm, append_nil _⟩

/-! ## Runs -/

def sample : Platform where
  cbor prompt_text extra_data :=
    .ok (prompt_text.toList.map (fun c => UInt8.ofNat c.toNat) ++ extra_data)
  isConfirm _ x _ := 100 ≤ x
  isCancel _ x _ := x < 50

def shown (session_id prompt_text : String) : List Event :=
  [.receive session_id (.start {prompt_text}), .pop, .transition {}]

def touched : List Event :=
  .touchEvent 200 10 true :: List.replicate 7 (.thread 0)

def confirmed : List Event :=
  shown "a" "pay" ++ .tick 1100 :: touched ++
    [.pop, .transition {}, .receive "a" .stop, .pop, .transition {}, .finalize, .reset]

theorem signed_with_consent_one :
    let state := ((machine sample).runAllowed (Allowed sample) {} confirmed).getD {}
    (state.sent.filter Sent.IsSecure).length = 1 ∧ state.curr_session_ = none ∧
      ∀ entry ∈ state.sent, Consented sample entry := by
  have reached : (machine sample).Reaches (Allowed sample)
      (((machine sample).runAllowed (Allowed sample) {} confirmed).getD {}) :=
    Transition.Machine.Reaches.getD_runAllowed _ (.start rfl) (by decide +kernel)
  exact ⟨by decide +kernel, by decide +kernel, (signed_with_consent reached).1.1⟩

/-- While a touch is queued the guest starts another session, whose message comes first. -/
def replaced : List Event :=
  shown "a" "pay 1" ++ .tick 1100 :: touched ++
    [.receive "a" .abort, .pop, .transition {}, .finalize, .reset] ++ shown "b" "pay 1000" ++
    [.pop, .transition {}]

/-- The prompt of the second session is signed at once, with the touch made for the first. -/
theorem touch_signs_other : ∃ state, (machine sample).Reachable state ∧
    ¬∀ entry ∈ state.sent, Consented sample entry := by
  refine ⟨((machine sample).run {} replaced).getD {}, ?_, fun all => ?_⟩
  · exact Transition.Machine.Reachable.getD_run _ (.start rfl) (by decide +kernel)
  · have mem : ∃ entry ∈ (((machine sample).run {} replaced).getD {}).sent,
        entry.session.serial = 1 ∧ entry.IsSecure = true ∧
          entry.cause.bind Thread.seen = some 0 := by decide +kernel
    obtain ⟨entry, mem, serial, secure, earlier⟩ := mem
    obtain ⟨message, secure⟩ := Sent.isSecure_iff.mp secure
    obtain ⟨_, thread, _, _, cause, _, _, seen, _⟩ := all entry mem message secure
    rw [cause, bind_some, seen, serial] at earlier
    cases earlier

end Ika.Confui
