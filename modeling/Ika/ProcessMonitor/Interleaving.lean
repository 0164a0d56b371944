import Ika.ProcessMonitor.Monitor

/-! Every step of the monitor, its parent and the processes keeps the invariant. -/

set_option autoImplicit false

namespace Ika.ProcessMonitor

open List Option Nat Bool

theorem MonitorEntry.expected_support (it : MonitorEntry) {status : Status}
    (expected : it.expected_exit status = true) (vmm : it.is_vmm = false) :
    it.is_critical = false := by
  unfold expected_exit at expected
  cases status with
  | exited code =>
    rw [vmm] at expected
    simpa using (and_eq_true_iff.mp expected).1
  | signaled signal => cases expected

namespace State.Kept

variable {restart_subprocesses : Bool} {state after : State}

section

variable (kept : state.Kept restart_subprocesses)
include kept

theorem at_main {main : Main} (here : state.main = main) :
    Kept {state with main} restart_subprocesses := by
  subst here
  exact kept

/-! ## The parent -/

theorem request {message : ParentToChildMessageType}
    (moved : state.request message = some after) : after.Kept restart_subprocesses := by
  unfold State.request at moved
  have idle : state.parent = .idle := by
    by_contra busy
    rw [if_neg busy] at moved
    cases moved
  rw [if_pos idle] at moved
  have turn := kept.turn
  rw [idle] at turn
  -- a request to suspend or to resume is told from a request to stop by its count only
  have ask : ∀ message, message ≠ .kStop → state.shut = false → Kept
      {state with requests := state.requests ++ [message], parent := .receiving,
                   asked := state.asked + 1} restart_subprocesses := by
    intro message asks opened
    obtain ⟨none, equal⟩ := turn opened
    exact {kept with
      asks := fun listed => by
        rcases mem_append.mp listed with old | new
        · exact kept.asks old
        · exact absurd (mem_singleton.mp new).symm asks
      stopRead := nofun
      parted := fun closed => by
        rcases kept.parted closed with here | here <;> cases idle.symm.trans here
      balance := fun working => by
        have balance := kept.balance working
        have counted : (state.requests ++ [message]).countP (· ≠ .kStop) =
            state.requests.countP (· ≠ .kStop) + 1 := by
          simp [countP_append, asks]
        change state.asked + 1 = state.answered +
          (state.requests ++ [message]).countP (· ≠ .kStop) + if state.comms.isBusy then 1 else 0
        rw [counted]
        omega
      turn := fun _ => by
        rw [if_pos rfl]
        dsimp only
        omega
      once := by
        dsimp only
        omega}
  cases message with
  | kStop =>
    dsimp only at moved
    split at moved
    · rename_i verdict result main
      cases moved
      exact {kept with
        whole := nofun
        running := fun _ => .inl rfl
        judged := nofun
        unended := nofun
        asks := fun _ => rfl
        stopRead := nofun
        ended := fun _ => .inr rfl
        parted := fun _ => .inr rfl
        turn := turn}
    · cases moved
      exact {kept with
        whole := nofun
        running := fun _ => .inl rfl
        judged := nofun
        unended := nofun
        asks := fun _ => rfl
        stopRead := fun _ => by
          by_cases shut : state.shut = true
          · exact .inr (kept.shutEnds shut).1
          · rw [if_neg shut]
            exact .inl (mem_append_right _ (mem_singleton_self _))
        parted := fun closed => by
          rcases kept.parted closed with here | here <;> cases idle.symm.trans here
        balance := fun working => by
          have balance := kept.balance working
          by_cases shut : state.shut = true
          · rwa [if_pos shut]
          · rw [if_neg shut]
            simpa [countP_append] using balance
        turn := turn}
  | kHostResume =>
    dsimp only at moved
    split_ifs at moved with shut
    · cases moved
      exact kept
    · cases moved
      exact ask _ (by decide) (eq_false_iff.mpr shut)
  | kHostSuspend =>
    dsimp only at moved
    split_ifs at moved with shut
    · cases moved
      exact kept
    · cases moved
      exact ask _ (by decide) (eq_false_iff.mpr shut)

theorem WaitForMonitor
    (moved : state.WaitForMonitor = some after) : after.Kept restart_subprocesses := by
  unfold State.WaitForMonitor at moved
  split_ifs at moved with idle
  cases moved
  have turn := kept.turn
  rw [idle] at turn
  exact {kept with
    stopRead := nofun
    ended := fun _ => .inr rfl
    parted := fun _ => .inl rfl
    turn := turn}

theorem receive (moved : state.receive = some after) : after.Kept restart_subprocesses := by
  unfold State.receive at moved
  split_ifs at moved with receiving answered shut
  · cases moved
    have parted : state.closed = true → _ := fun closed => kept.parted closed
    have turn := kept.turn
    rw [receiving] at turn parted
    exact {kept with
      stopRead := nofun
      parted := fun closed => by
        rcases parted closed with here | here <;> cases here
      turn := fun opened => by
        have := turn opened
        rw [if_pos rfl] at this
        rw [if_neg nofun]
        dsimp only
        omega}
  · cases moved
    exact {kept with
      stopRead := nofun
      parted := fun closed => by
        rcases kept.parted closed with here | here <;> cases receiving.symm.trans here
      turn := fun opened => by cases shut.symm.trans opened}

theorem waitpid (moved : state.waitpid = some after) : after.Kept restart_subprocesses := by
  unfold State.waitpid at moved
  split_ifs at moved with waiting
  split at moved
  · rename_i verdict result main
    cases moved
    have shut : state.shut = true := kept.joins (by rw [main]; rfl)
    exact {kept with
      stopRead := nofun
      ended := fun _ => .inr rfl
      parted := fun _ => .inr rfl
      turn := fun opened => by cases shut.symm.trans opened}
  · cases moved

end

/-! ## Processes -/

variable {pid : Nat} {status : Status} {it : MonitorEntry} {ok : Bool}

section

variable (kept : state.Kept restart_subprocesses)
include kept

theorem exit (moved : state.exit pid status = some after) : after.Kept restart_subprocesses := by
  unfold State.exit at moved
  split_ifs at moved with alive
  cases moved
  -- the process stays a child until it is waited for
  have children : List.Perm (state.alive.erase pid ++
      (state.zombies ++ [(pid, status)]).map Prod.fst) state.children := by
    rw [map_append, ← append_assoc]
    refine perm_append_comm.trans ?_
    exact (perm_cons_erase alive).symm.append_right _
  have same : ∀ other, other ∈ state.alive.erase pid ++
      (state.zombies ++ [(pid, status)]).map Prod.fst ↔ other ∈ state.children := fun _ =>
    children.mem_iff
  exact {kept with
    children := children.nodup_iff.mpr kept.children
    below := fun other child => kept.below other ((same other).mp child)
    apart := fun other before child => kept.apart other before ((same other).mp child)
    tracked := fun other listed => (kept.tracked other listed).imp_left (same other).mpr
    owned := fun other known child => kept.owned other known (child.imp_left (same other).mp)
    accounted := fun other known => (kept.accounted other known).imp_left (same other).mpr
    todo := fun entry listed => (same _).mpr (kept.todo entry listed)
    awaited := fun other here => (kept.awaited other here).imp_left (same other).mpr
    gone := fun other target child => kept.gone other target (mem_of_mem_erase child)
    woken := fun _ _ => append_ne_nil_of_right_ne_nil _ (cons_ne_nil _ _)}

theorem targets_started : ∀ pid ∈ state.targets, pid ∈ state.started := by
  intro pid target
  cases stopping : state.main.isStopping with
  | false =>
    rw [kept.early stopping] at target
    cases target
  | true =>
    have planned := kept.planned stopping
    have listed : pid ∈ state.pids.reverse := planned ▸ mem_append_left _ target
    exact kept.members pid (mem_reverse.mp listed)

theorem newChild {alive : List Nat} {zombies : List (Nat × Status)}
    (children : (alive ++ zombies.map Prod.fst).Perm (state.nextPid :: state.children))
    (runs : ∀ pid ∈ alive, pid ∈ state.alive ∨ pid = state.nextPid)
    (woken : state.zombies ≠ [] → zombies ≠ []) :
    Kept {state with alive, zombies, nextPid := state.nextPid + 1} restart_subprocesses := by
  have fresh : state.nextPid ∉ state.children := fun child =>
    absurd (kept.below _ child) (Nat.lt_irrefl _)
  have same : ∀ pid, pid ∈ alive ++ zombies.map Prod.fst ↔
      pid = state.nextPid ∨ pid ∈ state.children := fun pid =>
    children.mem_iff.trans mem_cons
  exact {kept with
    children := children.nodup_iff.mpr (nodup_cons.mpr ⟨fresh, kept.children⟩)
    below := fun pid child => by
      rcases (same pid).mp child with rfl | old
      · exact lt_succ_self _
      · exact lt_succ_of_lt (kept.below pid old)
    reapedBelow := fun pid before => lt_succ_of_lt (kept.reapedBelow pid before)
    startedBelow := fun pid known => lt_succ_of_lt (kept.startedBelow pid known)
    apart := fun pid before child => by
      rcases (same pid).mp child with rfl | old
      · exact absurd (kept.reapedBelow _ before) (Nat.lt_irrefl _)
      · exact kept.apart pid before old
    tracked := fun pid listed =>
      (kept.tracked pid listed).imp_left fun child => (same pid).mpr (.inr child)
    owned := fun pid known child => by
      refine kept.owned pid known (child.imp_left fun child => ?_)
      rcases (same pid).mp child with rfl | old
      · exact absurd (kept.startedBelow _ known) (Nat.lt_irrefl _)
      · exact old
    accounted := fun pid known =>
      (kept.accounted pid known).imp_left fun child => (same pid).mpr (.inr child)
    todo := fun entry listed => (same _).mpr (.inr (kept.todo entry listed))
    awaited := fun pid here => (kept.awaited pid here).imp_left fun child =>
      (same pid).mpr (.inr child)
    gone := fun pid target child => by
      rcases runs pid child with old | rfl
      · exact kept.gone pid target old
      · have := kept.startedBelow _ (kept.targets_started _ target)
        exact absurd this (Nat.lt_irrefl _)
    woken := fun waiting stopped => woken (kept.woken waiting stopped)}

theorem adopt : state.adopt.Kept restart_subprocesses := by
  refine kept.newChild ?_ ?_ id
  · exact (perm_append_singleton _ _).append_right _
  · intro pid child
    exact (mem_append.mp child).imp_right mem_singleton.mp

theorem removeChild (zombie : pid ∈ state.zombies.map Prod.fst) :
    (state.alive ++ (state.zombies.filter fun zombie => zombie.1 ≠ pid).map Prod.fst).Nodup ∧
    ∀ other, other ∈ state.alive ++
        (state.zombies.filter fun zombie => zombie.1 ≠ pid).map Prod.fst ↔
      other ∈ state.children ∧ other ≠ pid := by
  have sublist : ((state.zombies.filter fun zombie => zombie.1 ≠ pid).map Prod.fst).Sublist
      (state.zombies.map Prod.fst) := filter_sublist.map _
  refine ⟨kept.children.sublist ((Sublist.refl _).append sublist), fun other => ?_⟩
  constructor
  · intro child
    rcases mem_append.mp child with runs | ended
    · refine ⟨mem_append_left _ runs, ?_⟩
      exact (nodup_append.mp kept.children).2.2 other runs pid zombie
    · refine ⟨mem_append_right _ (sublist.subset ended), ?_⟩
      obtain ⟨entry, listed, rfl⟩ := List.mem_map.mp ended
      exact of_decide_eq_true (mem_filter.mp listed).2
  · rintro ⟨child, differ⟩
    rcases mem_append.mp child with runs | ended
    · exact mem_append_left _ runs
    · obtain ⟨entry, listed, rfl⟩ := List.mem_map.mp ended
      exact mem_append_right _
        (List.mem_map_of_mem (mem_filter.mpr ⟨listed, decide_eq_true differ⟩))

end

/-! ## The wait loop -/

theorem returns {verdict : Option ProcessMonitorExit}
    (kept : Kept {state with main := .checking} restart_subprocesses)
    (asked : state.stopAsked = true) :
    Kept {state with main := .returned verdict} restart_subprocesses :=
  {kept with
    whole := fun _ => rfl
    running := fun _ => .inr (some_ne_none _)
    judged := fun unasked => by cases asked.symm.trans unasked
    unended := fun unasked => by cases asked.symm.trans unasked
    shutEnds := fun shut => absurd rfl (kept.shutEnds shut).2
    ended := fun _ => .inl (by simp [isEnding, Main.verdict])
    woken := by rintro ⟨⟩}

section

variable (kept : state.Kept restart_subprocesses)
include kept

theorem asked_of_stopped (stopped : state.running = false) (open' : state.main.verdict = none) :
    state.stopAsked = true :=
  (kept.running stopped).resolve_right fun ends => ends open'

theorem check (moved : state.check = some after) : after.Kept restart_subprocesses := by
  unfold State.check at moved
  split at moved
  · rename_i main
    have kept := kept.at_main main
    split_ifs at moved with running
    · cases moved
      exact {kept with
        ended := fun ended => (kept.ended ended).imp_left fun ending => by
          simp [isEnding, Main.verdict, running] at ending
        woken := fun _ stopped => by cases running.symm.trans stopped}
    · cases moved
      exact kept.returns (kept.asked_of_stopped (eq_false_iff.mpr running) rfl)
  · cases moved

theorem wait (moved : state.wait pid = some after) : after.Kept restart_subprocesses := by
  unfold State.wait at moved
  split at moved
  · rename_i main
    have kept := kept.at_main main
    split at moved
    · rename_i found status zombie
      cases moved
      have key := find?_some zombie
      have key : found = pid := of_decide_eq_true key
      subst key
      have member : found ∈ state.zombies.map Prod.fst :=
        List.mem_map_of_mem (mem_of_find?_eq_some zombie)
      obtain ⟨distinct, same⟩ := kept.removeChild member
      have child : found ∈ state.children := mem_append_right _ member
      have none : state.targets = [] := kept.early rfl
      -- the child that was waited for is in hand now
      have place : ∀ {rest : Prop} other, other ∈ state.children ∨ rest →
          other ∈ state.alive ++ (state.zombies.filter fun zombie => zombie.1 ≠ found).map Prod.fst ∨
            some found = some other ∨ rest := by
        intro rest other place
        rcases place with child | rest
        · by_cases here : other = found
          · exact .inr (.inl (congrArg some here.symm))
          · exact .inl ((same other).mpr ⟨child, here⟩)
        · exact .inr (.inr rest)
      exact {kept with
        children := distinct
        below := fun other child => kept.below other ((same other).mp child).1
        reapedBelow := fun other before => by
          rcases mem_append.mp before with old | new
          · exact kept.reapedBelow other old
          · rw [mem_singleton.mp new]
            exact kept.below _ child
        apart := fun other before child => by
          obtain ⟨child, differ⟩ := (same other).mp child
          rcases mem_append.mp before with old | new
          · exact kept.apart other old child
          · exact differ (mem_singleton.mp new)
        inHand := fun other here => by
          rw [← some_inj.mp here]
          exact mem_append_right _ (mem_singleton_self _)
        tracked := fun other listed =>
          place other ((kept.tracked other listed).imp_right fun rest => rest.resolve_left nofun)
        owned := fun other known here => by
          refine kept.owned other known (.inl ?_)
          rcases here with child | here
          · exact ((same other).mp child).1
          · exact some_inj.mp here ▸ child
        accounted := fun other known =>
          place other ((kept.accounted other known).imp_right fun rest => rest.resolve_left nofun)
        todo := nofun
        awaited := nofun
        targets := fun other target => by
          rw [none] at target
          cases target
        ended := fun ended => (kept.ended ended).imp_left fun ending => by
          simp only [isEnding, Main.verdict, isSome_none, Bool.or_false] at ending
          simp [isEnding, ending]
        woken := nofun}
    · cases moved
  · cases moved

theorem waitFails (asked : state.stopAsked = true)
    (moved : state.waitFails = some after) : after.Kept restart_subprocesses := by
  unfold State.waitFails at moved
  split at moved
  · rename_i main
    have kept := kept.at_main main
    split_ifs at moved
    cases moved
    have checking : Kept {state with main := .checking} restart_subprocesses :=
      {kept with woken := by rintro ⟨⟩}
    exact checking.returns asked
  · cases moved

end

theorem find?_eq_none : state.find? pid = none ↔ pid ∉ state.pids := by
  constructor
  · intro none listed
    obtain ⟨entry, member, same⟩ := List.mem_map.mp listed
    exact List.find?_eq_none.mp none entry member (decide_eq_true same)
  · intro unlisted
    refine List.find?_eq_none.mpr fun entry member same => unlisted ?_
    exact List.mem_map.mpr ⟨entry, member, of_decide_eq_true same⟩

section

variable (kept : state.Kept restart_subprocesses)
include kept

theorem unlisted {pid : Nat} {status : Status}
    (main : state.main = .handling pid status) (unlisted : pid ∉ state.pids) :
    Kept {state with main := .checking} restart_subprocesses := by
  have none : state.find? pid = none := find?_eq_none.mpr unlisted
  have kept := kept.at_main main
  exact {kept with
    inHand := by rintro _ ⟨⟩
    tracked := fun other listed => (kept.tracked other listed).imp_right fun rest =>
      .inr (rest.resolve_left fun same => unlisted (some_inj.mp same ▸ listed))
    owned := fun other known child => kept.owned other known (child.imp_right (by rintro ⟨⟩))
    accounted := fun other known => by
      refine (kept.accounted other known).imp_right fun rest =>
        .inr (rest.resolve_left fun same => ?_)
      have listed := kept.owned other known (.inr same)
      exact unlisted (some_inj.mp same ▸ listed)
    ended := fun ended => (kept.ended ended).imp_left fun ending => by
      have final : isFinal {state with main := .handling pid status} restart_subprocesses pid
          status = false := by
        change (state.find? pid).any _ = false
        rw [none]
        rfl
      simpa [isEnding, Main.verdict, final] using ending
    woken := by rintro ⟨⟩}

theorem recheck
    (spared : state.running = true ∨ ∀ pid, state.main.inHand = some pid → pid ∉ state.pids)
    (moved : state.recheck = some after) : after.Kept restart_subprocesses := by
  unfold State.recheck at moved
  split at moved
  · rename_i pid status main
    have kept := kept.at_main main
    have handling : Kept {state with main := .handling pid status}
        restart_subprocesses :=
      {kept with
        ended := fun ended => (kept.ended ended).imp_left fun ending => by
          simpa [isEnding, Main.verdict, isFinal, find?] using ending
        woken := by rintro ⟨⟩}
    split_ifs at moved with running
    · cases moved
      exact handling
    · cases moved
      have spared := spared.resolve_left running pid (by rw [main]; rfl)
      exact (handling.unlisted rfl spared).returns
        (kept.asked_of_stopped (eq_false_iff.mpr running) rfl)
  · cases moved

/-! ## The exits of monitored processes -/

theorem inHand_notChild (main : state.main = .handling pid status) : pid ∉ state.children :=
  kept.apart pid (kept.inHand pid (by rw [main]; rfl))

theorem removeEntry {running : Bool} {main : Main}
    (here : state.main = .handling it.pid status) (found : state.find? it.pid = some it)
    (goes : main = .checking ∧ running = state.running ∧
        (it.ends restart_subprocesses status = none ∨ state.running = false) ∨
      ∃ exit, main = .returned (some exit) ∧ running = false ∧
        it.ends restart_subprocesses status = some exit) :
    Kept {state with
      monitored := state.monitored.filter fun other => other.pid ≠ it.pid
      handled := state.handled ++ [(it, status)]
      running, main} restart_subprocesses := by
  have outside := kept.inHand_notChild here
  have kept := kept.at_main here
  have sublist : ((state.monitored.filter fun other => other.pid ≠ it.pid).map
      MonitorEntry.pid).Sublist state.pids := filter_sublist.map _
  have differ : ∀ pid ∈ (state.monitored.filter fun other => other.pid ≠ it.pid).map
      MonitorEntry.pid, pid ≠ it.pid := by
    intro pid listed
    obtain ⟨other, member, rfl⟩ := List.mem_map.mp listed
    exact of_decide_eq_true (mem_filter.mp member).2
  have entries := kept.entries.sublist sublist
  have members : ∀ pid ∈ (state.monitored.filter fun other => other.pid ≠ it.pid).map
      MonitorEntry.pid, pid ∈ state.started := fun pid listed =>
    kept.members pid (sublist.subset listed)
  have tracked : ∀ pid ∈ (state.monitored.filter fun other => other.pid ≠ it.pid).map
      MonitorEntry.pid, pid ∈ state.children ∨ none = some pid ∨ pid ∈ state.targets := by
    intro pid listed
    refine (kept.tracked pid (sublist.subset listed)).imp_right fun rest =>
      .inr (rest.resolve_left fun same => ?_)
    exact differ pid listed (some_inj.mp same).symm
  have owned : ∀ pid ∈ state.started, pid ∈ state.children ∨ none = some pid →
      pid ∈ (state.monitored.filter fun other => other.pid ≠ it.pid).map MonitorEntry.pid := by
    intro pid known place
    have child : pid ∈ state.children := place.resolve_right (by rintro ⟨⟩)
    obtain ⟨entry, member, rfl⟩ := List.mem_map.mp (kept.owned pid known (.inl child))
    refine List.mem_map_of_mem (mem_filter.mpr ⟨member, decide_eq_true fun same => ?_⟩)
    exact outside (same ▸ child)
  have accounted : ∀ pid ∈ state.started, pid ∈ state.children ∨ none = some pid ∨
      (∃ exit ∈ state.handled ++ [(it, status)], exit.1.pid = pid) ∨ pid ∈ state.targets := by
    intro pid known
    rcases kept.accounted pid known with child | same | ⟨exit, before, same⟩ | target
    · exact .inl child
    · refine .inr (.inr (.inl ⟨(it, status), ?_, some_inj.mp same⟩))
      exact mem_append_right _ (mem_singleton_self _)
    · exact .inr (.inr (.inl ⟨exit, mem_append_left _ before, same⟩))
    · exact .inr (.inr (.inr target))
  -- no exit before this one has ended the monitor
  have open' : state.stopAsked = false → ∀ exit ∈ state.handled, ∀ verdict,
      exit.1.ends restart_subprocesses exit.2 ≠ some verdict := by
    intro unasked exit before verdict ends
    cases kept.unended unasked exit before verdict ends
  rcases goes with ⟨rfl, rfl, calm⟩ | ⟨exit, rfl, rfl, ends⟩
  · exact {kept with
      entries, members, tracked, owned, accounted
      inHand := by rintro _ ⟨⟩
      planned := by rintro ⟨⟩
      judged := by rintro _ _ ⟨⟩
      unended := fun unasked exit listed verdict ends => by
        rcases mem_append.mp listed with before | new
        · exact absurd ends (open' unasked exit before verdict)
        · rw [mem_singleton.mp new] at ends
          rcases calm with never | stopped
          · cases ends.symm.trans never
          · have asked := (kept.running stopped).resolve_right fun none => none rfl
            cases unasked.symm.trans asked
      ended := fun ended => (kept.ended ended).imp_left fun ending => by
        have final : isFinal {state with main := .handling it.pid status} restart_subprocesses
            it.pid status = (it.ends restart_subprocesses status).isSome := by
          change (state.find? it.pid).any _ = _
          rw [found]
          rfl
        rcases calm with never | stopped
        · simpa [isEnding, Main.verdict, final, never] using ending
        · simp [isEnding, stopped]
      woken := by rintro ⟨⟩}
  · exact {kept with
      entries, members, tracked, owned, accounted
      inHand := by rintro _ ⟨⟩
      planned := by rintro ⟨⟩
      running := fun _ => .inr (some_ne_none _)
      judged := fun unasked verdict same => by
        rw [← some_inj.mp same]
        exact ⟨some_ne_none _, (it, status),
          mem_append_right _ (mem_singleton_self _), ends⟩
      unended := fun unasked other listed verdict ends' => by
        rcases mem_append.mp listed with before | new
        · exact absurd ends' (open' unasked other before verdict)
        · rw [mem_singleton.mp new] at ends'
          exact congrArg some (ends.symm.trans ends')
      stopRead := fun _ => .inr rfl
      shutEnds := fun shut => absurd rfl (kept.shutEnds shut).2
      ended := fun _ => .inl rfl
      woken := by rintro ⟨⟩}

theorem restart (here : state.main = .handling it.pid status) (member : it ∈ state.monitored)
    (found : state.find? it.pid = some it) (never : it.ends restart_subprocesses status = none) :
    Kept {state with
      monitored := state.monitored.map fun other =>
        if other.pid = it.pid then {other with pid := state.nextPid} else other
      handled := state.handled ++ [(it, status)]
      alive := state.alive ++ [state.nextPid]
      started := state.started ++ [state.nextPid]
      nextPid := state.nextPid + 1
      main := .checking} restart_subprocesses := by
  have outside := kept.inHand_notChild here
  have listed : it.pid ∈ state.pids := List.mem_map_of_mem member
  have fresh : state.nextPid ∉ state.started := fun known =>
    absurd (kept.startedBelow _ known) (Nat.lt_irrefl _)
  have before := kept
  have kept := (kept.at_main here).adopt
  have pids : (state.monitored.map fun other => if other.pid = it.pid
      then {other with pid := state.nextPid} else other).map MonitorEntry.pid =
        state.pids.map fun pid => if pid = it.pid then state.nextPid else pid := by
    unfold pids
    rw [List.map_map, List.map_map]
    refine map_congr_left fun other _ => ?_
    simp only [Function.comp_apply]
    split <;> rfl
  have same : ∀ pid, pid ∈ (state.monitored.map fun other => if other.pid = it.pid
      then {other with pid := state.nextPid} else other).map MonitorEntry.pid ↔
        pid ∈ state.pids ∧ pid ≠ it.pid ∨ pid = state.nextPid := by
    intro pid
    rw [pids, List.mem_map]
    constructor
    · rintro ⟨old, known, rfl⟩
      split_ifs with ended
      · exact .inr rfl
      · exact .inl ⟨known, ended⟩
    · rintro (⟨known, differ⟩ | rfl)
      · exact ⟨pid, known, if_neg differ⟩
      · exact ⟨it.pid, listed, if_pos rfl⟩
  have entries : (state.pids.map fun pid => if pid = it.pid then state.nextPid else pid).Nodup := by
    refine Nodup.map_on (fun one known other known' equal => ?_) before.entries
    have fresh' : ∀ pid ∈ state.pids, pid ≠ state.nextPid := fun pid known same =>
      fresh (same ▸ before.members pid known)
    split_ifs at equal with first second second
    · exact first.trans second.symm
    · exact absurd equal.symm (fresh' other known')
    · exact absurd equal (fresh' one known)
    · exact equal
  rw [← pids] at entries
  have child : state.nextPid ∈ state.adopt.children :=
    mem_append_left _ (mem_append_right _ (mem_singleton_self _))
  exact {kept with
    entries
    startedBelow := fun pid known => by
      rcases mem_append.mp known with old | new
      · exact kept.startedBelow pid old
      · rw [mem_singleton.mp new]
        exact lt_succ_self _
    members := fun pid known => by
      rcases (same pid).mp known with ⟨old, -⟩ | rfl
      · exact mem_append_left _ (before.members pid old)
      · exact mem_append_right _ (mem_singleton_self _)
    inHand := nofun
    tracked := fun pid known => by
      rcases (same pid).mp known with ⟨old, differ⟩ | rfl
      · exact (kept.tracked pid old).imp_right fun rest =>
          .inr (rest.resolve_left fun here => differ (some_inj.mp here).symm)
      · exact .inl child
    owned := fun pid known place => by
      refine (same pid).mpr ?_
      rcases mem_append.mp known with old | new
      · have place := place.resolve_right nofun
        refine .inl ⟨kept.owned pid old (.inl place), ?_⟩
        rintro rfl
        exact kept.apart _ (kept.inHand _ rfl) place
      · exact .inr (mem_singleton.mp new)
    accounted := fun pid known => by
      rcases mem_append.mp known with old | new
      · rcases kept.accounted pid old with child | here | ⟨exit, past, ended⟩ | target
        · exact .inl child
        · refine .inr (.inr (.inl ⟨(it, status), ?_, some_inj.mp here⟩))
          exact mem_append_right _ (mem_singleton_self _)
        · exact .inr (.inr (.inl ⟨exit, mem_append_left _ past, ended⟩))
        · exact .inr (.inr (.inr target))
      · rw [mem_singleton.mp new]
        exact .inl child
    planned := nofun
    judged := nofun
    unended := fun unasked exit known verdict ends => by
      rcases mem_append.mp known with past | new
      · cases kept.unended unasked exit past verdict ends
      · rw [mem_singleton.mp new] at ends
        cases ends.symm.trans never
    ended := fun ended => (before.ended ended).imp_left fun ending => by
      have final : state.isFinal restart_subprocesses it.pid status = false := by
        unfold isFinal
        rw [found]
        simp [never]
      simpa [isEnding, here, Main.verdict, final] using ending
    woken := nofun}

theorem handle
    (moved : state.handle restart_subprocesses = some after) : after.Kept restart_subprocesses := by
  unfold State.handle at moved
  split at moved
  · rename_i pid status main
    split_ifs at moved
    split at moved
    · rename_i none
      cases moved
      exact kept.unlisted main (find?_eq_none.mp none)
    · rename_i it found
      cases moved
      have key := find?_some found
      have key : it.pid = pid := of_decide_eq_true key
      subst key
      unfold judge
      dsimp only
      split_ifs with expected vmm restarts crash
      · exact kept.removeEntry main found
          (.inr ⟨_, rfl, rfl, by simp [MonitorEntry.ends, vmm, expected]⟩)
      · refine kept.removeEntry main found (.inl ⟨rfl, rfl, .inl ?_⟩)
        have support := it.expected_support expected (eq_false_iff.mpr vmm)
        simp [MonitorEntry.ends, vmm, support]
      · refine kept.restart main (mem_of_find?_eq_some found) found ?_
        simp [MonitorEntry.ends, expected, restarts]
      · obtain ⟨-, critical⟩ := and_eq_true_iff.mp crash
        refine kept.removeEntry main found (.inr ⟨_, rfl, rfl, ?_⟩)
        simp [MonitorEntry.ends, expected, critical, restarts]
      · refine kept.removeEntry main found (.inl ⟨rfl, rfl, ?_⟩)
        cases stopped : state.running with
        | false => exact .inr rfl
        | true =>
          have support : it.is_critical = false := by simpa [stopped] using crash
          exact .inl (by simp [MonitorEntry.ends, expected, support])
  · cases moved

/-! ## The end of the monitor -/

theorem shutdown (moved : state.shutdown = some after) : after.Kept restart_subprocesses := by
  unfold State.shutdown at moved
  split at moved
  · rename_i verdict main
    have kept := kept.at_main main
    cases moved
    exact {kept with
      running := fun _ => .inr (some_ne_none _)
      stopRead := fun _ => .inr rfl
      woken := nofun
      shutEnds := fun _ => ⟨rfl, some_ne_none _⟩
      joins := fun _ => rfl
      ended := fun _ => .inl rfl
      turn := nofun}
  · cases moved

theorem join (moved : state.join = some after) : after.Kept restart_subprocesses := by
  unfold State.join at moved
  split at moved
  · rename_i verdict main
    have kept := kept.at_main main
    split_ifs at moved
    cases moved
    have none : state.targets = [] := kept.early rfl
    exact {kept with
      early := nofun
      planned := fun _ => by
        change state.targets ++ state.monitored.reverse.map MonitorEntry.pid = state.pids.reverse
        rw [none, nil_append, map_reverse]
        rfl
      todo := fun entry listed => by
        have listed : entry.pid ∈ state.pids := List.mem_map_of_mem (mem_reverse.mp listed)
        rcases kept.tracked _ listed with child | here | target
        · exact child
        · cases here
        · change entry.pid ∈ state.targets at target
          rw [none] at target
          cases target
      ended := fun _ => .inl (by simp [isEnding, Main.verdict])
      woken := nofun}
  · cases moved

theorem stop {result : StopperResult}
    (works : result ≠ .kFailure ∨ state.stopAsked = true ∧
      ∀ entry ∈ state.main.todo.head?, entry.pid ∉ state.alive)
    (moved : state.stop result = some after) : after.Kept restart_subprocesses := by
  unfold State.stop at moved
  split at moved
  · rename_i verdict entry todo all main
    have spared := works
    rw [main] at spared
    have kept := kept.at_main main
    have child : entry.pid ∈ state.children := kept.todo entry mem_cons_self
    have idle : ∀ pid ∈ state.targets, pid ∉ state.alive := fun pid target alive => by
      cases kept.gone pid target alive
    have planned : (state.targets ++ [entry.pid]) ++ todo.map MonitorEntry.pid =
        state.pids.reverse := by
      rw [append_assoc]
      exact kept.planned rfl
    have tracked : ∀ pid ∈ state.pids, pid ∈ state.children ∨ none = some pid ∨
        pid ∈ state.targets ++ [entry.pid] := fun pid listed =>
      (kept.tracked pid listed).imp_right fun rest => rest.imp_right (mem_append_left _)
    have accounted : ∀ pid ∈ state.started, pid ∈ state.children ∨ none = some pid ∨
        (∃ exit ∈ state.handled, exit.1.pid = pid) ∨ pid ∈ state.targets ++ [entry.pid] :=
      fun pid known => (kept.accounted pid known).imp_right fun rest =>
        rest.imp_right fun rest => rest.imp_right (mem_append_left _)
    have targets : ∀ pid ∈ state.targets ++ [entry.pid], pid ∉ state.reaped := by
      intro pid target before
      rcases mem_append.mp target with old | new
      · exact kept.targets pid old before
      · rw [mem_singleton.mp new] at before
        exact kept.apart _ before child
    split_ifs at moved with failed
    · cases moved
      obtain ⟨asked, ended⟩ := spared.resolve_left (absurd failed)
      exact {kept with
        tracked, accounted, targets
        early := nofun
        planned := fun _ => planned
        todo := fun other listed => kept.todo other (mem_cons_of_mem _ listed)
        awaited := nofun
        gone := fun pid target alive => by
          rcases mem_append.mp target with old | new
          · exact absurd alive (idle pid old)
          · rw [mem_singleton.mp new] at alive
            exact absurd alive (ended entry rfl)
        whole := fun unasked => by cases asked.symm.trans unasked
        woken := nofun}
    · cases moved
      exact {kept with
        tracked, accounted, targets
        early := nofun
        planned := fun _ => planned
        todo := fun other listed => kept.todo other (mem_cons_of_mem _ listed)
        awaited := fun pid here => by
          rw [← some_inj.mp here]
          exact ⟨child, mem_append_right _ (mem_singleton_self _)⟩
        gone := fun pid target alive => by
          rcases mem_append.mp target with old | new
          · exact absurd alive (idle pid old)
          · exact congrArg some (mem_singleton.mp new).symm
        woken := nofun}
  · cases moved

theorem Wait (moved : state.Wait = some after) : after.Kept restart_subprocesses := by
  unfold State.Wait at moved
  split at moved
  · rename_i verdict entry todo all main
    have kept := kept.at_main main
    obtain ⟨child, target⟩ := kept.awaited entry.pid rfl
    split_ifs at moved with alive zombie
    · cases moved
      obtain ⟨distinct, same⟩ := kept.removeChild zombie
      have planned : state.targets ++ todo.map MonitorEntry.pid = state.pids.reverse :=
        kept.planned rfl
      have apart : ∀ other ∈ todo, other.pid ≠ entry.pid := by
        intro other listed equal
        have nodup := planned ▸ nodup_reverse.mpr kept.entries
        exact (nodup_append.mp nodup).2.2 entry.pid target other.pid
          (List.mem_map_of_mem listed) equal.symm
      -- the process is among the targets, so it need not be a child
      have place : ∀ {rest : Prop} pid, pid ∈ state.children ∨ rest ∨ pid ∈ state.targets →
          pid ∈ state.alive ++
              (state.zombies.filter fun zombie => zombie.1 ≠ entry.pid).map Prod.fst ∨
            rest ∨ pid ∈ state.targets := by
        intro rest pid place
        rcases place with child | rest
        · by_cases here : pid = entry.pid
          · exact .inr (.inr (here ▸ target))
          · exact .inl ((same pid).mpr ⟨child, here⟩)
        · exact .inr rest
      exact {kept with
        children := distinct
        below := fun pid child => kept.below pid ((same pid).mp child).1
        apart := fun pid before child => kept.apart pid before ((same pid).mp child).1
        tracked := fun pid listed => place pid (kept.tracked pid listed)
        owned := fun pid known child =>
          kept.owned pid known (child.imp_left fun child => ((same pid).mp child).1)
        accounted := fun pid known => by
          have := place pid ((kept.accounted pid known).imp_right or_assoc.mpr)
          exact this.imp_right or_assoc.mp
        todo := fun other listed => (same _).mpr ⟨kept.todo other listed, apart other listed⟩
        awaited := nofun
        gone := fun pid target runs => by
          have here := some_inj.mp (kept.gone pid target runs)
          exact absurd (here ▸ runs) alive
        woken := nofun}
    · rcases mem_append.mp child with runs | ended
      · exact absurd runs alive
      · exact absurd ended zombie
  · cases moved

theorem finish (moved : state.finish = some after) : after.Kept restart_subprocesses := by
  unfold State.finish at moved
  split at moved
  · rename_i verdict all main
    have kept := kept.at_main main
    cases moved
    exact {kept with
      whole := fun unasked => by
        have all : all = true := kept.whole unasked
        rw [all]
        exact decide_eq_true rfl
      woken := nofun}
  · cases moved

/-! ## The socket thread -/

theorem endComms (may : state.isEnding restart_subprocesses = true ∨ state.closed = true) :
    Kept {state with comms := .ended} restart_subprocesses :=
  {kept with
    ended := fun _ => may
    balance := fun working => absurd rfl working}

end

theorem isEnding_stopped (stopped : state.running = false) :
    state.isEnding restart_subprocesses = true := by
  simp [isEnding, stopped]

section

variable (kept : state.Kept restart_subprocesses)
include kept

theorem closes (closed : (state.shut || state.closed) = true) :
    state.isEnding restart_subprocesses = true ∨ state.closed = true := by
  rcases or_eq_true_iff.mp closed with shut | closed
  · exact .inl (isEnding_stopped (kept.shutEnds shut).1)
  · exact .inr closed

theorem poll (moved : state.poll = some after) : after.Kept restart_subprocesses := by
  unfold State.poll at moved
  split at moved
  · rename_i comms
    split_ifs at moved with running
    · cases moved
      have balance := kept.balance (by rw [comms]; nofun)
      rw [comms] at balance
      exact {kept with
        ended := nofun
        balance := fun _ => balance}
    · cases moved
      exact kept.endComms (.inl (isEnding_stopped (eq_false_iff.mpr running)))
  · cases moved

theorem ReceiveMessage
    (moved : state.ReceiveMessage = some after) : after.Kept restart_subprocesses := by
  unfold State.ReceiveMessage at moved
  split at moved
  · rename_i comms
    have balance := kept.balance (by rw [comms]; nofun)
    rw [comms] at balance
    split at moved
    · rename_i requests queue
      cases moved
      rw [queue] at balance
      have asked : state.stopAsked = true := kept.asks (queue ▸ mem_cons_self)
      have children : (state.alive ++ (state.zombies ++ [(state.nextPid, Status.exited 0)]).map
          Prod.fst).Perm (state.nextPid :: state.children) := by
        rw [map_append, ← append_assoc]
        exact perm_append_singleton _ _
      have kept := kept.newChild children (fun _ runs => .inl runs) fun _ =>
        append_ne_nil_of_right_ne_nil _ (cons_ne_nil _ _)
      exact {kept with
        running := fun _ => .inl asked
        asks := fun _ => asked
        stopRead := fun _ => .inr rfl
        woken := fun _ _ => append_ne_nil_of_right_ne_nil _ (cons_ne_nil _ _)
        shutEnds := fun shut => ⟨rfl, (kept.shutEnds shut).2⟩
        ended := nofun
        balance := fun _ => by
          rwa [countP_cons_of_neg (by decide)] at balance}
    · rename_i message requests other queue
      cases moved
      rw [queue] at balance
      exact {kept with
        asks := fun listed => kept.asks (queue ▸ mem_cons_of_mem _ listed)
        stopRead := fun stopping => (kept.stopRead stopping).imp_left fun listed => by
          rw [queue] at listed
          exact (mem_cons.mp listed).resolve_left fun same => other same.symm
        ended := nofun
        balance := fun _ => by
          have counted : (message :: requests).countP (· ≠ .kStop) =
              requests.countP (· ≠ .kStop) + 1 := countP_cons_of_pos (decide_eq_true other)
          rw [counted] at balance
          exact balance}
    · rename_i queue
      split_ifs at moved with closed
      cases moved
      exact kept.endComms (kept.closes closed)
  · cases moved

theorem secure_env
    (works : (state.hasSecureEnv && !ok) = true → state.isEnding restart_subprocesses = true)
    (moved : state.secure_env ok = some after) : after.Kept restart_subprocesses := by
  unfold State.secure_env at moved
  split at moved
  · rename_i comms
    split_ifs at moved with failed
    · cases moved
      exact kept.endComms (.inl (works failed))
    · cases moved
      have balance := kept.balance (by rw [comms]; nofun)
      rw [comms] at balance
      exact {kept with
        ended := nofun
        balance := fun _ => balance}
  · cases moved

theorem signal
    (works : ∀ entry todo, state.comms = .signalling (entry :: todo) →
      state.isSignalled entry ok = true ∨ state.isEnding restart_subprocesses = true)
    (moved : state.signal ok = some after) : after.Kept restart_subprocesses := by
  unfold State.signal at moved
  split at moved
  · rename_i entry todo comms
    split_ifs at moved with signalled
    · cases moved
      have balance := kept.balance (by rw [comms]; rintro ⟨⟩)
      rw [comms] at balance
      exact {kept with
        ended := by rintro ⟨⟩
        balance := fun _ => balance}
    · cases moved
      exact kept.endComms (.inl ((works entry todo comms).resolve_left signalled))
  · rename_i comms
    have balance := kept.balance (by rw [comms]; rintro ⟨⟩)
    rw [comms] at balance
    split_ifs at moved with closed
    · cases moved
      exact kept.endComms (kept.closes closed)
    · cases moved
      have shut : state.shut = false :=
        eq_false_iff.mpr fun shut => closed (or_eq_true_iff.mpr (.inl shut))
      have turn := kept.turn shut
      simp only [Comms.isBusy, if_true] at balance
      -- the parent waits for this answer
      by_cases receiving : state.parent = .receiving
      · rw [if_pos receiving] at turn
        exact {kept with
          ended := by rintro ⟨⟩
          balance := fun _ => by
            change state.asked = state.answered + 1 + state.requests.countP _ + 0
            omega
          turn := fun _ => by
            rw [if_pos receiving]
            dsimp only
            omega
          once := by
            dsimp only
            omega}
      · rw [if_neg receiving] at turn
        omega
  · cases moved

end

end State.Kept

end Ika.ProcessMonitor
