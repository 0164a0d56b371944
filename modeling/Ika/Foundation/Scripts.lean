import Mathlib.Init

/-!
Scripts of atomic commands, and rules for a script that runs among others.

A command answers yes or no, and what follows depends on the answer. Between two commands of a
script the others may change what it sees.
-/

set_option autoImplicit false

namespace Scripts

inductive Script (Command α : Type) where
  | done (result : α)
  | call (command : Command) (next : Bool → Script Command α)

variable {Command State α β : Type}

namespace Script

def bind : Script Command α → (α → Script Command β) → Script Command β
  | done result, rest => rest result
  | call command next, rest => call command fun answer => (next answer).bind rest

instance : Monad (Script Command) where
  pure := done
  bind := bind

def command (command : Command) : Script Command Bool := call command done

def when (cond : Bool) (script : Script Command Unit) : Script Command Unit :=
  if cond then script else done ()

/-- Runs one script after another up to the first that fails, as a sequence of `CF_EXPECT`. -/
def expectAll : List (Script Command Bool) → Script Command Bool
  | [] => done true
  | script :: rest => script.bind fun ok => if ok then expectAll rest else done false

variable (result : α)

@[simp] theorem pure_eq : (pure result : Script Command α) = done result := rfl

@[simp] theorem bind_eq (script : Script Command α) (rest : α → Script Command β) :
    script >>= rest = script.bind rest := rfl

@[simp] theorem bind_done (rest : α → Script Command β) :
    (done result : Script Command α).bind rest = rest result := rfl

@[simp] theorem bind_call (command : Command) (next : Bool → Script Command α)
    (rest : α → Script Command β) :
    (call command next).bind rest = call command fun answer => (next answer).bind rest := rfl

@[simp] theorem bind_command (cmd : Command) (rest : Bool → Script Command β) :
    (command cmd).bind rest = call cmd rest := rfl

theorem ite_bind (cond : Prop) [Decidable cond] (first second : Script Command α)
    (rest : α → Script Command β) : (if cond then first else second).bind rest =
      if cond then first.bind rest else second.bind rest := apply_ite (bind · rest) ..

section Interpret

variable {m : Type → Type} [Monad m] (act : Command → m Bool)

/-- Runs a script in another monad, where each command is acted on. -/
def interpret : Script Command α → m α
  | done result => pure result
  | call command next => do (next (← act command)).interpret

@[simp] theorem interpret_done : (done result).interpret act = pure result := rfl

@[simp] theorem interpret_call (command : Command) (next : Bool → Script Command α) :
    (call command next).interpret act = act command >>= fun answer => (next answer).interpret act :=
  rfl

@[simp] theorem interpret_ite (cond : Prop) [Decidable cond] (first second : Script Command α) :
    (if cond then first else second).interpret act =
      if cond then first.interpret act else second.interpret act := apply_ite ..

variable [LawfulMonad m]

@[simp] theorem interpret_command (cmd : Command) : (command cmd).interpret act = act cmd :=
  bind_pure (act cmd)

@[simp] theorem interpret_bind (script : Script Command α) (rest : α → Script Command β) :
    (script.bind rest).interpret act =
      script.interpret act >>= fun result => (rest result).interpret act := by
  induction script with
  | done result => simp only [bind, interpret, LawfulMonad.pure_bind]
  | call command next ih => simp only [bind, interpret, ih, LawfulMonad.bind_assoc]

end Interpret

/-- On every path the commands are of this kind, and so is the result. -/
def Only (can : Command → Bool → Prop) (kind : Command → Prop) (ends : α → Prop) :
    Script Command α → Prop
  | done result => ends result
  | call command next => kind command ∧
      ∀ answer, can command answer → (next answer).Only can kind ends

variable {can : Command → Bool → Prop} {kind : Command → Prop} {ends : α → Prop}
  {last : β → Prop}

@[simp] theorem only_done :
    (done result : Script Command α).Only can kind ends ↔ ends result := Iff.rfl

@[simp] theorem only_call (command : Command) (next : Bool → Script Command α) :
    (call command next).Only can kind ends ↔ kind command ∧
      ∀ answer, can command answer → (next answer).Only can kind ends := Iff.rfl

@[simp] theorem only_command {ends : Bool → Prop} (cmd : Command) :
    (command cmd).Only can kind ends ↔ kind cmd ∧ ∀ answer, can cmd answer → ends answer :=
  Iff.rfl

theorem Only.bind {script : Script Command α} {rest : α → Script Command β}
    (first : script.Only can kind ends)
    (second : ∀ result, ends result → (rest result).Only can kind last) :
    (script.bind rest).Only can kind last := by
  induction script with
  | done result => exact second result first
  | call command next ih => exact ⟨first.1, fun answer may => ih answer (first.2 answer may)⟩

theorem Only.when {cond : Bool} {script : Script Command Unit}
    (only : script.Only can kind fun _ => True) : (when cond script).Only can kind fun _ => True := by
  unfold Script.when
  split
  · exact only
  · trivial

theorem Only.expectAll {scripts : List (Script Command Bool)}
    (each : ∀ script ∈ scripts, script.Only can kind fun _ => True) :
    (expectAll scripts).Only can kind fun _ => True := by
  induction scripts with
  | nil => trivial
  | cons script rest ih =>
    refine (each script List.mem_cons_self).bind fun ok _ => ?_
    cases ok
    · trivial
    · exact ih fun other mem => each other (List.mem_cons_of_mem script mem)

theorem bind_assoc {γ : Type} (script : Script Command α) (rest : α → Script Command β)
    (more : β → Script Command γ) :
    (script.bind rest).bind more = script.bind fun result => (rest result).bind more := by
  induction script with
  | done result => rfl
  | call command next ih =>
    simp only [bind_call]
    congr 1
    funext answer
    exact ih answer

theorem expectAll_append (first second : List (Script Command Bool)) :
    expectAll (first ++ second) =
      (expectAll first).bind fun ok => if ok then expectAll second else done false := by
  induction first with
  | nil => rfl
  | cons script rest ih =>
    simp only [List.cons_append, expectAll, ih, bind_assoc]
    congr 1
    funext ok
    cases ok <;> rfl

end Script

/-- How a script sees the others and itself run. -/
structure Setting (Command State : Type) where
  env : State → State → Prop
  demand : Command → State → Prop
  act : Command → State → Bool → State → Prop
  env_refl : ∀ state, env state state
  env_trans : ∀ first second third, env first second → env second third → env first third

namespace Setting

open Script

variable (setting : Setting Command State)

def Sure : Script Command α → (α → State → Prop) → State → Prop
  | done result, post, state => ∀ after, setting.env state after → post result after
  | call command next, post, state => ∀ later, setting.env state later →
      setting.demand command later ∧
        ∀ answer after, setting.act command later answer after → Sure (next answer) post after

def Stable (assertion : State → Prop) : Prop :=
  ∀ state after, assertion state → setting.env state after → assertion after

def Triple (pre : State → Prop) (script : Script Command α) (post : α → State → Prop) : Prop :=
  ∀ state, pre state → setting.Sure script post state

variable {setting} {post other : α → State → Prop} {pre : State → Prop}
  {script : Script Command α}

variable {state : State} {next : Bool → Script Command α} {cond : Prop} {assertion : State → Prop}

theorem Sure.env {after : State} (sure : setting.Sure script post state)
    (moved : setting.env state after) : setting.Sure script post after := by
  cases script with
  | done result =>
    intro later more
    exact sure later (setting.env_trans _ _ _ moved more)
  | call command next =>
    intro later more
    exact sure later (setting.env_trans _ _ _ moved more)

theorem Sure.demand {command : Command} (sure : setting.Sure (call command next) post state) :
    setting.demand command state :=
  (sure state (setting.env_refl state)).1

theorem Sure.step {command : Command} {next : Bool → Script Command α} {state after : State}
    {answer : Bool} (sure : setting.Sure (call command next) post state)
    (acted : setting.act command state answer after) : setting.Sure (next answer) post after :=
  (sure state (setting.env_refl state)).2 answer after acted

theorem Sure.mono {state : State} (weaken : ∀ result state, post result state → other result state)
    (sure : setting.Sure script post state) : setting.Sure script other state := by
  induction script generalizing state with
  | done result => exact fun after moved => weaken _ _ (sure after moved)
  | call command next ih =>
    intro later moved
    obtain ⟨demand, rest⟩ := sure later moved
    exact ⟨demand, fun answer after acted => ih answer (rest answer after acted)⟩

theorem Sure.bind {rest : α → Script Command β} {last : β → State → Prop} {state : State}
    (sure : setting.Sure script (fun result => setting.Sure (rest result) last) state) :
    setting.Sure (script.bind rest) last state := by
  induction script generalizing state with
  | done result => exact sure state (setting.env_refl state)
  | call command next ih =>
    intro later moved
    obtain ⟨demand, more⟩ := sure later moved
    exact ⟨demand, fun answer after acted => ih answer (more answer after acted)⟩

theorem Triple.call {command : Command} (mid : Bool → State → Prop) (stable : setting.Stable pre)
    (demand : ∀ state, pre state → setting.demand command state)
    (act : ∀ state answer after, pre state → setting.act command state answer after →
      mid answer after) (rest : ∀ answer, setting.Triple (mid answer) (next answer) post) :
    setting.Triple pre (call command next) post := by
  intro state holds later moved
  have still := stable _ _ holds moved
  exact ⟨demand _ still, fun answer after acted =>
    rest answer after (act _ _ _ still acted)⟩

theorem Triple.bind {rest : α → Script Command β} {last : β → State → Prop}
    (first : setting.Triple pre script post)
    (second : ∀ result, setting.Triple (post result) (rest result) last) :
    setting.Triple pre (script.bind rest) last :=
  fun state holds => ((first state holds).mono second).bind

theorem Triple.strengthen {weaker : State → Prop} (triple : setting.Triple weaker script post)
    (imp : ∀ state, pre state → weaker state) : setting.Triple pre script post :=
  fun state holds => triple state (imp state holds)

theorem Triple.weaken (triple : setting.Triple pre script other)
    (imp : ∀ result state, other result state → post result state) :
    setting.Triple pre script post :=
  fun state holds => (triple state holds).mono imp

theorem Triple.absurd (never : ∀ state, ¬pre state) : setting.Triple pre script post :=
  fun state holds => (never state holds).elim

theorem Stable.and {first second : State → Prop} (one : setting.Stable first)
    (two : setting.Stable second) : setting.Stable fun state => first state ∧ second state :=
  fun state after holds moved => ⟨one state after holds.1 moved, two state after holds.2 moved⟩

theorem Stable.imp (stable : setting.Stable assertion) :
    setting.Stable fun state => cond → assertion state :=
  fun state after holds moved met => stable state after (holds met) moved

theorem Stable.imp_left (stable : setting.Stable assertion) :
    setting.Stable fun state => cond ∧ assertion state :=
  fun state after holds moved => ⟨holds.1, stable state after holds.2 moved⟩

theorem Triple.keep {can : Command → Bool → Prop} {kind : Command → Prop} {ends : α → Prop}
    (only : script.Only can kind ends) (stable : setting.Stable pre)
    (demand : ∀ command state, kind command → pre state → setting.demand command state)
    (act : ∀ command state answer after, kind command → pre state →
      setting.act command state answer after → can command answer ∧ pre after) :
    setting.Triple pre script fun result state => ends result ∧ pre state := by
  induction script with
  | done result => exact fun state holds after moved => ⟨only, stable state after holds moved⟩
  | call command next ih =>
    exact .call (fun answer state => can command answer ∧ pre state) stable
      (fun state => demand command state only.1)
      (fun state answer after => act command state answer after only.1)
      fun answer state holds => ih answer (only.2 answer holds.1) state holds.2

section Sequence

variable {base fine last : State → Prop}

theorem Triple.expectAll_nil (kept : setting.Stable base) (stable : setting.Stable fine) :
    setting.Triple (fun state => base state ∧ fine state) (expectAll [])
      fun ok state => base state ∧ (ok = true → fine state) :=
  fun state holds after moved =>
    ⟨kept state after holds.1 moved, fun _ => stable state after holds.2 moved⟩

variable {first : Script Command Bool}

theorem Triple.andThen {second : Script Command Bool}
    (head : setting.Triple pre first fun ok state => base state ∧ (ok = true → fine state))
    (kept : setting.Stable base)
    (tail : setting.Triple (fun state => base state ∧ fine state) second
      fun ok state => base state ∧ (ok = true → last state)) :
    setting.Triple pre (first.bind fun ok => if ok then second else Script.done false)
      fun ok state => base state ∧ (ok = true → last state) := by
  refine head.bind fun ok => ?_
  cases ok
  · exact fun state holds after moved => ⟨kept state after holds.1 moved, fun no => by cases no⟩
  · exact tail.strengthen fun state holds => ⟨holds.1, holds.2 rfl⟩

theorem Triple.expectAll_cons {rest : List (Script Command Bool)}
    (head : setting.Triple pre first fun ok state => base state ∧ (ok = true → fine state))
    (kept : setting.Stable base)
    (tail : setting.Triple (fun state => base state ∧ fine state) (expectAll rest)
      fun ok state => base state ∧ (ok = true → last state)) :
    setting.Triple pre (expectAll (first :: rest))
      fun ok state => base state ∧ (ok = true → last state) :=
  head.andThen kept tail

theorem Triple.expectAll_append {first second : List (Script Command Bool)}
    (head : setting.Triple pre (expectAll first)
      fun ok state => base state ∧ (ok = true → fine state)) (kept : setting.Stable base)
    (tail : setting.Triple (fun state => base state ∧ fine state) (expectAll second)
      fun ok state => base state ∧ (ok = true → last state)) :
    setting.Triple pre (expectAll (first ++ second))
      fun ok state => base state ∧ (ok = true → last state) := by
  rw [Script.expectAll_append]
  exact head.andThen kept tail

end Sequence

end Setting

end Scripts
