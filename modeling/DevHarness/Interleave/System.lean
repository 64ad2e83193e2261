import Mathlib.Logic.Relation
import DevHarness.Interleave.Program

/-!
# Interleaved runs

A system has a shared state, atomic commands on it, and entry points whose
routines run as processes.  A run interleaves the processes at every command:
at each step a new call may be spawned, one suspended process may perform its
command, a process that is done may return, any process may crash and never
resume, or the environment may change the state.

The configuration keeps the whole past of the run, newest event first, so that
properties of a run are properties of its last configuration.
-/

namespace Interleave

/-- The entry points, the atomic commands and the environment of a system.
The result of a command may depend on a `Choice`: what a clock or an outside
party answers is not determined by the shared state. -/
structure System (State Cmd : Type) (Resp : Cmd → Type) (Err Call Ret Choice Env : Type) where
  program : Call → Program Cmd Resp Err Ret
  exec : Choice → (cmd : Cmd) → State → Option (Except Err (Resp cmd) × State)
  environment : Env → State → Option State

inductive Event (Cmd : Type) (Resp : Cmd → Type) (Err Call Ret Env : Type)
  | spawned (pid : ℕ) (call : Call)
  | performed (pid : ℕ) (cmd : Cmd) (resp : Except Err (Resp cmd))
  | finished (pid : ℕ) (result : Except Err Ret)
  | crashed (pid : ℕ)
  | changed (env : Env)

/-- What may happen next, before its outcome is known. -/
inductive Attempt (Cmd Call Env : Type)
  | spawn (pid : ℕ) (call : Call)
  | perform (pid : ℕ) (cmd : Cmd)
  | finish (pid : ℕ)
  | crash (pid : ℕ)
  | change (env : Env)

/-- A scheduling decision: which of the possible steps is taken. -/
inductive Action (Call Choice Env : Type)
  | spawn (call : Call)
  | perform (pid : ℕ) (choice : Choice)
  | finish (pid : ℕ)
  | crash (pid : ℕ)
  | change (env : Env)

section Runs

variable {State Cmd : Type} {Resp : Cmd → Type} {Err Call Ret Choice Env : Type}

def Event.pid? : Event Cmd Resp Err Call Ret Env → Option ℕ
  | .spawned pid _ => some pid
  | .performed pid _ _ => some pid
  | .finished pid _ => some pid
  | .crashed pid => some pid
  | .changed _ => none

def eventsOf (pid : ℕ) (past : List (Event Cmd Resp Err Call Ret Env)) :
    List (Event Cmd Resp Err Call Ret Env) :=
  past.filter fun e => e.pid? = some pid

section EventsOf

variable {e : Event Cmd Resp Err Call Ret Env} {past : List (Event Cmd Resp Err Call Ret Env)}
  {pid : ℕ}

theorem mem_eventsOf : e ∈ eventsOf pid past ↔ e ∈ past ∧ e.pid? = some pid := by
  simp [eventsOf]

theorem eventsOf_cons_self (hpid : e.pid? = some pid) :
    eventsOf pid (e :: past) = e :: eventsOf pid past := by
  simp [eventsOf, hpid]

theorem eventsOf_cons_of_ne (hpid : e.pid? ≠ some pid) :
    eventsOf pid (e :: past) = eventsOf pid past := by
  simp [eventsOf, hpid]

end EventsOf

/-- The shared state together with the past of the run, newest event first. -/
structure Moment (State Cmd : Type) (Resp : Cmd → Type) (Err Call Ret Env : Type) where
  state : State
  past : List (Event Cmd Resp Err Call Ret Env)

/-- The moment after `event` has led to `state`. -/
def Moment.push (m : Moment State Cmd Resp Err Call Ret Env)
    (event : Event Cmd Resp Err Call Ret Env) (state : State) :
    Moment State Cmd Resp Err Call Ret Env :=
  { state := state, past := event :: m.past }

/-- A moment and the processes that are running; `next` is the next process
number. -/
structure Config (State Cmd : Type) (Resp : Cmd → Type) (Err Call Ret Env : Type) where
  now : Moment State Cmd Resp Err Call Ret Env
  procs : ℕ → Option (Program Cmd Resp Err Ret)
  next : ℕ

def Config.initial (state : State) : Config State Cmd Resp Err Call Ret Env :=
  { now := { state := state, past := [] }, procs := fun _ => none, next := 0 }

/-- The process table with process `pid` set to `p`. -/
def setProc (procs : ℕ → Option (Program Cmd Resp Err Ret)) (pid : ℕ)
    (p : Option (Program Cmd Resp Err Ret)) : ℕ → Option (Program Cmd Resp Err Ret) :=
  fun q => if q = pid then p else procs q

theorem setProc_self (procs : ℕ → Option (Program Cmd Resp Err Ret)) (pid : ℕ)
    (p : Option (Program Cmd Resp Err Ret)) : setProc procs pid p pid = p := by
  simp [setProc]

theorem setProc_of_ne {procs : ℕ → Option (Program Cmd Resp Err Ret)} {pid q : ℕ}
    {p : Option (Program Cmd Resp Err Ret)} (hne : q ≠ pid) :
    setProc procs pid p q = procs q := by
  simp [setProc, hne]

/-- One step of a run.  `cond` restricts the steps that are taken: it sees the
moment before the step and what is attempted. -/
inductive Step (sys : System State Cmd Resp Err Call Ret Choice Env)
    (cond : Moment State Cmd Resp Err Call Ret Env → Attempt Cmd Call Env → Prop) :
    Config State Cmd Resp Err Call Ret Env → Config State Cmd Resp Err Call Ret Env → Prop
  | spawn (c : Config State Cmd Resp Err Call Ret Env) (call : Call)
      (hcond : cond c.now (.spawn c.next call)) :
      Step sys cond c
        { now := c.now.push (.spawned c.next call) c.now.state
          procs := setProc c.procs c.next (some (sys.program call))
          next := c.next + 1 }
  | perform (c : Config State Cmd Resp Err Call Ret Env) (pid : ℕ) (cmd : Cmd)
      (next : Except Err (Resp cmd) → Program Cmd Resp Err Ret) (choice : Choice)
      (resp : Except Err (Resp cmd)) (state : State)
      (hproc : c.procs pid = some (.call cmd next))
      (hcond : cond c.now (.perform pid cmd))
      (hexec : sys.exec choice cmd c.now.state = some (resp, state)) :
      Step sys cond c
        { now := c.now.push (.performed pid cmd resp) state
          procs := setProc c.procs pid (some (next resp))
          next := c.next }
  | finish (c : Config State Cmd Resp Err Call Ret Env) (pid : ℕ) (result : Except Err Ret)
      (hproc : c.procs pid = some (.done result))
      (hcond : cond c.now (.finish pid)) :
      Step sys cond c
        { now := c.now.push (.finished pid result) c.now.state
          procs := setProc c.procs pid none
          next := c.next }
  | crash (c : Config State Cmd Resp Err Call Ret Env) (pid : ℕ)
      (p : Program Cmd Resp Err Ret)
      (hproc : c.procs pid = some p)
      (hcond : cond c.now (.crash pid)) :
      Step sys cond c
        { now := c.now.push (.crashed pid) c.now.state
          procs := setProc c.procs pid none
          next := c.next }
  | change (c : Config State Cmd Resp Err Call Ret Env) (env : Env) (state : State)
      (hcond : cond c.now (.change env))
      (henv : sys.environment env c.now.state = some state) :
      Step sys cond c
        { now := c.now.push (.changed env) state
          procs := c.procs
          next := c.next }

/-- The configurations reached from `state` by steps that all meet `cond`. -/
def Run (sys : System State Cmd Resp Err Call Ret Choice Env)
    (cond : Moment State Cmd Resp Err Call Ret Env → Attempt Cmd Call Env → Prop)
    (state : State) (c : Config State Cmd Resp Err Call Ret Env) : Prop :=
  Relation.ReflTransGen (Step sys cond) (Config.initial state) c

/-- The configurations reached from `state` by any steps. -/
abbrev Reached (sys : System State Cmd Resp Err Call Ret Choice Env)
    (state : State) (c : Config State Cmd Resp Err Call Ret Env) : Prop :=
  Run sys (fun _ _ => True) state c

section Conditions

variable {sys : System State Cmd Resp Err Call Ret Choice Env}
  {cond cond' : Moment State Cmd Resp Err Call Ret Env → Attempt Cmd Call Env → Prop}
  {c c' : Config State Cmd Resp Err Call Ret Env} {state : State} {I : State → Prop}

theorem Step.mono (hcond : ∀ m attempt, cond m attempt → cond' m attempt)
    (hstep : Step sys cond c c') : Step sys cond' c c' := by
  cases hstep with
  | spawn call h => exact .spawn c call (hcond _ _ h)
  | perform pid cmd next choice resp state hproc h hexec =>
      exact .perform c pid cmd next choice resp state hproc (hcond _ _ h) hexec
  | finish pid result hproc h => exact .finish c pid result hproc (hcond _ _ h)
  | crash pid p hproc h => exact .crash c pid p hproc (hcond _ _ h)
  | change env state h henv => exact .change c env state (hcond _ _ h) henv

theorem Step.past (hstep : Step sys cond c c') : ∃ e, c'.now.past = e :: c.now.past := by
  cases hstep <;> exact ⟨_, rfl⟩

theorem past_suffix_of_steps (hsteps : Relation.ReflTransGen (Step sys cond) c c') :
    c.now.past <:+ c'.now.past := by
  induction hsteps with
  | refl => exact List.suffix_rfl
  | tail _ hstep ih =>
      obtain ⟨e, he⟩ := hstep.past
      rw [he]
      exact ih.trans (List.suffix_cons e _)

/-- Steps under a condition are steps under any weaker condition. -/
theorem steps_mono (hcond : ∀ m attempt, cond m attempt → cond' m attempt)
    (hsteps : Relation.ReflTransGen (Step sys cond) c c') :
    Relation.ReflTransGen (Step sys cond') c c' :=
  Relation.ReflTransGen.mono (r := Step sys cond) (p := Step sys cond')
    (fun _ _ hstep => Step.mono hcond hstep) _ _ hsteps

/-- A run under a condition is a run under any weaker condition. -/
theorem Run.mono {c : Config State Cmd Resp Err Call Ret Env}
    (hcond : ∀ m attempt, cond m attempt → cond' m attempt) (hrun : Run sys cond state c) :
    Run sys cond' state c :=
  steps_mono hcond hrun

/-- What every command and every change keeps holds after any steps. -/
theorem steps_invariant (hsteps : Relation.ReflTransGen (Step sys cond) c c')
    (hinit : I c.now.state)
    (hexec : ∀ {choice cmd resp s s'}, sys.exec choice cmd s = some (resp, s') → I s → I s')
    (hchange : ∀ {m : Moment State Cmd Resp Err Call Ret Env} {env s'}, cond m (.change env) →
      sys.environment env m.state = some s' → I m.state → I s') : I c'.now.state := by
  induction hsteps with
  | refl => exact hinit
  | tail _ hstep ih =>
      cases hstep with
      | spawn => exact ih
      | perform pid cmd next choice resp state hproc hcond hperformed =>
          exact hexec hperformed ih
      | finish => exact ih
      | crash => exact ih
      | change env state hcond hchanged => exact hchange hcond hchanged ih

/-- What every command and every change keeps holds in every state of a run. -/
theorem Run.invariant {c : Config State Cmd Resp Err Call Ret Env} (hrun : Run sys cond state c)
    (hinit : I state)
    (hexec : ∀ {choice cmd resp s s'}, sys.exec choice cmd s = some (resp, s') → I s → I s')
    (hchange : ∀ {m : Moment State Cmd Resp Err Call Ret Env} {env s'}, cond m (.change env) →
      sys.environment env m.state = some s' → I m.state → I s') : I c.now.state :=
  steps_invariant hrun hinit hexec hchange

/-- When each call that is spawned is related to those spawned before it, all
calls of a run are related. -/
theorem spawned_related_of_run {R : Call → Call → Prop}
    {c : Config State Cmd Resp Err Call Ret Env} (hrefl : ∀ a, R a a)
    (hsymm : ∀ a b, R a b → R b a)
    (hspawn : ∀ m pid call, cond m (.spawn pid call) → ∀ pid' call', .spawned pid' call' ∈ m.past →
      R call call') (hrun : Run sys cond state c) {p q : ℕ} {a b : Call}
    (ha : .spawned p a ∈ c.now.past) (hb : .spawned q b ∈ c.now.past) : R a b := by
  induction hrun with
  | refl => cases ha
  | @tail d e _ hstep ih =>
      by_cases hnew : ∃ call, cond d.now (.spawn d.next call) ∧
          e.now.past = .spawned d.next call :: d.now.past
      · obtain ⟨call, hcond, hpast⟩ := hnew
        rw [hpast] at ha hb
        have hcases : ∀ {p : ℕ} {a : Call},
            .spawned p a ∈ (.spawned d.next call :: d.now.past :
              List (Event Cmd Resp Err Call Ret Env)) → a = call ∨ .spawned p a ∈ d.now.past := by
          intro p a hmem
          rcases List.mem_cons.mp hmem with heq | hold
          · injection heq with _ heq
            exact .inl heq
          · exact .inr hold
        rcases hcases ha with rfl | ha'
        · rcases hcases hb with rfl | hb'
          · exact hrefl _
          · exact hspawn _ _ _ hcond _ _ hb'
        · rcases hcases hb with rfl | hb'
          · exact hsymm _ _ (hspawn _ _ _ hcond _ _ ha')
          · exact ih ha' hb'
      · have hcases : ∀ {p : ℕ} {a : Call}, .spawned p a ∈ e.now.past →
            .spawned p a ∈ d.now.past := by
          intro p a hmem
          cases hstep with
          | spawn call hcond => exact (hnew ⟨call, hcond, rfl⟩).elim
          | perform => exact (List.mem_cons.mp hmem).resolve_left (fun h => by cases h)
          | finish => exact (List.mem_cons.mp hmem).resolve_left (fun h => by cases h)
          | crash => exact (List.mem_cons.mp hmem).resolve_left (fun h => by cases h)
          | change => exact (List.mem_cons.mp hmem).resolve_left (fun h => by cases h)
        exact ih (hcases ha) (hcases hb)

end Conditions

/-! ## Executing a schedule -/

def step (sys : System State Cmd Resp Err Call Ret Choice Env)
    (c : Config State Cmd Resp Err Call Ret Env) :
    Action Call Choice Env → Option (Config State Cmd Resp Err Call Ret Env)
  | .spawn call => some
      { now := c.now.push (.spawned c.next call) c.now.state
        procs := setProc c.procs c.next (some (sys.program call))
        next := c.next + 1 }
  | .perform pid choice =>
    match c.procs pid with
    | some (.call cmd next) =>
      match sys.exec choice cmd c.now.state with
      | some (resp, state) => some
          { now := c.now.push (.performed pid cmd resp) state
            procs := setProc c.procs pid (some (next resp))
            next := c.next }
      | none => none
    | _ => none
  | .finish pid =>
    match c.procs pid with
    | some (.done result) => some
        { now := c.now.push (.finished pid result) c.now.state
          procs := setProc c.procs pid none
          next := c.next }
    | _ => none
  | .crash pid =>
    match c.procs pid with
    | some _ => some
        { now := c.now.push (.crashed pid) c.now.state
          procs := setProc c.procs pid none
          next := c.next }
    | none => none
  | .change env =>
    match sys.environment env c.now.state with
    | some state => some
        { now := c.now.push (.changed env) state
          procs := c.procs
          next := c.next }
    | none => none

def attempted (c : Config State Cmd Resp Err Call Ret Env) :
    Action Call Choice Env → Option (Attempt Cmd Call Env)
  | .spawn call => some (.spawn c.next call)
  | .perform pid _ =>
    match c.procs pid with
    | some (.call cmd _) => some (.perform pid cmd)
    | _ => none
  | .finish pid => some (.finish pid)
  | .crash pid => some (.crash pid)
  | .change env => some (.change env)

def execute (sys : System State Cmd Resp Err Call Ret Choice Env)
    (c : Config State Cmd Resp Err Call Ret Env) :
    List (Action Call Choice Env) → Option (Config State Cmd Resp Err Call Ret Env)
  | [] => some c
  | action :: actions =>
    match step sys c action with
    | some c' => execute sys c' actions
    | none => none

/-- Take a list of scheduling decisions as long as each passes a check. -/
def executeWhile (sys : System State Cmd Resp Err Call Ret Choice Env)
    (check : Moment State Cmd Resp Err Call Ret Env → Attempt Cmd Call Env → Bool)
    (c : Config State Cmd Resp Err Call Ret Env) :
    List (Action Call Choice Env) → Option (Config State Cmd Resp Err Call Ret Env)
  | [] => some c
  | action :: actions =>
    match step sys c action with
    | some c' =>
      if (attempted c action).any (check c.now) then executeWhile sys check c' actions
      else none
    | none => none

variable {sys : System State Cmd Resp Err Call Ret Choice Env}
  {cond : Moment State Cmd Resp Err Call Ret Env → Attempt Cmd Call Env → Prop}
  {c c' : Config State Cmd Resp Err Call Ret Env} {action : Action Call Choice Env}
  {actions : List (Action Call Choice Env)} {state : State}
  {check : Moment State Cmd Resp Err Call Ret Env → Attempt Cmd Call Env → Bool}

/-- A scheduling decision that is possible is a step of a run, under any condition
that what it attempts meets. -/
theorem step_of_attempted (hstep : step sys c action = some c')
    (hcond : ∀ attempt, attempted c action = some attempt → cond c.now attempt) :
    Step sys cond c c' := by
  cases action with
  | spawn call =>
      obtain rfl := Option.some.inj hstep
      exact .spawn c call (hcond _ rfl)
  | perform pid choice =>
      simp only [step] at hstep
      split at hstep
      · next cmd next hproc =>
        split at hstep
        · next resp state hexec =>
          obtain rfl := Option.some.inj hstep
          refine .perform c pid cmd next choice resp state hproc (hcond _ ?_) hexec
          simp only [attempted, hproc]
        · cases hstep
      · cases hstep
  | finish pid =>
      simp only [step] at hstep
      split at hstep
      · next result hproc =>
        obtain rfl := Option.some.inj hstep
        exact .finish c pid result hproc (hcond _ rfl)
      · cases hstep
  | crash pid =>
      simp only [step] at hstep
      split at hstep
      · next p hproc =>
        obtain rfl := Option.some.inj hstep
        exact .crash c pid p hproc (hcond _ rfl)
      · cases hstep
  | change env =>
      simp only [step] at hstep
      split at hstep
      · next state henv =>
        obtain rfl := Option.some.inj hstep
        exact .change c env state (hcond _ rfl) henv
      · cases hstep

/-- A scheduling decision that is possible is a step of a run. -/
theorem step_sound (hstep : step sys c action = some c') : Step sys (fun _ _ => True) c c' :=
  step_of_attempted hstep fun _ _ => trivial

theorem past_of_step_perform {pid : ℕ} {choice : Choice} {cmd : Cmd}
    (hattempt : attempted c (.perform pid choice) = some (.perform pid cmd))
    (hstep : step sys c (.perform pid choice) = some c') :
    ∃ resp, c'.now.past = .performed pid cmd resp :: c.now.past := by
  simp only [attempted] at hattempt
  simp only [step] at hstep
  split at hattempt
  · next cmd' next hproc =>
    obtain rfl : cmd' = cmd := by simpa using hattempt
    rw [hproc] at hstep
    simp only at hstep
    split at hstep
    · next resp state hexec =>
      obtain rfl := Option.some.inj hstep
      exact ⟨resp, rfl⟩
    · cases hstep
  · cases hattempt

theorem execute_sound (hexec : execute sys c actions = some c') :
    Relation.ReflTransGen (Step sys (fun _ _ => True)) c c' := by
  induction actions generalizing c with
  | nil =>
      obtain rfl := Option.some.inj hexec
      exact .refl
  | cons action actions ih =>
      simp only [execute] at hexec
      split at hexec
      · next d hstep => exact .head (step_sound hstep) (ih hexec)
      · cases hexec

/-- A schedule executed from the initial configuration reaches what it
computes. -/
theorem reached_of_execute {c : Config State Cmd Resp Err Call Ret Env}
    (hexec : execute sys (Config.initial state) actions = some c) : Reached sys state c :=
  execute_sound hexec

/-- Two executions, one after the other, that pass a check. -/
theorem exists_of_any_pair {α β : Type} {first : Option α} {second : α → Option β}
    {check : α × β → Bool}
    (h : (first.bind fun a => (second a).map fun b => (a, b)).any check = true) :
    ∃ a b, first = some a ∧ second a = some b ∧ check (a, b) = true := by
  obtain ⟨pair, hpair, hcheck⟩ := (Option.any_eq_true _ _).mp h
  obtain ⟨a, hfirst, hmap⟩ := Option.bind_eq_some_iff.mp hpair
  obtain ⟨b, hsecond, rfl⟩ := Option.map_eq_some_iff.mp hmap
  exact ⟨a, b, hfirst, hsecond, hcheck⟩

section

variable (hcheck : ∀ m attempt, check m attempt = true → cond m attempt)

include hcheck

/-- A schedule that passes a check is a run under the condition that is
checked. -/
theorem executeWhile_sound (hexec : executeWhile sys check c actions = some c') :
    Relation.ReflTransGen (Step sys cond) c c' := by
  induction actions generalizing c with
  | nil =>
      obtain rfl := Option.some.inj hexec
      exact .refl
  | cons action actions ih =>
      simp only [executeWhile] at hexec
      split at hexec
      · next d hstep =>
        split at hexec
        · next hpass =>
          refine .head (step_of_attempted hstep ?_) (ih hexec)
          intro attempt hattempt
          rw [hattempt, Option.any_some] at hpass
          exact hcheck _ _ hpass
        · cases hexec
      · cases hexec

theorem step_of_executeWhile (hexec : executeWhile sys check c [action] = some c') :
    Step sys cond c c' := by
  simp only [executeWhile] at hexec
  split at hexec
  · next d hstep =>
    split at hexec
    · next hpass =>
      obtain rfl := Option.some.inj hexec
      refine step_of_attempted hstep fun attempt hattempt => ?_
      rw [hattempt, Option.any_some] at hpass
      exact hcheck _ _ hpass
    · cases hexec
  · cases hexec

theorem run_of_executeWhile {c : Config State Cmd Resp Err Call Ret Env}
    (hexec : executeWhile sys check (Config.initial state) actions = some c) :
    Run sys cond state c :=
  executeWhile_sound hcheck hexec

end

end Runs

end Interleave
