import Mathlib.Data.List.Infix
import DevHarness.Interleave.System

/-!
# Proof outlines for interleaved runs

The proof rule for a system of interleaved processes.  An `Outline` fixes an
invariant of the moments of a run, a preorder in which the shared state
evolves, and what a process promises about a moment before it performs a
command there.  The outline carries the proof that every step keeps the
invariant as long as the promise is kept.

What remains per entry point is a sequential argument, `Outline.wp`: at every
command the process may assume that the others have moved the moment on, in
the sense of `Outline.Later`, and has to keep its promise.  What a process
knows is either about its own events, which nobody else can add to, or about
the past, which only grows, or is kept by the evolution of the state.
-/

namespace Interleave

variable {State Cmd : Type} {Resp : Cmd → Type} {Err Call Ret Choice Env : Type}

section Past

variable {e : Event Cmd Resp Err Call Ret Env}
  {past : List (Event Cmd Resp Err Call Ret Env)}

@[simp] theorem Moment.push_state (m : Moment State Cmd Resp Err Call Ret Env) (s : State) :
    (m.push e s).state = s := rfl

@[simp] theorem Moment.push_past (m : Moment State Cmd Resp Err Call Ret Env) (s : State) :
    (m.push e s).past = e :: m.past := rfl

end Past

/-! ## Outlines -/

/-- An invariant of the runs of `sys` whose steps meet `cond`, with the
promises on which it rests. -/
structure Outline (sys : System State Cmd Resp Err Call Ret Choice Env) where
  /-- Which steps the runs in question take. -/
  cond : Moment State Cmd Resp Err Call Ret Env → Attempt Cmd Call Env → Prop
  /-- Holds at every moment of such a run. -/
  inv : Moment State Cmd Resp Err Call Ret Env → Prop
  /-- How the shared state may change, in any number of steps. -/
  evolves : State → State → Prop
  /-- What a process makes sure of before it performs a command. -/
  promise : ℕ → Moment State Cmd Resp Err Call Ret Env → Cmd → Prop
  evolves_refl : ∀ s, evolves s s
  evolves_trans : ∀ {s t u}, evolves s t → evolves t u → evolves s u
  spawn : ∀ {m pid call}, inv m → cond m (.spawn pid call) → eventsOf pid m.past = [] →
    inv (m.push (.spawned pid call) m.state)
  perform : ∀ {m pid cmd choice resp state}, inv m → cond m (.perform pid cmd) →
    promise pid m cmd → sys.exec choice cmd m.state = some (resp, state) →
    inv (m.push (.performed pid cmd resp) state) ∧ evolves m.state state
  finish : ∀ {m pid result}, inv m → cond m (.finish pid) →
    inv (m.push (.finished pid result) m.state)
  crash : ∀ {m pid}, inv m → cond m (.crash pid) → inv (m.push (.crashed pid) m.state)
  change : ∀ {m env state}, inv m → cond m (.change env) →
    sys.environment env m.state = some state →
    inv (m.push (.changed env) state) ∧ evolves m.state state

namespace Outline

variable {sys : System State Cmd Resp Err Call Ret Choice Env} (o : Outline sys)

/-- `m'` is a moment at which process `pid` may find itself after `m` when only
the others have taken steps. -/
structure Later (pid : ℕ) (m m' : Moment State Cmd Resp Err Call Ret Env) : Prop where
  inv : o.inv m'
  evolves : o.evolves m.state m'.state
  past : m.past <:+ m'.past
  own : eventsOf pid m'.past = eventsOf pid m.past

/-- `m'` comes after `m`, whoever took the steps in between. -/
structure Onward (m m' : Moment State Cmd Resp Err Call Ret Env) : Prop where
  evolves : o.evolves m.state m'.state
  past : m.past ⊆ m'.past

/-- Process `pid`, about to run `p` at `m`, keeps all its promises, and `post`
holds of its outcome. -/
def wp (pid : ℕ) {α : Type} (p : Program Cmd Resp Err α)
    (post : Except Err α → Moment State Cmd Resp Err Call Ret Env → Prop)
    (m : Moment State Cmd Resp Err Call Ret Env) : Prop :=
  match p with
  | .done r => post r m
  | .call cmd next => ∀ m', o.Later pid m m' → o.cond m' (.perform pid cmd) →
      o.promise pid m' cmd ∧
      ∀ choice resp state, sys.exec choice cmd m'.state = some (resp, state) →
        o.inv (m'.push (.performed pid cmd resp) state) → o.evolves m'.state state →
        wp pid (next resp) post (m'.push (.performed pid cmd resp) state)

variable {o} {pid : ℕ} {α β : Type} {m m' m'' : Moment State Cmd Resp Err Call Ret Env}
  {post post' : Except Err α → Moment State Cmd Resp Err Call Ret Env → Prop}
  {e : Event Cmd Resp Err Call Ret Env} {state : State} {cmd : Cmd} {p : Program Cmd Resp Err α}

theorem Later.refl (hinv : o.inv m) : o.Later pid m m :=
  ⟨hinv, o.evolves_refl _, List.suffix_rfl, rfl⟩

theorem Later.trans (h : o.Later pid m m') (h' : o.Later pid m' m'') : o.Later pid m m'' :=
  ⟨h'.inv, o.evolves_trans h.evolves h'.evolves, h.past.trans h'.past, h'.own.trans h.own⟩

theorem Later.mem (h : o.Later pid m m') (he : e ∈ m.past) : e ∈ m'.past :=
  h.past.subset he

theorem Onward.refl (m : Moment State Cmd Resp Err Call Ret Env) : o.Onward m m :=
  ⟨o.evolves_refl _, fun _ h => h⟩

theorem Onward.trans (h : o.Onward m m') (h' : o.Onward m' m'') : o.Onward m m'' :=
  ⟨o.evolves_trans h.evolves h'.evolves, fun _ he => h'.past (h.past he)⟩

theorem Later.onward (h : o.Later pid m m') : o.Onward m m' :=
  ⟨h.evolves, h.past.subset⟩

theorem Later.onward_push (h : o.Later pid m m') (hevolves : o.evolves m'.state state) :
    o.Onward m (m'.push e state) :=
  h.onward.trans ⟨hevolves, List.subset_cons_self _ _⟩

/-! ## Rules -/

@[simp] theorem wp_done (r : Except Err α) : o.wp pid (.done r) post m ↔ post r m :=
  Iff.rfl

theorem wp_call {next : Except Err (Resp cmd) → Program Cmd Resp Err α} :
    o.wp pid (.call cmd next) post m ↔
      ∀ m', o.Later pid m m' → o.cond m' (.perform pid cmd) →
        o.promise pid m' cmd ∧
        ∀ choice resp state, sys.exec choice cmd m'.state = some (resp, state) →
          o.inv (m'.push (.performed pid cmd resp) state) → o.evolves m'.state state →
          o.wp pid (next resp) post (m'.push (.performed pid cmd resp) state) :=
  Iff.rfl

theorem wp_mono (hp : o.wp pid p post m) (hpost : ∀ r m, post r m → post' r m) :
    o.wp pid p post' m := by
  induction p generalizing m with
  | done r => exact hpost r m hp
  | call cmd next ih =>
      intro m' hlater hcond
      obtain ⟨hpromise, hnext⟩ := hp m' hlater hcond
      exact ⟨hpromise, fun choice resp state hexec hinv hevolves =>
        ih resp (hnext choice resp state hexec hinv hevolves)⟩

/-- A routine ends at a moment that comes after the one at which it began. -/
theorem wp_onward (hp : o.wp pid p post m) :
    o.wp pid p (fun r m' => post r m' ∧ o.Onward m m') m := by
  induction p generalizing m with
  | done r => exact ⟨hp, .refl m⟩
  | call cmd next ih =>
      intro m' hlater hcond
      obtain ⟨hpromise, hnext⟩ := hp m' hlater hcond
      refine ⟨hpromise, fun choice resp state hexec hinv hevolves => ?_⟩
      refine wp_mono (ih resp (hnext choice resp state hexec hinv hevolves)) ?_
      intro r m'' hr
      exact ⟨hr.1, (hlater.onward_push hevolves).trans hr.2⟩

theorem wp_bind {f : α → Program Cmd Resp Err β}
    {post : Except Err β → Moment State Cmd Resp Err Call Ret Env → Prop} :
    o.wp pid (p >>= f) post m ↔
      o.wp pid p (fun r m' => match r with
        | .ok a => o.wp pid (f a) post m'
        | .error e => post (.error e) m') m := by
  change o.wp pid (p.bind f) post m ↔ _
  induction p generalizing m with
  | done r => cases r <;> exact Iff.rfl
  | call cmd next ih => simp only [Program.bind, wp_call, ih]

theorem wp_handle {f : Err → Program Cmd Resp Err α} :
    o.wp pid (p.handle f) post m ↔
      o.wp pid p (fun r m' => match r with
        | .ok a => post (.ok a) m'
        | .error e => o.wp pid (f e) post m') m := by
  induction p generalizing m with
  | done r => cases r <;> exact Iff.rfl
  | call cmd next ih => simp only [Program.handle, wp_call, ih]

/-- A routine with a final part that runs whatever the outcome. -/
theorem wp_andFinally {q : Program Cmd Resp Err Unit} :
    o.wp pid (p.andFinally q) post m ↔
      o.wp pid p (fun r m' => o.wp pid q (fun r' m'' => match r' with
        | .ok _ => post r m''
        | .error e => post (.error e) m'') m') m := by
  induction p generalizing m with
  | done r =>
      cases r with
      | ok a =>
          change o.wp pid (q >>= fun _ => .done (.ok a)) post m ↔ _
          rw [wp_bind, wp_done]
          refine iff_of_eq (congrArg (fun post => o.wp pid q post m) ?_)
          funext r' m''
          cases r' <;> rfl
      | error e =>
          change o.wp pid (q >>= fun _ => .done (.error e)) post m ↔ _
          rw [wp_bind, wp_done]
          refine iff_of_eq (congrArg (fun post => o.wp pid q post m) ?_)
          funext r' m''
          cases r' <;> rfl
  | call cmd next ih => simp only [Program.andFinally, wp_call, ih]

theorem wp_request {post : Except Err (Resp cmd) → Moment State Cmd Resp Err Call Ret Env → Prop} :
    o.wp pid (Program.request cmd) post m ↔
      ∀ m', o.Later pid m m' → o.cond m' (.perform pid cmd) →
        o.promise pid m' cmd ∧
        ∀ choice resp state, sys.exec choice cmd m'.state = some (resp, state) →
          o.inv (m'.push (.performed pid cmd resp) state) → o.evolves m'.state state →
          post resp (m'.push (.performed pid cmd resp) state) :=
  Iff.rfl

/-- What is verified at a moment stays verified while the others move on. -/
theorem wp_later (hlater : o.Later pid m m') (hpost : ∀ r, post r m → post r m')
    (hp : o.wp pid p post m) : o.wp pid p post m' := by
  cases p with
  | done r => exact hpost r hp
  | call cmd next => exact fun m'' hlater' => hp m'' (hlater.trans hlater')

/-- Process `pid`, about to run `p` at `m`, keeps all its promises, and `post`
holds of the value that it returns, if it returns one. -/
def ensures (o : Outline sys) (pid : ℕ) {α : Type} (p : Program Cmd Resp Err α)
    (post : α → Moment State Cmd Resp Err Call Ret Env → Prop)
    (m : Moment State Cmd Resp Err Call Ret Env) : Prop :=
  o.wp pid p (fun r m' => ∀ a, r = .ok a → post a m') m

section Ensures

variable {post post' : α → Moment State Cmd Resp Err Call Ret Env → Prop}
  {p : Program Cmd Resp Err α} {f : α → Program Cmd Resp Err β} {cmd : Cmd}

theorem ensures_pure {a : α} (hpost : post a m) : o.ensures pid (pure a) post m := by
  intro b hb
  obtain rfl := Except.ok.inj hb
  exact hpost

theorem ensures_throw {e : Err} : o.ensures pid (throw e) post m := by
  intro b hb
  cases hb

theorem ensures_mono (hp : o.ensures pid p post m) (hpost : ∀ a m, post a m → post' a m) :
    o.ensures pid p post' m :=
  wp_mono hp fun _ m' h a ha => hpost a m' (h a ha)

theorem ensures_bind {post : β → Moment State Cmd Resp Err Call Ret Env → Prop}
    (hp : o.ensures pid p (fun a m' => o.ensures pid (f a) post m') m) :
    o.ensures pid (p >>= f) post m := by
  refine wp_bind.mpr (wp_mono hp ?_)
  intro r m' hr
  cases r with
  | ok a => exact hr a rfl
  | error e =>
      intro b hb
      cases hb

/-- One command: the promise is due at a later moment, and the answer is
obtained there. -/
theorem ensures_request {post : Resp cmd → Moment State Cmd Resp Err Call Ret Env → Prop}
    (hcmd : ∀ m', o.Later pid m m' → o.cond m' (.perform pid cmd) → o.promise pid m' cmd ∧ ∀ choice
      a state, sys.exec choice cmd m'.state = some (.ok a, state) → o.inv (m'.push (.performed pid
      cmd (.ok a)) state) → o.evolves m'.state state → post a (m'.push (.performed pid cmd (.ok a))
      state)) : o.ensures pid (Program.request cmd) post m := by
  refine wp_request.mpr fun m' hlater hcond => ?_
  obtain ⟨hpromise, hnext⟩ := hcmd m' hlater hcond
  refine ⟨hpromise, ?_⟩
  rintro choice resp state hexec hinv hevolves a rfl
  exact hnext choice a state hexec hinv hevolves

theorem ensures_request_onward (hpromise : ∀ m', o.Later pid m m' → o.promise pid m' cmd) :
    o.ensures pid (Program.request cmd) (fun _ m' => o.Onward m m') m := by
  refine ensures_request fun m' hlater _ => ⟨hpromise m' hlater, ?_⟩
  intro choice a state _ _ hevolves
  exact hlater.onward_push hevolves

theorem ensures_onward_bind {f : Resp cmd → Program Cmd Resp Err β}
    {post : β → Moment State Cmd Resp Err Call Ret Env → Prop}
    (hpromise : ∀ m', o.Later pid m m' → o.promise pid m' cmd)
    (hf : ∀ a m', o.Onward m m' → o.ensures pid (f a) post m') :
    o.ensures pid (Program.request cmd >>= f) post m :=
  ensures_bind (ensures_mono (ensures_request_onward hpromise) hf)

theorem ensures_done_bind {r : Except Err α}
    {post : β → Moment State Cmd Resp Err Call Ret Env → Prop}
    (hf : ∀ a, r = .ok a → o.ensures pid (f a) post m) :
    o.ensures pid ((.done r : Program Cmd Resp Err α) >>= f) post m := by
  refine wp_bind.mpr ?_
  cases r with
  | ok a => exact hf a rfl
  | error e =>
      intro b hb
      cases hb

/-- The final part runs after success and after failure. -/
theorem ensures_andFinally {q : Program Cmd Resp Err Unit}
    (hq : ∀ m', o.Onward m m' → o.ensures pid q (fun _ _ => True) m')
    (hp : o.ensures pid p (fun a m' => o.ensures pid q (fun _ m'' => post a m'') m') m) :
    o.ensures pid (p.andFinally q) post m := by
  refine wp_andFinally.mpr (wp_mono (wp_onward hp) ?_)
  rintro r m' ⟨hr, hon⟩
  cases r with
  | ok a =>
      refine wp_mono (hr a rfl) ?_
      intro r' m'' hr'
      cases r' with
      | ok u =>
          intro b hb
          obtain rfl := Except.ok.inj hb
          exact hr' u rfl
      | error e =>
          intro b hb
          cases hb
  | error e =>
      refine wp_mono (hq m' hon) ?_
      intro r' m'' _
      cases r' <;> · intro b hb; cases hb

theorem ensures_forEach {as : List α} {keep : Moment State Cmd Resp Err Call Ret Env → Prop}
    (hround : ∀ a ∈ as, ∀ m, keep m → o.ensures pid (f a) (fun _ m' => keep m') m)
    (hkeep : keep m) : o.ensures pid (Program.forEach f as) (fun _ m' => keep m') m := by
  induction as generalizing m with
  | nil => exact ensures_pure hkeep
  | cons a as ih =>
      refine ensures_bind (ensures_mono (hround a List.mem_cons_self m hkeep) ?_)
      intro b m₁ hkeep₁
      refine ensures_bind (ensures_mono
        (ih (fun a ha => hround a (List.mem_cons_of_mem _ ha)) hkeep₁) ?_)
      intro bs m₂ hkeep₂
      exact ensures_pure hkeep₂

theorem wp_of_ensures (hp : o.ensures pid p post m) : o.wp pid p (fun _ _ => True) m :=
  wp_mono hp fun _ _ _ => trivial

end Ensures

/-! ## Soundness -/

/-- What a run maintains: the invariant, and that every process is verified at
the current moment. -/
structure Sound (o : Outline sys) (c : Config State Cmd Resp Err Call Ret Env) : Prop where
  inv : o.inv c.now
  verified : ∀ {pid p}, c.procs pid = some p → o.wp pid p (fun _ _ => True) c.now
  fresh : ∀ {pid}, c.next ≤ pid → eventsOf pid c.now.past = [] ∧ c.procs pid = none
  /-- A process is spawned once, for one call. -/
  spawned_unique : ∀ {pid call call'}, .spawned pid call ∈ c.now.past →
    .spawned pid call' ∈ c.now.past → call = call'

private theorem wp_push_of_ne {p : Program Cmd Resp Err Ret}
    {e : Event Cmd Resp Err Call Ret Env} {state : State}
    (hne : e.pid? ≠ some pid) (hinv : o.inv (m.push e state))
    (hevolves : o.evolves m.state state) (hp : o.wp pid p (fun _ _ => True) m) :
    o.wp pid p (fun _ _ => True) (m.push e state) :=
  wp_later ⟨hinv, hevolves, List.suffix_cons _ _, eventsOf_cons_of_ne hne⟩
    (fun _ _ => trivial) hp

/-- Every entry point keeps its promises. -/
def Entries (o : Outline sys) : Prop :=
  ∀ {pid call m}, o.inv m → eventsOf pid m.past = [.spawned pid call] →
    o.wp pid (sys.program call) (fun _ _ => True) m

theorem Sound.lt_next {c : Config State Cmd Resp Err Call Ret Env}
    {p : Program Cmd Resp Err Ret} (hsound : o.Sound c) (hproc : c.procs pid = some p) :
    pid < c.next := by
  by_contra hle
  have hnone := (hsound.fresh (Nat.le_of_not_lt hle)).2
  rw [hproc] at hnone
  cases hnone

private theorem spawned_unique_cons {past : List (Event Cmd Resp Err Call Ret Env)}
    {e : Event Cmd Resp Err Call Ret Env}
    (hunique : ∀ {pid call call'}, .spawned pid call ∈ past → .spawned pid call' ∈ past →
      call = call')
    (hspawn : ∀ q call, e = .spawned q call → eventsOf q past = []) {pid : ℕ}
    {call call' : Call} (hcall : .spawned pid call ∈ e :: past)
    (hcall' : .spawned pid call' ∈ e :: past) : call = call' := by
  have hnone : ∀ {c₁ c₂ : Call}, e = .spawned pid c₁ → .spawned pid c₂ ∈ past → False := by
    intro c₁ c₂ he hmem
    have hown : Event.spawned pid c₂ ∈ eventsOf pid past := mem_eventsOf.mpr ⟨hmem, rfl⟩
    rw [hspawn pid c₁ he] at hown
    cases hown
  rcases List.mem_cons.mp hcall with he | hmem
  · rcases List.mem_cons.mp hcall' with he' | hmem'
    · have heq := he.trans he'.symm
      injection heq
    · exact (hnone he.symm hmem').elim
  · rcases List.mem_cons.mp hcall' with he' | hmem'
    · exact (hnone he'.symm hmem).elim
    · exact hunique hmem hmem'

private theorem Sound.push {c : Config State Cmd Resp Err Call Ret Env}
    {e : Event Cmd Resp Err Call Ret Env} {state : State}
    {p : Option (Program Cmd Resp Err Ret)} {next : ℕ} (hsound : o.Sound c)
    (hpid : e.pid? = some pid) (hinv : o.inv (c.now.push e state))
    (hevolves : o.evolves c.now.state state)
    (hspawn : ∀ q call, e = .spawned q call → eventsOf q c.now.past = [])
    (hp : ∀ p', p = some p' → o.wp pid p' (fun _ _ => True) (c.now.push e state))
    (hlt : pid < next) (hnext : c.next ≤ next) :
    o.Sound { now := c.now.push e state, procs := setProc c.procs pid p, next := next } := by
  refine ⟨hinv, ?_, ?_, spawned_unique_cons hsound.spawned_unique hspawn⟩
  · intro q p' hp'
    change setProc c.procs pid p q = some p' at hp'
    by_cases hq : q = pid
    · subst hq
      rw [setProc_self] at hp'
      exact hp p' hp'
    · rw [setProc_of_ne hq] at hp'
      exact wp_push_of_ne (by simpa [hpid] using Ne.symm hq) hinv hevolves
        (hsound.verified hp')
  · intro q hq
    change next ≤ q at hq
    change eventsOf q (e :: c.now.past) = [] ∧ setProc c.procs pid p q = none
    have hne : q ≠ pid := by omega
    rw [setProc_of_ne hne, eventsOf_cons_of_ne (by simpa [hpid] using Ne.symm hne)]
    exact hsound.fresh (hnext.trans hq)

variable {c c' : Config State Cmd Resp Err Call Ret Env}

/-- One step keeps a configuration sound and lets the state evolve. -/
theorem step_sound (hentries : o.Entries) (hsound : o.Sound c) (hstep : Step sys o.cond c c') :
    o.Sound c' ∧ o.evolves c.now.state c'.now.state := by
  cases hstep with
  | spawn call hcond =>
      have hfresh : eventsOf c.next c.now.past = [] := (hsound.fresh le_rfl).1
      have hinv := o.spawn hsound.inv hcond hfresh
      refine ⟨hsound.push rfl hinv (o.evolves_refl _) ?_ ?_ (by omega) (by omega),
        o.evolves_refl _⟩
      · intro q call' he
        injection he with hq _
        rw [← hq]
        exact hfresh
      · intro p hp
        obtain rfl := Option.some.inj hp
        apply hentries hinv
        rw [Moment.push_past, eventsOf_cons_self rfl, hfresh]
  | perform pid cmd next choice resp state hproc hcond hexec =>
      have hself := hsound.verified hproc c.now (Later.refl hsound.inv) hcond
      obtain ⟨hinv, hevolves⟩ := o.perform hsound.inv hcond hself.1 hexec
      refine ⟨hsound.push rfl hinv hevolves (fun _ _ he => by cases he) ?_
        (hsound.lt_next hproc) le_rfl, hevolves⟩
      intro p hp
      obtain rfl := Option.some.inj hp
      exact hself.2 choice resp state hexec hinv hevolves
  | finish pid result hproc hcond =>
      have hinv : o.inv (c.now.push (.finished pid result) c.now.state) :=
        o.finish hsound.inv hcond
      exact ⟨hsound.push rfl hinv (o.evolves_refl _) (fun _ _ he => by cases he)
        (fun _ h => by cases h) (hsound.lt_next hproc) le_rfl, o.evolves_refl _⟩
  | crash pid p hproc hcond =>
      have hinv := o.crash hsound.inv hcond
      exact ⟨hsound.push rfl hinv (o.evolves_refl _) (fun _ _ he => by cases he)
        (fun _ h => by cases h) (hsound.lt_next hproc) le_rfl, o.evolves_refl _⟩
  | change env state hcond henv =>
      obtain ⟨hinv, hevolves⟩ := o.change hsound.inv hcond henv
      refine ⟨⟨hinv, ?_, ?_, spawned_unique_cons hsound.spawned_unique
        fun _ _ he => by cases he⟩, hevolves⟩
      · intro q p hp
        exact wp_push_of_ne (by simp [Event.pid?]) hinv hevolves (hsound.verified hp)
      · intro q hq
        exact ⟨(eventsOf_cons_of_ne (by simp [Event.pid?])).trans (hsound.fresh hq).1,
          (hsound.fresh hq).2⟩

/-- What a step of a run does to the moment: a process performs a command that
it has promised, the environment changes the state, or the state stays as it
is. -/
theorem step_cases (hsound : o.Sound c) (hstep : Step sys o.cond c c') :
    (∃ pid cmd choice resp, o.promise pid c.now cmd ∧
      sys.exec choice cmd c.now.state = some (resp, c'.now.state) ∧
      c'.now.past = .performed pid cmd resp :: c.now.past) ∨
    (∃ env, sys.environment env c.now.state = some c'.now.state ∧
      c'.now.past = .changed env :: c.now.past) ∨
    (c'.now.state = c.now.state ∧ ∃ e, c'.now.past = e :: c.now.past ∧
      ∀ pid cmd resp, e ≠ .performed pid cmd resp) := by
  cases hstep with
  | spawn call hcond => exact .inr (.inr ⟨rfl, _, rfl, fun _ _ _ h => by cases h⟩)
  | perform pid cmd next choice resp state hproc hcond hexec =>
      have hself := hsound.verified hproc c.now (Later.refl hsound.inv) hcond
      exact .inl ⟨pid, cmd, choice, resp, hself.1, hexec, rfl⟩
  | finish pid result hproc hcond => exact .inr (.inr ⟨rfl, _, rfl, fun _ _ _ h => by cases h⟩)
  | crash pid p hproc hcond => exact .inr (.inr ⟨rfl, _, rfl, fun _ _ _ h => by cases h⟩)
  | change env state hcond henv => exact .inr (.inl ⟨env, henv, rfl⟩)

/-- What the process that has performed a command had promised. -/
theorem promise_of_performed {resp : Except Err (Resp cmd)} (hsound : o.Sound c)
    (hstep : Step sys o.cond c c') (hpast : c'.now.past = .performed pid cmd resp :: c.now.past) :
    o.promise pid c.now cmd := by
  rcases step_cases hsound hstep with
    ⟨_, _, _, _, hpromise, _, hpast'⟩ | ⟨_, _, hpast'⟩ | ⟨_, e, hpast', hne⟩
  · have hevent := (List.cons.inj (hpast.symm.trans hpast')).1
    injection hevent with hpid hcmd _
    subst hpid hcmd
    exact hpromise
  · cases (List.cons.inj (hpast.symm.trans hpast')).1
  · exact absurd (List.cons.inj (hpast.symm.trans hpast')).1.symm (hne _ _ _)

/-- Steps keep a configuration sound and let the state evolve. -/
theorem steps_sound (hentries : o.Entries) (hsound : o.Sound c)
    (hsteps : Relation.ReflTransGen (Step sys o.cond) c c') :
    o.Sound c' ∧ o.evolves c.now.state c'.now.state := by
  induction hsteps with
  | refl => exact ⟨hsound, o.evolves_refl _⟩
  | tail _ hstep ih =>
      obtain ⟨hsound', hevolves'⟩ := step_sound hentries ih.1 hstep
      exact ⟨hsound', o.evolves_trans ih.2 hevolves'⟩

theorem sound_initial (hinit : o.inv { state := state, past := [] }) :
    o.Sound (Config.initial state) :=
  ⟨hinit, fun h => (by cases h), fun _ => ⟨rfl, rfl⟩, fun h => (by cases h)⟩

theorem sound_of_run {c : Config State Cmd Resp Err Call Ret Env} (hentries : o.Entries)
    (hinit : o.inv { state := state, past := [] }) (hrun : Run sys o.cond state c) : o.Sound c :=
  (steps_sound hentries (sound_initial hinit) hrun).1

end Outline

end Interleave
