import DevHarness.Interleave.Exchange

/-!
# Exchanges that end a routine

Some answers decide what a routine returns: whatever it was about, it ends there, with a
result that the exchange determines.  In a run, a process that has had such an answer
finishes with that result or not at all.
-/

namespace Interleave

namespace Program

variable {Cmd : Type} {Resp : Cmd → Type} {Err α β : Type}

/-- The results that the exchanges of a routine determine, where they do. -/
abbrev Verdict (Cmd : Type) (Resp : Cmd → Type) (Err α : Type) :=
  (cmd : Cmd) → Except Err (Resp cmd) → Option (Except Err α)

/-- Every exchange on which `last` has a verdict ends the routine with it. -/
def EndsAt (last : Verdict Cmd Resp Err α) : Program Cmd Resp Err α → Prop
  | .done _ => True
  | .call cmd next => ∀ answer, (∀ r, last cmd answer = some r → next answer = .done r) ∧
      EndsAt last (next answer)

variable {last : Verdict Cmd Resp Err α} {p q : Program Cmd Resp Err α}
  {ex : List (Exchange Cmd Resp Err)} {cmd : Cmd} {f : Resp cmd → Program Cmd Resp Err α}

theorem endsAt_pure {a : α} : EndsAt last (pure a) := trivial

theorem endsAt_throw {e : Err} : EndsAt last (throw e) := trivial

theorem endsAt_request_bind (hnone : ∀ answer, last cmd answer = none)
    (hf : ∀ a, EndsAt last (f a)) : EndsAt last (request cmd >>= f) := by
  intro answer
  refine ⟨fun r hr => ?_, ?_⟩
  · rw [hnone] at hr
    cases hr
  · cases answer with
    | ok a => exact hf a
    | error e => exact trivial

/-- A command that may end the routine, and what follows when it does not. -/
theorem endsAt_request_bind_of (hok : ∀ a r, last cmd (.ok a) = some r → f a = .done r)
    (herror : ∀ e r, last cmd (.error e) = some r → r = .error e) (hf : ∀ a, EndsAt last (f a)) :
    EndsAt last (request cmd >>= f) := by
  intro answer
  cases answer with
  | ok a => exact ⟨hok a, hf a⟩
  | error e =>
      refine ⟨fun r hr => ?_, trivial⟩
      rw [herror e r hr]
      rfl

theorem endsAt_request {cmd : Cmd} {last : Verdict Cmd Resp Err (Resp cmd)}
    (hanswer : ∀ answer r, last cmd answer = some r → r = answer) :
    EndsAt last (request cmd) := by
  intro answer
  refine ⟨fun r hr => ?_, trivial⟩
  rw [hanswer answer r hr]

theorem endsAt_done_bind {r : Except Err β} {f : β → Program Cmd Resp Err α}
    (hf : ∀ b, r = .ok b → EndsAt last (f b)) :
    EndsAt last ((.done r : Program Cmd Resp Err β) >>= f) := by
  cases r with
  | ok b => exact hf b rfl
  | error e => exact trivial

theorem endsAt_bind {p : Program Cmd Resp Err β} {f : β → Program Cmd Resp Err α}
    (hp : Only (fun cmd => ∀ answer, last cmd answer = none) p) (hf : ∀ b, EndsAt last (f b)) :
    EndsAt last (p >>= f) := by
  change EndsAt last (p.bind f)
  induction p with
  | done r =>
      cases r with
      | ok b => exact hf b
      | error e => exact trivial
  | call cmd next ih =>
      intro answer
      refine ⟨fun r hr => ?_, ih answer (hp.2 answer)⟩
      rw [hp.1 answer] at hr
      cases hr

theorem endsAt_map {g : α → β} (h : EndsAt last p) :
    EndsAt (fun cmd answer => (last cmd answer).map fun r => r.map g)
      (p >>= fun a => pure (g a)) := by
  change EndsAt _ (p.bind _)
  induction p with
  | done r => cases r <;> exact trivial
  | call cmd next ih =>
      intro answer
      obtain ⟨hend, hnext⟩ := h answer
      refine ⟨fun r hr => ?_, ih answer hnext⟩
      obtain ⟨r', hr', rfl⟩ := Option.map_eq_some_iff.mp hr
      change (next answer).bind _ = _
      rw [hend r' hr']
      cases r' <;> rfl

theorem EndsAt.of_path (h : EndsAt last p) (hpath : Path p ex q) : EndsAt last q := by
  induction hpath with
  | refl => exact h
  | call cmd next answer ex q _ ih => exact ih (h answer).2

/-- An exchange with a verdict decides what a routine returns. -/
theorem EndsAt.result_of_mem {r r' : Except Err α} {x : Exchange Cmd Resp Err}
    (h : EndsAt last p) (hends : Ends p ex r) (hx : x ∈ ex)
    (hlast : last x.cmd x.answer = some r') : r = r' := by
  unfold Ends at hends
  generalize hq : Program.done r = q at hends
  induction hends with
  | refl => cases hx
  | call cmd next answer ex q hpath ih =>
      rcases List.mem_cons.mp hx with rfl | hx
      · have hdone := (h answer).1 r' hlast
        rw [hdone, ← hq] at hpath
        obtain ⟨-, hresult⟩ := path_done_iff.mp hpath
        injection hresult
      · exact ih (h answer).2 hx hq

end Program

section Runs

open Program

variable {State Cmd : Type} {Resp : Cmd → Type} {Err Call Ret Choice Env : Type}
  {sys : System State Cmd Resp Err Call Ret Choice Env}
  {cond : Moment State Cmd Resp Err Call Ret Env → Attempt Cmd Call Env → Prop} {state : State}
  {c c' d : Config State Cmd Resp Err Call Ret Env} {pid : ℕ} {result : Except Err Ret} {cmd : Cmd}
  {resp : Except Err (Resp cmd)}

/-- A process that is done, or has been. -/
structure Config.DoneWith (c : Config State Cmd Resp Err Call Ret Env) (pid : ℕ)
    (result : Except Err Ret) : Prop where
  old : pid < c.next
  proc : c.procs pid = some (.done result) ∨ c.procs pid = none
  finished : ∀ result', .finished pid result' ∈ c.now.past → result' = result

theorem Config.DoneWith.step (h : c.DoneWith pid result) (hstep : Step sys cond c c') :
    c'.DoneWith pid result := by
  have hkeep : ∀ {p : Option (Program Cmd Resp Err Ret)} {pid' : ℕ}, (pid = pid' →
      p = none) → (setProc c.procs pid' p pid = some (.done result) ∨
        setProc c.procs pid' p pid = none) := by
    intro p pid' hp
    by_cases hpid : pid = pid'
    · subst hpid
      rw [setProc_self]
      exact .inr (hp rfl)
    · rw [setProc_of_ne hpid]
      exact h.proc
  have hold := h.old
  cases hstep with
  | spawn call hcond =>
      refine ⟨Nat.lt_succ_of_lt hold, ?_, fun result' hmem => ?_⟩
      · exact hkeep fun heq => absurd heq (by omega)
      · exact h.finished result' ((List.mem_cons.mp hmem).resolve_left nofun)
  | perform pid' cmd next choice resp s hproc hcond hexec =>
      refine ⟨hold, ?_, fun result' hmem => ?_⟩
      · have hne : pid ≠ pid' := by
          rintro rfl
          rcases h.proc with hdone | hnone
          · rw [hproc] at hdone
            cases hdone
          · rw [hproc] at hnone
            cases hnone
        exact hkeep fun heq => absurd heq hne
      · exact h.finished result' ((List.mem_cons.mp hmem).resolve_left nofun)
  | finish pid' result' hproc hcond =>
      refine ⟨hold, hkeep fun _ => rfl, fun result'' hmem => ?_⟩
      rcases List.mem_cons.mp hmem with heq | hrest
      · injection heq with hpid hresult
        subst hpid
        rcases h.proc with hdone | hnone
        · rw [hproc] at hdone
          injection (Option.some.inj hdone) with hsame
          exact hresult.trans hsame
        · rw [hproc] at hnone
          cases hnone
      · exact h.finished result'' hrest
  | crash pid' p hproc hcond =>
      refine ⟨hold, hkeep fun _ => rfl, fun result' hmem => ?_⟩
      exact h.finished result' ((List.mem_cons.mp hmem).resolve_left nofun)
  | change env s hcond henv =>
      refine ⟨hold, h.proc, fun result' hmem => ?_⟩
      exact h.finished result' ((List.mem_cons.mp hmem).resolve_left nofun)

theorem Config.DoneWith.steps (h : c.DoneWith pid result)
    (hsteps : Relation.ReflTransGen (Step sys cond) c d) : d.DoneWith pid result := by
  induction hsteps with
  | refl => exact h
  | tail _ hstep ih => exact ih.step hstep

/-- An exchange with a verdict decides what its process returns. -/
theorem finished_of_verdict {last : Verdict Cmd Resp Err Ret} {call : Call}
    {result result' : Except Err Ret} (hrun : Run sys cond state c) (hstep : Step sys cond c c')
    (hpast : c'.now.past = .performed pid cmd resp :: c.now.past)
    (hspawned : .spawned pid call ∈ c.now.past) (hends : EndsAt last (sys.program call))
    (hlast : last cmd resp = some result) (hsteps : Relation.ReflTransGen (Step sys cond) c' d)
    (hfinished : .finished pid result' ∈ d.now.past) : result' = result := by
  have htracked := tracked_of_run hrun
  have hdone : c'.DoneWith pid result := by
    cases hstep with
    | perform pid' cmd' next choice resp' s hproc hcond hexec =>
        have hevent := (List.cons.inj hpast).1
        injection hevent with hpid hcmd hresp
        subst hpid
        subst hcmd
        obtain rfl := eq_of_heq hresp
        obtain ⟨call', hcall', hpath⟩ := htracked.path _ _ hproc
        obtain rfl := spawned_unique_of_run hrun hspawned hcall'
        have hnext := ((hends.of_path hpath) resp').1 result hlast
        refine ⟨htracked.lt_next hproc, ?_, fun result'' hmem => ?_⟩
        · left
          change setProc c.procs _ _ _ = _
          rw [setProc_self, hnext]
        · have hold := (List.mem_cons.mp hmem).resolve_left nofun
          have hnone := htracked.running _ _ hproc _ (mem_eventsOf.mpr ⟨hold, rfl⟩)
          cases hnone
    | spawn => cases (List.cons.inj hpast).1
    | finish => cases (List.cons.inj hpast).1
    | crash => cases (List.cons.inj hpast).1
    | change => cases (List.cons.inj hpast).1
  exact (hdone.steps hsteps).finished _ hfinished

/-- What was answered, was answered in some step of the run. -/
theorem exec_of_mem (hrun : Run sys cond state c) (hmem : .performed pid cmd resp ∈ c.now.past) :
    ∃ c₀ c₁ choice, Run sys cond state c₀ ∧ Relation.ReflTransGen (Step sys cond) c₁ c ∧
      Run sys cond state c₁ ∧ sys.exec choice cmd c₀.now.state = some (resp, c₁.now.state) := by
  obtain ⟨recent, older, hpast⟩ := List.append_of_mem hmem
  obtain ⟨c₀, c₁, hrun₀, hstep, hsince, hpast₀, hpast₁⟩ := hrun.split hpast
  rw [← hpast₀] at hpast₁
  obtain ⟨-, -, choice, hexec⟩ := hstep.exec_of_performed hpast₁
  exact ⟨c₀, c₁, choice, hrun₀, hsince, hrun₀.tail hstep, hexec⟩

end Runs

end Interleave
