import Mathlib.Data.List.FinRange
import Mathlib.Data.List.Forall2
import Mathlib.Logic.Equiv.Defs
import DevHarness.Interleave.System

/-!
# What a routine does on its own

The commands that a routine performs and the answers it gets, in order.  Which
answers come is left open here, so what is shown of a routine in this way holds
whatever the others do in between; the last part relates it to the events of a
process in a run.
-/

namespace Interleave

structure Exchange (Cmd : Type) (Resp : Cmd → Type) (Err : Type) where
  cmd : Cmd
  answer : Except Err (Resp cmd)

/-- The answer is one that the command has in some state. -/
def Exchange.AnsweredBy {State Cmd Choice : Type} {Resp : Cmd → Type} {Err : Type}
    (exec : Choice → (cmd : Cmd) → State → Option (Except Err (Resp cmd) × State))
    (x : Exchange Cmd Resp Err) : Prop :=
  ∃ choice s s', exec choice x.cmd s = some (x.answer, s')

namespace Program

variable {Cmd : Type} {Resp : Cmd → Type} {Err α β : Type}

/-- The exchanges and the result of `p` when every command has the answer that
`answers` gives it. -/
def answerWith (answers : (cmd : Cmd) → Except Err (Resp cmd)) :
    Program Cmd Resp Err α → List (Exchange Cmd Resp Err) × Except Err α
  | .done r => ([], r)
  | .call cmd next =>
    let rest := answerWith answers (next (answers cmd))
    (⟨cmd, answers cmd⟩ :: rest.1, rest.2)

/-- Run on its own from one state, `p` ends with a result in another. -/
inductive Alone {State Choice : Type}
    (exec : Choice → (cmd : Cmd) → State → Option (Except Err (Resp cmd) × State)) :
    Program Cmd Resp Err α → State → Except Err α → State → Prop
  | done (r : Except Err α) (s : State) : Alone exec (.done r) s r s
  | call (cmd : Cmd) (next : Except Err (Resp cmd) → Program Cmd Resp Err α) (choice : Choice)
      (answer : Except Err (Resp cmd)) (s s' s'' : State) (r : Except Err α)
      (hexec : exec choice cmd s = some (answer, s'))
      (rest : Alone exec (next answer) s' r s'') : Alone exec (.call cmd next) s r s''

/-- Run `p` on its own, the `n`th command and those after it with the choices of
`choice`. -/
def runAlone {State Choice : Type}
    (exec : Choice → (cmd : Cmd) → State → Option (Except Err (Resp cmd) × State))
    (choice : ℕ → Choice) : ℕ → Program Cmd Resp Err α → State → Option (Except Err α × State)
  | _, .done r, s => some (r, s)
  | n, .call cmd next, s =>
    match exec (choice n) cmd s with
    | some (answer, s') => runAlone exec choice (n + 1) (next answer) s'
    | none => none

/-- After the exchanges `ex`, the routine `p` goes on as `q`. -/
inductive Path : Program Cmd Resp Err α → List (Exchange Cmd Resp Err) →
    Program Cmd Resp Err α → Prop
  | refl (p : Program Cmd Resp Err α) : Path p [] p
  | call (cmd : Cmd) (next : Except Err (Resp cmd) → Program Cmd Resp Err α)
      (answer : Except Err (Resp cmd)) (ex : List (Exchange Cmd Resp Err))
      (q : Program Cmd Resp Err α) (rest : Path (next answer) ex q) :
      Path (.call cmd next) (⟨cmd, answer⟩ :: ex) q

/-- The exchanges of a whole execution of `p` that ends with `result`. -/
def Ends (p : Program Cmd Resp Err α) (ex : List (Exchange Cmd Resp Err))
    (result : Except Err α) : Prop :=
  Path p ex (.done result)

/-- After the exchanges `ex`, the routine `p` is about to perform `cmd`. -/
def Reaches (p : Program Cmd Resp Err α) (ex : List (Exchange Cmd Resp Err)) (cmd : Cmd) :
    Prop :=
  ∃ next, Path p ex (.call cmd next)

variable {p q : Program Cmd Resp Err α} {f : α → Program Cmd Resp Err β}
  {ex : List (Exchange Cmd Resp Err)} {cmd : Cmd}

theorem path_done_iff {r : Except Err α} : Path (.done r) ex q ↔ ex = [] ∧ q = .done r := by
  constructor
  · intro h
    cases h
    exact ⟨rfl, rfl⟩
  · rintro ⟨rfl, rfl⟩
    exact .refl _

theorem path_call_iff {next : Except Err (Resp cmd) → Program Cmd Resp Err α} :
    Path (.call cmd next) ex q ↔
      (ex = [] ∧ q = .call cmd next) ∨
        ∃ answer ex', ex = ⟨cmd, answer⟩ :: ex' ∧ Path (next answer) ex' q := by
  constructor
  · intro h
    cases h with
    | refl => exact .inl ⟨rfl, rfl⟩
    | call _ _ answer ex' _ rest => exact .inr ⟨answer, ex', rfl, rest⟩
  · rintro (⟨rfl, rfl⟩ | ⟨answer, ex', rfl, hrest⟩)
    · exact .refl _
    · exact .call cmd next answer ex' q hrest

theorem Path.snoc {next : Except Err (Resp cmd) → Program Cmd Resp Err α}
    (h : Path p ex (.call cmd next)) (answer : Except Err (Resp cmd)) :
    Path p (ex ++ [⟨cmd, answer⟩]) (next answer) := by
  generalize hq : Program.call cmd next = q at h
  induction h with
  | refl p =>
      subst hq
      exact .call cmd next answer [] _ (.refl _)
  | call cmd' next' answer' ex' q' _ ih => exact .call cmd' next' answer' _ _ (ih hq)

/-- A sequence is in its first part, or has finished it. -/
theorem path_bind_iff {q : Program Cmd Resp Err β} :
    Path (p >>= f) ex q ↔
      (∃ p', Path p ex p' ∧ q = p' >>= f) ∨
        ∃ a ex₁ ex₂, ex = ex₁ ++ ex₂ ∧ Path p ex₁ (.done (.ok a)) ∧ Path (f a) ex₂ q := by
  constructor
  · intro h
    change Path (p.bind f) ex q at h
    induction p generalizing ex with
    | done r =>
        cases r with
        | ok a => exact .inr ⟨a, [], ex, rfl, .refl _, h⟩
        | error e =>
            obtain ⟨rfl, rfl⟩ := path_done_iff.mp h
            exact .inl ⟨_, .refl _, rfl⟩
    | call cmd next ih =>
        rcases path_call_iff.mp h with ⟨rfl, rfl⟩ | ⟨answer, ex', rfl, hrest⟩
        · exact .inl ⟨_, .refl _, rfl⟩
        · rcases ih answer hrest with ⟨p', hp', rfl⟩ | ⟨a, ex₁, ex₂, rfl, hp, hf⟩
          · exact .inl ⟨p', .call cmd next answer ex' p' hp', rfl⟩
          · exact .inr ⟨a, _ :: ex₁, ex₂, rfl, .call cmd next answer ex₁ _ hp, hf⟩
  · rintro (⟨p', hp', rfl⟩ | ⟨a, ex₁, ex₂, rfl, hp, hf⟩)
    · induction hp' with
      | refl p => exact .refl _
      | call cmd next answer ex' q' _ ih => exact .call cmd _ answer ex' _ ih
    · generalize hq : Program.done (.ok a) = q' at hp
      induction hp with
      | refl p =>
          subst hq
          exact hf
      | call cmd next answer ex' q' _ ih => exact .call cmd _ answer _ _ (ih hq)

section Gather

variable {ρ : Type} {n : ℕ}

/-- Perform the reads in the order in which they are listed; each enters what it
has read into a record. -/
def gather (start : ρ) : List (Program Cmd Resp Err (ρ → ρ)) → Program Cmd Resp Err ρ
  | [] => pure start
  | read :: reads => do
    let enter ← read
    gather (enter start) reads

def read (cmd : Cmd) (enter : Resp cmd → ρ → ρ) : Program Cmd Resp Err (ρ → ρ) := do
  let answer ← request cmd
  pure (enter answer)

/-- `Promise.all` of reads, which are served in any order. -/
def readAll (order : Equiv.Perm (Fin n)) (start : ρ)
    (reads : Fin n → Program Cmd Resp Err (ρ → ρ)) : Program Cmd Resp Err ρ :=
  gather start ((List.finRange n).map fun i => reads (order i))

end Gather

section Alone

variable {State Choice : Type}
  {exec : Choice → (cmd : Cmd) → State → Option (Except Err (Resp cmd) × State)} {s s' s'' : State}
  {choice : ℕ → Choice} {r : Except Err α} {n : ℕ} {a : α} {b : β}

theorem alone_of_runAlone (h : runAlone exec choice n p s = some (r, s')) :
    Alone exec p s r s' := by
  induction p generalizing n s with
  | done r' =>
      obtain ⟨rfl, rfl⟩ := Prod.mk.inj (Option.some.inj h)
      exact .done r' s
  | call cmd next ih =>
      simp only [runAlone] at h
      split at h
      · next answer t hexec => exact .call cmd next (choice n) answer s t s' r hexec (ih answer h)
      · cases h

theorem runAlone_request_bind {f : Resp cmd → Program Cmd Resp Err β} {a : Resp cmd}
    (hexec : exec (choice n) cmd s = some (.ok a, s')) :
    runAlone exec choice n (request cmd >>= f) s = runAlone exec choice (n + 1) (f a) s' := by
  change runAlone exec choice n (.call cmd fun r => (Program.done r).bind f) s = _
  simp only [runAlone, hexec]
  rfl

theorem runAlone_pure_bind {f : α → Program Cmd Resp Err β} :
    runAlone exec choice n (pure a >>= f) s = runAlone exec choice n (f a) s :=
  rfl

theorem runAlone_request {r : Except Err (Resp cmd)}
    (hexec : exec (choice n) cmd s = some (r, s')) :
    runAlone exec choice n (request cmd) s = some (r, s') := by
  simp only [request, runAlone, hexec]

@[simp] theorem alone_done_iff {r r' : Except Err α} :
    Alone exec (.done r) s r' s' ↔ r' = r ∧ s' = s := by
  constructor
  · intro h
    cases h
    exact ⟨rfl, rfl⟩
  · rintro ⟨rfl, rfl⟩
    exact .done r' s'

/-- A sequence runs its first part, and its second one unless the first has
failed. -/
theorem alone_bind_iff {r : Except Err β} : Alone exec (p >>= f) s r s'' ↔
    ∃ r₀ s', Alone exec p s r₀ s' ∧
      match r₀ with
      | .ok a => Alone exec (f a) s' r s''
      | .error e => r = .error e ∧ s'' = s' := by
  change Alone exec (p.bind f) s r s'' ↔ _
  induction p generalizing s with
  | done r₀ =>
      cases r₀ with
      | ok a =>
          constructor
          · intro h
            exact ⟨.ok a, s, .done _ _, h⟩
          · rintro ⟨r₀, s', hdone, h⟩
            obtain ⟨rfl, rfl⟩ := alone_done_iff.mp hdone
            exact h
      | error e =>
          constructor
          · intro h
            exact ⟨.error e, s, .done _ _, alone_done_iff.mp h⟩
          · rintro ⟨r₀, s', hdone, h⟩
            obtain ⟨rfl, rfl⟩ := alone_done_iff.mp hdone
            exact alone_done_iff.mpr h
  | call cmd next ih =>
      constructor
      · intro h
        cases h with
        | call _ _ choice answer _ t _ _ hexec rest =>
            obtain ⟨r₀, s', hp, hf⟩ := (ih answer).mp rest
            exact ⟨r₀, s', .call cmd next choice answer s t s' r₀ hexec hp, hf⟩
      · rintro ⟨r₀, s', hp, hf⟩
        cases hp with
        | call _ _ choice answer _ t _ _ hexec rest =>
            exact .call cmd _ choice answer s t s'' r hexec ((ih answer).mpr ⟨r₀, s', rest, hf⟩)

theorem alone_handle_iff {g : Err → Program Cmd Resp Err α} :
    Alone exec (p.handle g) s r s'' ↔
      ∃ r₀ s', Alone exec p s r₀ s' ∧
        match r₀ with
        | .ok a => r = .ok a ∧ s'' = s'
        | .error e => Alone exec (g e) s' r s'' := by
  induction p generalizing s with
  | done r₀ =>
      cases r₀ with
      | ok a =>
          constructor
          · intro h
            exact ⟨.ok a, s, .done _ _, alone_done_iff.mp h⟩
          · rintro ⟨r₀, s', hdone, h⟩
            obtain ⟨rfl, rfl⟩ := alone_done_iff.mp hdone
            exact alone_done_iff.mpr h
      | error e =>
          constructor
          · intro h
            exact ⟨.error e, s, .done _ _, h⟩
          · rintro ⟨r₀, s', hdone, h⟩
            obtain ⟨rfl, rfl⟩ := alone_done_iff.mp hdone
            exact h
  | call cmd next ih =>
      constructor
      · intro h
        cases h with
        | call _ _ choice answer _ t _ _ hexec rest =>
            obtain ⟨r₀, s', hp, hg⟩ := (ih answer).mp rest
            exact ⟨r₀, s', .call cmd next choice answer s t s' r₀ hexec hp, hg⟩
      · rintro ⟨r₀, s', hp, hg⟩
        cases hp with
        | call _ _ choice answer _ t _ _ hexec rest =>
            exact .call cmd _ choice answer s t s'' r hexec ((ih answer).mpr ⟨r₀, s', rest, hg⟩)

theorem alone_request_iff {r : Except Err (Resp cmd)} :
    Alone exec (request cmd) s r s' ↔ ∃ choice, exec choice cmd s = some (r, s') := by
  constructor
  · intro h
    cases h with
    | call _ _ choice answer _ t _ _ hexec rest =>
        obtain ⟨rfl, rfl⟩ := alone_done_iff.mp rest
        exact ⟨choice, hexec⟩
  · rintro ⟨choice, hexec⟩
    exact .call cmd _ choice r s s' s' r hexec (.done r s')

theorem alone_ok_bind_iff {r : Except Err β} :
    Alone exec ((.done (.ok a) : Program Cmd Resp Err α) >>= f) s r s'' ↔
      Alone exec (f a) s r s'' :=
  Iff.rfl

theorem alone_request_bind_iff {f : Resp cmd → Program Cmd Resp Err β} {r : Except Err β} :
    Alone exec (request cmd >>= f) s r s'' ↔
      ∃ choice answer s', exec choice cmd s = some (answer, s') ∧
        match answer with
        | .ok a => Alone exec (f a) s' r s''
        | .error e => r = .error e ∧ s'' = s' := by
  rw [alone_bind_iff]
  constructor
  · rintro ⟨answer, s', hrequest, hrest⟩
    obtain ⟨choice, hexec⟩ := alone_request_iff.mp hrequest
    refine ⟨choice, answer, s', hexec, ?_⟩
    cases answer with
    | ok a => exact hrest
    | error e => exact hrest
  · rintro ⟨choice, answer, s', hexec, hrest⟩
    refine ⟨answer, s', alone_request_iff.mpr ⟨choice, hexec⟩, ?_⟩
    cases answer with
    | ok a => exact hrest
    | error e => exact hrest

theorem alone_request_bind_ok_iff {f : Resp cmd → Program Cmd Resp Err β} :
    Alone exec (request cmd >>= f) s (.ok b) s'' ↔
      ∃ choice a s', exec choice cmd s = some (.ok a, s') ∧ Alone exec (f a) s' (.ok b) s'' := by
  rw [alone_request_bind_iff]
  constructor
  · rintro ⟨choice, answer, s', hexec, hrest⟩
    cases answer with
    | ok a => exact ⟨choice, a, s', hexec, hrest⟩
    | error e => cases hrest.1
  · rintro ⟨choice, a, s', hexec, hrest⟩
    exact ⟨choice, .ok a, s', hexec, hrest⟩

/-- A result that is at hand, in an execution that succeeds. -/
theorem alone_done_bind_ok_iff {f : α → Program Cmd Resp Err β} :
    Alone exec ((.done r : Program Cmd Resp Err α) >>= f) s (.ok b) s'' ↔
      ∃ a, r = .ok a ∧ Alone exec (f a) s (.ok b) s'' := by
  cases r with
  | ok a =>
      constructor
      · intro h
        exact ⟨a, rfl, h⟩
      · rintro ⟨a', ha, h⟩
        obtain rfl := Except.ok.inj ha
        exact h
  | error e =>
      constructor
      · intro h
        cases (alone_done_iff.mp h).1
      · rintro ⟨a', ha, -⟩
        cases ha

/-- What runs at the end of an execution that succeeds. -/
theorem alone_andFinally_ok {q : Program Cmd Resp Err Unit}
    (h : Alone exec (p.andFinally q) s (.ok a) s'') :
    ∃ s' u, Alone exec p s (.ok a) s' ∧ Alone exec q s' (.ok u) s'' := by
  induction p generalizing s with
  | done r =>
      cases r with
      | ok a' =>
          obtain ⟨r', s', hq, hrest⟩ := alone_bind_iff.mp h
          cases r' with
          | ok u =>
              obtain ⟨ha, rfl⟩ := alone_done_iff.mp hrest
              exact ⟨s, u, ha ▸ .done _ _, hq⟩
          | error e => cases hrest.1
      | error e =>
          obtain ⟨r', s', hq, hrest⟩ := alone_bind_iff.mp h
          cases r' with
          | ok u => cases (alone_done_iff.mp hrest).1
          | error e => cases hrest.1
  | call cmd next ih =>
      cases h with
      | call _ _ choice answer _ t _ _ hexec rest =>
          obtain ⟨s', u, hp, hq⟩ := ih answer rest
          exact ⟨s', u, .call cmd next choice answer s t s' (.ok a) hexec hp, hq⟩

end Alone

section Ends

variable {b : β} {a : α} {x : Exchange Cmd Resp Err} {g : α → Program Cmd Resp Err β} {as : List α}
  {bs : List β} {ρ : Type} {start r : ρ} {P : ρ → Prop} {n : ℕ}
  {reads : Fin n → Program Cmd Resp Err (ρ → ρ)} {order : Equiv.Perm (Fin n)}
  {enter : Resp cmd → ρ → ρ}

@[simp] theorem ends_done_iff {r r' : Except Err α} :
    Ends (.done r) ex r' ↔ ex = [] ∧ r' = r := by
  unfold Ends
  rw [path_done_iff]
  simp

@[simp] theorem ends_pure_iff {r : Except Err α} :
    Ends (pure a : Program Cmd Resp Err α) ex r ↔ ex = [] ∧ r = .ok a :=
  ends_done_iff

@[simp] theorem ends_throw_iff {e : Err} {r : Except Err α} :
    Ends (throw e : Program Cmd Resp Err α) ex r ↔ ex = [] ∧ r = .error e :=
  ends_done_iff

theorem ends_answerWith (answers : (cmd : Cmd) → Except Err (Resp cmd))
    (p : Program Cmd Resp Err α) : Ends p (answerWith answers p).1 (answerWith answers p).2 := by
  induction p with
  | done r => exact .refl _
  | call cmd next ih => exact .call cmd next (answers cmd) _ _ (ih (answers cmd))

theorem answer_of_mem_answerWith {answers : (cmd : Cmd) → Except Err (Resp cmd)}
    (hx : x ∈ (answerWith answers p).1) : x.answer = answers x.cmd := by
  induction p with
  | done r => exact absurd hx List.not_mem_nil
  | call cmd next ih =>
      rcases List.mem_cons.mp hx with rfl | hx
      · rfl
      · exact ih (answers cmd) hx

/-- A sequence that returns has returned from both of its parts. -/
theorem ends_bind_ok_iff : Ends (p >>= f) ex (.ok b) ↔
    ∃ a ex₁ ex₂, ex = ex₁ ++ ex₂ ∧ Ends p ex₁ (.ok a) ∧ Ends (f a) ex₂ (.ok b) := by
  unfold Ends
  rw [path_bind_iff]
  constructor
  · rintro (⟨p', hp', hq⟩ | h)
    · cases p' with
      | done r =>
          cases r with
          | ok a => exact ⟨a, ex, [], (List.append_nil ex).symm, hp', hq ▸ .refl _⟩
          | error e =>
              change Program.done (.ok b) = .done (.error e) at hq
              injection hq with hq
              cases hq
      | call cmd next => cases hq
    · exact h
  · exact .inr

/-- A sequence ends with the error of its first part, or has finished it. -/
theorem ends_bind {r : Except Err β} (h : Ends (p >>= f) ex r) :
    (∃ e, Ends p ex (.error e) ∧ r = .error e) ∨
      ∃ a ex₁ ex₂, ex = ex₁ ++ ex₂ ∧ Ends p ex₁ (.ok a) ∧ Ends (f a) ex₂ r := by
  rcases path_bind_iff.mp h with ⟨p', hp', hq⟩ | h
  · cases p' with
    | done r' =>
        cases r' with
        | ok a =>
            refine .inr ⟨a, ex, [], (List.append_nil ex).symm, hp', ?_⟩
            change Program.done r = f a at hq
            rw [← hq]
            exact .refl _
        | error e =>
            change Program.done r = .done (.error e) at hq
            injection hq with hq
            exact .inl ⟨e, hp', hq⟩
    | call cmd next => cases hq
  · exact .inr h

@[simp] theorem ends_request_iff {r : Except Err (Resp cmd)} :
    Ends (request cmd : Program Cmd Resp Err (Resp cmd)) ex r ↔ ex = [⟨cmd, r⟩] := by
  unfold Ends request
  rw [path_call_iff]
  constructor
  · rintro (⟨rfl, h⟩ | ⟨answer, ex', rfl, hrest⟩)
    · cases h
    · obtain ⟨rfl, h⟩ := path_done_iff.mp hrest
      injection h with h
      rw [h]
  · rintro rfl
    exact .inr ⟨r, [], rfl, .refl _⟩

theorem ends_done_bind_iff {r : Except Err α} :
    Ends ((.done r : Program Cmd Resp Err α) >>= f) ex (.ok b) ↔
      ∃ a, r = .ok a ∧ Ends (f a) ex (.ok b) := by
  rw [ends_bind_ok_iff]
  constructor
  · rintro ⟨a, ex₁, ex₂, rfl, hdone, hf⟩
    obtain ⟨rfl, hr⟩ := ends_done_iff.mp hdone
    exact ⟨a, hr.symm, hf⟩
  · rintro ⟨a, rfl, hf⟩
    exact ⟨a, [], ex, rfl, ends_done_iff.mpr ⟨rfl, rfl⟩, hf⟩

theorem ends_request_bind_iff {f : Resp cmd → Program Cmd Resp Err β} :
    Ends (request cmd >>= f) ex (.ok b) ↔
      ∃ a ex', ex = ⟨cmd, .ok a⟩ :: ex' ∧ Ends (f a) ex' (.ok b) := by
  rw [ends_bind_ok_iff]
  constructor
  · rintro ⟨a, ex₁, ex₂, rfl, hrequest, hf⟩
    obtain rfl := ends_request_iff.mp hrequest
    exact ⟨a, ex₂, rfl, hf⟩
  · rintro ⟨a, ex', rfl, hf⟩
    exact ⟨a, [⟨cmd, .ok a⟩], ex', rfl, ends_request_iff.mpr rfl, hf⟩

theorem exists_of_ends_request_bind {f : Resp cmd → Program Cmd Resp Err β} {r : Except Err β}
    (h : Ends (request cmd >>= f) ex r) :
    ∃ answer ex', ex = ⟨cmd, answer⟩ :: ex' ∧ ∀ a, answer = .ok a → Ends (f a) ex' r := by
  rcases path_call_iff.mp h with ⟨-, hq⟩ | ⟨answer, ex', rfl, hrest⟩
  · cases hq
  · refine ⟨answer, ex', rfl, ?_⟩
    rintro a rfl
    exact hrest

/-- What is returned with a handler: by the routine, or by the handler of its error. -/
theorem ends_handle_ok {g : Err → Program Cmd Resp Err α} (h : Ends (p.handle g) ex (.ok a)) :
    Ends p ex (.ok a) ∨
      ∃ e ex₁ ex₂, ex = ex₁ ++ ex₂ ∧ Ends p ex₁ (.error e) ∧ Ends (g e) ex₂ (.ok a) := by
  induction p generalizing ex with
  | done r =>
      cases r with
      | ok a' => exact .inl h
      | error e => exact .inr ⟨e, [], ex, rfl, ends_done_iff.mpr ⟨rfl, rfl⟩, h⟩
  | call cmd next ih =>
      rcases path_call_iff.mp h with ⟨-, hq⟩ | ⟨answer, ex', rfl, hrest⟩
      · cases hq
      · rcases ih answer hrest with hnext | ⟨e, ex₁, ex₂, rfl, hends, hg⟩
        · exact .inl (.call cmd next answer ex' _ hnext)
        · exact .inr ⟨e, _ :: ex₁, ex₂, rfl, .call cmd next answer ex₁ _ hends, hg⟩

/-- A loop that returns has returned from every round, and has collected the
results. -/
theorem forall₂_of_ends_forEach (h : Ends (forEach g as) ex (.ok bs)) :
    List.Forall₂ (fun a b => ∃ ex', ex' ⊆ ex ∧ Ends (g a) ex' (.ok b)) as bs := by
  induction as generalizing ex bs with
  | nil =>
      obtain ⟨-, hbs⟩ := ends_pure_iff.mp h
      obtain rfl := Except.ok.inj hbs
      exact .nil
  | cons a as ih =>
      obtain ⟨b, ex₁, ex₂, rfl, hround, hrest⟩ := ends_bind_ok_iff.mp h
      obtain ⟨bs', ex₃, ex₄, rfl, hloop, hpure⟩ := ends_bind_ok_iff.mp hrest
      obtain ⟨-, hbs⟩ := ends_pure_iff.mp hpure
      obtain rfl := Except.ok.inj hbs
      refine .cons ⟨ex₁, List.subset_append_left _ _, hround⟩ ((ih hloop).imp ?_)
      rintro a b ⟨ex', hsub, hends⟩
      refine ⟨ex', fun e he => ?_, hends⟩
      exact List.mem_append_right _ (List.mem_append_left _ (hsub he))

/-- An exchange of a loop belongs to one of its rounds. -/
theorem round_of_mem (h : Ends (forEach g as) ex (.ok bs)) (hx : x ∈ ex) :
    ∃ a ∈ as, ∃ b ∈ bs, ∃ ex', x ∈ ex' ∧ Ends (g a) ex' (.ok b) := by
  induction as generalizing ex bs with
  | nil =>
      obtain ⟨rfl, -⟩ := ends_pure_iff.mp h
      exact absurd hx List.not_mem_nil
  | cons a as ih =>
      obtain ⟨b, ex₁, ex₂, rfl, hround, hrest⟩ := ends_bind_ok_iff.mp h
      obtain ⟨bs', ex₃, ex₄, rfl, hloop, hpure⟩ := ends_bind_ok_iff.mp hrest
      obtain ⟨rfl, hbs⟩ := ends_pure_iff.mp hpure
      obtain rfl := Except.ok.inj hbs
      rw [List.append_nil] at hx
      rcases List.mem_append.mp hx with hx | hx
      · exact ⟨a, List.mem_cons_self, b, List.mem_cons_self, ex₁, hx, hround⟩
      · obtain ⟨a', ha', b', hb', ex', hx', hends⟩ := ih hloop hx
        exact ⟨a', List.mem_cons_of_mem _ ha', b', List.mem_cons_of_mem _ hb', ex', hx', hends⟩

/-- What one of the reads establishes about the record and the others keep, holds
of the record that is gathered. -/
theorem of_ends_gather {reads : List (Program Cmd Resp Err (ρ → ρ))}
    (hkeep : ∀ read ∈ reads, ∀ ex' enter, ex' ⊆ ex → Ends read ex' (.ok enter) → ∀ record, P record
      → P (enter record))
    (hsome : P start ∨ ∃ read ∈ reads, ∀ ex' enter, ex' ⊆ ex → Ends read ex' (.ok enter) → ∀
      record, P (enter record)) (h : Ends (gather start reads) ex (.ok r)) : P r := by
  induction reads generalizing start ex with
  | nil =>
      obtain ⟨-, hr⟩ := ends_pure_iff.mp h
      obtain rfl := Except.ok.inj hr
      rcases hsome with hstart | ⟨read, hread, -⟩
      · exact hstart
      · exact absurd hread List.not_mem_nil
  | cons read reads ih =>
      obtain ⟨enter, ex₁, ex₂, rfl, hread, hrest⟩ := ends_bind_ok_iff.mp h
      have hleft : ex₁ ⊆ ex₁ ++ ex₂ := List.subset_append_left _ _
      have hright : ex₂ ⊆ ex₁ ++ ex₂ := List.subset_append_right _ _
      refine ih ?_ ?_ hrest
      · intro read' hread' ex' enter' hsub hends record hrecord
        exact hkeep read' (List.mem_cons_of_mem _ hread') ex' enter'
          (fun e he => hright (hsub he)) hends record hrecord
      · rcases hsome with hstart | ⟨read', hread', hestablish⟩
        · exact .inl (hkeep read List.mem_cons_self ex₁ enter hleft hread start hstart)
        · rcases List.mem_cons.mp hread' with rfl | hmem
          · exact .inl (hestablish ex₁ enter hleft hread start)
          · exact .inr ⟨read', hmem, fun ex' enter' hsub =>
              hestablish ex' enter' fun e he => hright (hsub he)⟩

/-- What read `i` establishes and the other reads keep, in whatever order they are
served. -/
theorem of_ends_readAll (i : Fin n)
    (hi : ∀ ex' enter, ex' ⊆ ex → Ends (reads i) ex' (.ok enter) → ∀ record, P (enter record))
    (hkeep : ∀ j, j ≠ i → ∀ ex' enter, Ends (reads j) ex' (.ok enter) → ∀ record, P record → P
      (enter record)) (h : Ends (readAll order start reads) ex (.ok r)) : P r := by
  refine of_ends_gather ?_ (.inr ⟨reads i, ?_, hi⟩) h
  · intro read hread ex' enter hsub hends record hrecord
    obtain ⟨k, -, rfl⟩ := List.mem_map.mp hread
    by_cases hk : order k = i
    · rw [hk] at hends
      exact hi ex' enter hsub hends record
    · exact hkeep (order k) hk ex' enter hends record hrecord
  · exact List.mem_map.mpr ⟨order.symm i, List.mem_finRange _, by simp⟩

/-- An exchange of a gathering belongs to one of the reads; the reads after it go
on from the record into which that read has entered its answer. -/
theorem read_of_mem_gather {reads : List (Program Cmd Resp Err (ρ → ρ))}
    (h : Ends (gather start reads) ex (.ok r)) (hx : x ∈ ex) :
    ∃ before read after, reads = before ++ read :: after ∧
      ∃ ex' enter, x ∈ ex' ∧ Ends read ex' (.ok enter) ∧
        ∃ record ex'', Ends (gather (enter record) after) ex'' (.ok r) := by
  induction reads generalizing start ex with
  | nil =>
      obtain ⟨rfl, -⟩ := ends_pure_iff.mp h
      exact absurd hx List.not_mem_nil
  | cons read reads ih =>
      obtain ⟨enter, ex₁, ex₂, rfl, hread, hrest⟩ := ends_bind_ok_iff.mp h
      rcases List.mem_append.mp hx with hx | hx
      · exact ⟨[], read, reads, rfl, ex₁, enter, hx, hread, start, ex₂, hrest⟩
      · obtain ⟨before, read', after, rfl, hread'⟩ := ih hrest hx
        exact ⟨read :: before, read', after, rfl, hread'⟩

/-- An answer that one of the reads enters and the other reads keep is in the
record. -/
theorem of_mem_readAll (h : Ends (readAll order start reads) ex (.ok r)) (hx : x ∈ ex) :
    ∃ i ex' enter, x ∈ ex' ∧ Ends (reads i) ex' (.ok enter) ∧
      ((∀ record, P (enter record)) →
        (∀ j, j ≠ i → ∀ ex' enter', Ends (reads j) ex' (.ok enter') →
          ∀ record, P record → P (enter' record)) → P r) := by
  obtain ⟨before, read, after, hreads, ex', enter, hx', hends, record, ex'', hrest⟩ :=
    read_of_mem_gather h hx
  obtain ⟨l₁, l₂, hl, -, hcons⟩ := List.map_eq_append_iff.mp hreads
  obtain ⟨k, l₃, rfl, rfl, rfl⟩ := List.map_eq_cons_iff.mp hcons
  refine ⟨order k, ex', enter, hx', hends, fun hi hkeep => ?_⟩
  refine of_ends_gather ?_ (.inl (hi record)) hrest
  intro read' hread' ex₁ enter' _ hends' record' hrecord'
  obtain ⟨j, hj, rfl⟩ := List.mem_map.mp hread'
  have hnodup := List.nodup_finRange n
  rw [hl, List.nodup_append] at hnodup
  have hne : j ≠ k := by
    rintro rfl
    exact (List.nodup_cons.mp hnodup.2.1).1 hj
  exact hkeep (order j) (fun heq => hne (order.injective heq)) ex₁ enter' hends' record' hrecord'

theorem ends_read_iff {e : ρ → ρ} :
    Ends (read cmd enter : Program Cmd Resp Err (ρ → ρ)) ex (.ok e) ↔
      ∃ answer, ex = [⟨cmd, .ok answer⟩] ∧ e = enter answer := by
  unfold read
  rw [ends_bind_ok_iff]
  constructor
  · rintro ⟨answer, ex₁, ex₂, rfl, hrequest, hpure⟩
    obtain rfl := ends_request_iff.mp hrequest
    obtain ⟨rfl, he⟩ := ends_pure_iff.mp hpure
    exact ⟨answer, rfl, Except.ok.inj he⟩
  · rintro ⟨answer, rfl, rfl⟩
    exact ⟨answer, _, [], rfl, ends_request_iff.mpr rfl, ends_pure_iff.mpr ⟨rfl, rfl⟩⟩

/-- The field of the record that read `i` fills holds the answer of its command,
and that command has no other answer. -/
theorem mem_readAll_iff {g : ρ → Resp cmd} (i : Fin n) (hi : reads i = read cmd enter)
    (hfill : ∀ answer record, g (enter answer record) = answer)
    (hkeep : ∀ j, j ≠ i → ∀ ex' enter', Ends (reads j) ex' (.ok enter') → (∀ record, g (enter'
      record) = g record) ∧ ∀ x ∈ ex', x.cmd ≠ cmd)
    (h : Ends (readAll order start reads) ex (.ok r)) (answer : Resp cmd) :
    ⟨cmd, .ok answer⟩ ∈ ex ↔ answer = g r := by
  constructor
  · intro hmem
    obtain ⟨j, ex', enter', hx, hends, hP⟩ :=
      of_mem_readAll (P := fun record => answer = g record) h hmem
    by_cases hj : j = i
    · subst hj
      rw [hi] at hends
      obtain ⟨answer', rfl, rfl⟩ := ends_read_iff.mp hends
      have heq := List.mem_singleton.mp hx
      injection heq with _ heq
      obtain rfl := Except.ok.inj heq
      refine hP (fun record => (hfill answer record).symm) ?_
      intro k hk ex₁ enter₁ hends₁ record hrecord
      rw [(hkeep k hk ex₁ enter₁ hends₁).1]
      exact hrecord
    · exact absurd rfl ((hkeep j hj ex' enter' hends).2 _ hx)
  · rintro rfl
    refine of_ends_readAll (P := fun record => ⟨cmd, .ok (g record)⟩ ∈ ex) i ?_ ?_ h
    · intro ex' enter' hsub hends record
      rw [hi] at hends
      obtain ⟨answer', rfl, rfl⟩ := ends_read_iff.mp hends
      rw [hfill]
      exact hsub (List.mem_singleton.mpr rfl)
    · intro j hj ex' enter' hends record hrecord
      rw [(hkeep j hj ex' enter' hends).1]
      exact hrecord

end Ends

section Reaches

variable {r : Except Err α} {cmd' : Cmd}

@[simp] theorem not_reaches_done : ¬ Reaches (.done r) ex cmd := by
  rintro ⟨next, h⟩
  cases (path_done_iff.mp h).2

@[simp] theorem not_reaches_pure {a : α} :
    ¬ Reaches (pure a : Program Cmd Resp Err α) ex cmd :=
  not_reaches_done

@[simp] theorem not_reaches_throw {e : Err} :
    ¬ Reaches (throw e : Program Cmd Resp Err α) ex cmd :=
  not_reaches_done

theorem reaches_bind_iff : Reaches (p >>= f) ex cmd ↔
    Reaches p ex cmd ∨
      ∃ a ex₁ ex₂, ex = ex₁ ++ ex₂ ∧ Ends p ex₁ (.ok a) ∧ Reaches (f a) ex₂ cmd := by
  unfold Reaches Ends
  constructor
  · rintro ⟨next, h⟩
    rcases path_bind_iff.mp h with ⟨p', hp', hq⟩ | ⟨a, ex₁, ex₂, rfl, hp, hf⟩
    · cases p' with
      | done r =>
          cases r with
          | ok a =>
              exact .inr ⟨a, ex, [], (List.append_nil ex).symm, hp', next, hq ▸ .refl _⟩
          | error e => cases hq
      | call cmd' next' =>
          change Program.call cmd next = .call cmd' _ at hq
          injection hq with hcmd _
          subst hcmd
          exact .inl ⟨next', hp'⟩
    · exact .inr ⟨a, ex₁, ex₂, rfl, hp, next, hf⟩
  · rintro (⟨next, h⟩ | ⟨a, ex₁, ex₂, rfl, hp, next, hf⟩)
    · exact ⟨_, path_bind_iff.mpr (.inl ⟨_, h, rfl⟩)⟩
    · exact ⟨next, path_bind_iff.mpr (.inr ⟨a, ex₁, ex₂, rfl, hp, hf⟩)⟩

@[simp] theorem reaches_request_iff :
    Reaches (request cmd' : Program Cmd Resp Err (Resp cmd')) ex cmd ↔
      ex = [] ∧ cmd = cmd' := by
  unfold Reaches request
  constructor
  · rintro ⟨next, h⟩
    rcases path_call_iff.mp h with ⟨rfl, hq⟩ | ⟨answer, ex', rfl, hrest⟩
    · injection hq with hcmd _
      exact ⟨rfl, hcmd⟩
    · cases (path_done_iff.mp hrest).2
  · rintro ⟨rfl, rfl⟩
    exact ⟨_, .refl _⟩

/-- What is reached from a command on: that command, or what its answer leads to. -/
theorem reaches_request_bind_iff {f : Resp cmd' → Program Cmd Resp Err β} :
    Reaches (request cmd' >>= f) ex cmd ↔
      (ex = [] ∧ cmd = cmd') ∨
        ∃ a ex', ex = ⟨cmd', .ok a⟩ :: ex' ∧ Reaches (f a) ex' cmd := by
  rw [reaches_bind_iff, reaches_request_iff]
  constructor
  · rintro (h | ⟨a, ex₁, ex₂, rfl, hrequest, hf⟩)
    · exact .inl h
    · obtain rfl := ends_request_iff.mp hrequest
      exact .inr ⟨a, ex₂, rfl, hf⟩
  · rintro (h | ⟨a, ex', rfl, hf⟩)
    · exact .inl h
    · exact .inr ⟨a, [_], ex', rfl, ends_request_iff.mpr rfl, hf⟩

/-- What is reached behind a command that is another one. -/
theorem reaches_behind {f : Resp cmd' → Program Cmd Resp Err β}
    (h : Reaches (request cmd' >>= f) ex cmd) (hne : cmd ≠ cmd') :
    ∃ a ex', ex = ⟨cmd', .ok a⟩ :: ex' ∧ Reaches (f a) ex' cmd :=
  (reaches_request_bind_iff.mp h).resolve_left fun hfirst => hne hfirst.2

theorem reaches_done_bind_iff :
    Reaches ((.done r : Program Cmd Resp Err α) >>= f) ex cmd ↔
      ∃ a, r = .ok a ∧ Reaches (f a) ex cmd := by
  rw [reaches_bind_iff]
  constructor
  · rintro (h | ⟨a, ex₁, ex₂, rfl, hdone, hf⟩)
    · exact absurd h not_reaches_done
    · obtain ⟨rfl, hr⟩ := ends_done_iff.mp hdone
      exact ⟨a, hr.symm, hf⟩
  · rintro ⟨a, rfl, hf⟩
    exact .inr ⟨a, [], ex, rfl, ends_done_iff.mpr ⟨rfl, rfl⟩, hf⟩

/-- What is reached with a handler: by the routine, or by the handler of its error. -/
theorem reaches_handle {g : Err → Program Cmd Resp Err α} (h : Reaches (p.handle g) ex cmd) :
    Reaches p ex cmd ∨
      ∃ e ex₁ ex₂, ex = ex₁ ++ ex₂ ∧ Ends p ex₁ (.error e) ∧ Reaches (g e) ex₂ cmd := by
  induction p generalizing ex with
  | done r =>
      cases r with
      | ok a => exact absurd h not_reaches_done
      | error e => exact .inr ⟨e, [], ex, rfl, ends_done_iff.mpr ⟨rfl, rfl⟩, h⟩
  | call cmd' next ih =>
      obtain ⟨next', hpath⟩ := h
      rcases path_call_iff.mp hpath with ⟨rfl, hq⟩ | ⟨answer, ex', rfl, hrest⟩
      · injection hq with hcmd _
        subst hcmd
        exact .inl ⟨next, .refl _⟩
      · rcases ih answer ⟨next', hrest⟩ with ⟨next'', hnext⟩ | ⟨e, ex₁, ex₂, rfl, hends, hg⟩
        · exact .inl ⟨next'', .call cmd' next answer ex' _ hnext⟩
        · exact .inr ⟨e, _ :: ex₁, ex₂, rfl, .call cmd' next answer ex₁ _ hends, hg⟩

end Reaches

/-! ## The commands of a routine -/

/-- Every command that `p` may come to perform is one of `P`. -/
def Only (P : Cmd → Prop) : Program Cmd Resp Err α → Prop
  | .done _ => True
  | .call cmd next => P cmd ∧ ∀ answer, Only P (next answer)

section Only

variable {P : Cmd → Prop} {r : Except Err α} {g : Err → Program Cmd Resp Err α} {ρ : Type}
  {start : ρ} {n : ℕ} {reads : Fin n → Program Cmd Resp Err (ρ → ρ)} {order : Equiv.Perm (Fin n)}

@[simp] theorem only_done : Only P (.done r : Program Cmd Resp Err α) := trivial

@[simp] theorem only_pure {a : α} : Only P (pure a : Program Cmd Resp Err α) := trivial

@[simp] theorem only_throw {e : Err} : Only P (throw e : Program Cmd Resp Err α) := trivial

@[simp] theorem only_request {cmd : Cmd} :
    Only P (request cmd : Program Cmd Resp Err (Resp cmd)) ↔ P cmd := by
  constructor
  · intro h
    exact h.1
  · intro h
    exact ⟨h, fun _ => trivial⟩

theorem Only.mono {Q : Cmd → Prop} (hPQ : ∀ cmd, P cmd → Q cmd) (h : Only P p) :
    Only Q p := by
  induction p with
  | done r => exact trivial
  | call cmd next ih => exact ⟨hPQ cmd h.1, fun answer => ih answer (h.2 answer)⟩

theorem only_bind (hp : Only P p) (hf : ∀ a, Only P (f a)) : Only P (p >>= f) := by
  change Only P (p.bind f)
  induction p with
  | done r =>
      cases r with
      | ok a => exact hf a
      | error e => exact trivial
  | call cmd next ih => exact ⟨hp.1, fun answer => ih answer (hp.2 answer)⟩

/-- A sequence whose second part is run on what the first one returns. -/
theorem only_bind_of_ends (hp : Only P p)
    (hf : ∀ a ex, Ends p ex (.ok a) → Only P (f a)) : Only P (p >>= f) := by
  change Only P (p.bind f)
  induction p with
  | done r =>
      cases r with
      | ok a => exact hf a [] (.refl _)
      | error e => exact trivial
  | call cmd next ih =>
      refine ⟨hp.1, fun answer => ih answer (hp.2 answer) fun a ex h => ?_⟩
      exact hf a (⟨cmd, answer⟩ :: ex) (.call cmd next answer ex _ h)

theorem only_request_bind_iff {cmd : Cmd} {f : Resp cmd → Program Cmd Resp Err β} :
    Only P (request cmd >>= f) ↔ P cmd ∧ ∀ a, Only P (f a) := by
  constructor
  · intro h
    exact ⟨h.1, fun a => h.2 (.ok a)⟩
  · rintro ⟨hcmd, hf⟩
    exact only_bind (only_request.mpr hcmd) hf

theorem only_done_bind_iff :
    Only P ((.done r : Program Cmd Resp Err α) >>= f) ↔ ∀ a, r = .ok a → Only P (f a) := by
  constructor
  · rintro h a rfl
    exact h
  · intro h
    cases r with
    | ok a => exact h a rfl
    | error e => exact trivial

theorem only_handle (hp : Only P p) (hg : ∀ e, Only P (g e)) : Only P (p.handle g) := by
  induction p with
  | done r =>
      cases r with
      | ok a => exact trivial
      | error e => exact hg e
  | call cmd next ih => exact ⟨hp.1, fun answer => ih answer (hp.2 answer)⟩

theorem only_read {cmd : Cmd} {enter : Resp cmd → ρ → ρ} (hcmd : P cmd) :
    Only P (read cmd enter : Program Cmd Resp Err (ρ → ρ)) :=
  only_bind (only_request.mpr hcmd) fun _ => only_pure

theorem only_forEach {g : α → Program Cmd Resp Err β} (hg : ∀ a, Only P (g a))
    (as : List α) : Only P (forEach g as) := by
  induction as with
  | nil => exact trivial
  | cons a as ih => exact only_bind (hg a) fun b => only_bind ih fun bs => trivial

theorem only_gather {reads : List (Program Cmd Resp Err (ρ → ρ))}
    (hreads : ∀ read ∈ reads, Only P read) (start : ρ) : Only P (gather start reads) := by
  induction reads generalizing start with
  | nil => exact trivial
  | cons read reads ih =>
      exact only_bind (hreads read List.mem_cons_self) fun enter =>
        ih (fun read' h => hreads read' (List.mem_cons_of_mem _ h)) (enter start)

theorem only_readAll (hreads : ∀ i, Only P (reads i)) : Only P (readAll order start reads) := by
  refine only_gather ?_ start
  intro read hread
  obtain ⟨k, -, rfl⟩ := List.mem_map.mp hread
  exact hreads (order k)

/-- The commands of `P` are performed at most once. -/
def Once (P : Cmd → Prop) : Program Cmd Resp Err α → Prop
  | .done _ => True
  | .call cmd next =>
    (P cmd ∧ ∀ answer, Only (fun cmd => ¬ P cmd) (next answer)) ∨
      (¬ P cmd ∧ ∀ answer, Once P (next answer))

theorem once_of_only (h : Only (fun cmd => ¬ P cmd) p) : Once P p := by
  induction p with
  | done r => exact trivial
  | call cmd next ih => exact .inr ⟨h.1, fun answer => ih answer (h.2 answer)⟩

theorem once_bind_right (hp : Only (fun cmd => ¬ P cmd) p) (hf : ∀ a, Once P (f a)) :
    Once P (p >>= f) := by
  change Once P (p.bind f)
  induction p with
  | done r =>
      cases r with
      | ok a => exact hf a
      | error e => exact trivial
  | call cmd next ih => exact .inr ⟨hp.1, fun answer => ih answer (hp.2 answer)⟩

theorem once_bind_left (hp : Once P p) (hf : ∀ a, Only (fun cmd => ¬ P cmd) (f a)) :
    Once P (p >>= f) := by
  change Once P (p.bind f)
  induction p with
  | done r =>
      cases r with
      | ok a => exact once_of_only (hf a)
      | error e => exact trivial
  | call cmd next ih =>
      rcases hp with ⟨hcmd, hnext⟩ | ⟨hcmd, hnext⟩
      · exact .inl ⟨hcmd, fun answer => only_bind (hnext answer) hf⟩
      · exact .inr ⟨hcmd, fun answer => ih answer (hnext answer)⟩

theorem once_request {cmd : Cmd} : Once P (request cmd : Program Cmd Resp Err (Resp cmd)) := by
  by_cases hcmd : P cmd
  · exact .inl ⟨hcmd, fun _ => trivial⟩
  · exact .inr ⟨hcmd, fun _ => trivial⟩

theorem once_handle (hp : Once P p) (hg : ∀ e, Only (fun cmd => ¬ P cmd) (g e)) :
    Once P (p.handle g) := by
  induction p with
  | done r =>
      cases r with
      | ok a => exact trivial
      | error e => exact once_of_only (hg e)
  | call cmd next ih =>
      rcases hp with ⟨hcmd, hnext⟩ | ⟨hcmd, hnext⟩
      · exact .inl ⟨hcmd, fun answer => only_handle (hnext answer) hg⟩
      · exact .inr ⟨hcmd, fun answer => ih answer (hnext answer)⟩

/-- On its way, a routine performs and reaches none but its own commands. -/
theorem Only.of_path (h : Only P p) (hpath : Path p ex q) :
    (∀ x ∈ ex, P x.cmd) ∧ Only P q := by
  induction hpath with
  | refl p => exact ⟨fun x hx => absurd hx List.not_mem_nil, h⟩
  | call cmd next answer ex q _ ih =>
      obtain ⟨hrest, hq⟩ := ih (h.2 answer)
      refine ⟨fun x hx => ?_, hq⟩
      rcases List.mem_cons.mp hx with rfl | hx
      · exact h.1
      · exact hrest x hx

/-- A command of `P` that is reached has none of `P` before it. -/
theorem Once.of_reaches (h : Once P p) (hreach : Reaches p ex cmd) (hcmd : P cmd) :
    ∀ x ∈ ex, ¬ P x.cmd := by
  obtain ⟨next, hpath⟩ := hreach
  generalize hq : Program.call cmd next = q at hpath
  induction hpath with
  | refl p => exact fun x hx => absurd hx List.not_mem_nil
  | call cmd' next' answer ex q hrest ih =>
      subst hq
      rcases h with ⟨-, hnone⟩ | ⟨hcmd', hnext⟩
      · exact absurd hcmd ((hnone answer).of_path hrest).2.1
      · intro x hx
        rcases List.mem_cons.mp hx with rfl | hx
        · exact hcmd'
        · exact ih (hnext answer) rfl x hx

theorem Only.of_mem {x : Exchange Cmd Resp Err} (h : Only P p) (hends : Ends p ex r) (hx : x ∈ ex) :
    P x.cmd :=
  (h.of_path hends).1 x hx

theorem Only.of_reaches (h : Only P p) (hreach : Reaches p ex cmd) : P cmd := by
  obtain ⟨next, hpath⟩ := hreach
  exact (h.of_path hpath).2.1

/-- A command that the first part does not perform is reached after it. -/
theorem reaches_bind_of_only (hp : Only P p) (hcmd : ¬ P cmd)
    (h : Reaches (p >>= f) ex cmd) :
    ∃ a ex₁ ex₂, ex = ex₁ ++ ex₂ ∧ Ends p ex₁ (.ok a) ∧ Reaches (f a) ex₂ cmd :=
  (reaches_bind_iff.mp h).resolve_left fun hreach => hcmd (hp.of_reaches hreach)

/-- A routine whose commands leave the state alone runs on answers of that one
state. -/
theorem Alone.fixed {State Choice : Type}
    {exec : Choice → (cmd : Cmd) → State → Option (Except Err (Resp cmd) × State)} {s s' : State}
    (h : Alone exec p s r s') (honly : Only P p)
    (hfix : ∀ cmd, P cmd → ∀ choice a t, exec choice cmd s = some (a, t) → t = s) :
    s' = s ∧ ∃ ex, Ends p ex r ∧ ∀ x ∈ ex, ∃ choice, exec choice x.cmd s = some (x.answer, s) := by
  induction h with
  | done r s => exact ⟨rfl, [], .refl _, fun x hx => absurd hx List.not_mem_nil⟩
  | call cmd next choice answer s t u r hexec _ ih =>
      obtain rfl := hfix cmd honly.1 choice answer t hexec
      obtain ⟨hu, ex, hends, hex⟩ := ih (honly.2 answer) hfix
      refine ⟨hu, ⟨cmd, answer⟩ :: ex, .call cmd next answer ex _ hends, ?_⟩
      intro x hx
      rcases List.mem_cons.mp hx with rfl | hx
      · exact ⟨choice, hexec⟩
      · exact hex x hx

/-- Reads whose commands are all answered are gathered. -/
theorem exists_ok_of_ends_readAll {r : Except Err ρ}
    (hreads : ∀ i, ∃ cmd enter, reads i = read cmd enter)
    (h : Ends (readAll order start reads) ex r) (hok : ∀ x ∈ ex, ∃ a, x.answer = .ok a) :
    ∃ record, r = .ok record := by
  unfold readAll at h
  generalize List.finRange n = is at h
  induction is generalizing start ex with
  | nil =>
      obtain ⟨-, hr⟩ := ends_pure_iff.mp h
      exact ⟨start, hr⟩
  | cons i is ih =>
      obtain ⟨cmd, enter, hread⟩ := hreads (order i)
      simp only [List.map_cons, gather, hread, read] at h
      unfold Ends at h
      change Path (Program.call cmd _) ex _ at h
      rcases path_call_iff.mp h with ⟨-, hdone⟩ | ⟨answer, ex', rfl, hrest⟩
      · cases hdone
      · have hrest' : ∀ x ∈ ex', ∃ a, x.answer = .ok a := fun x hx =>
          hok x (List.mem_cons_of_mem _ hx)
        have hfirst : ∃ a, answer = .ok a := hok _ List.mem_cons_self
        obtain ⟨a, rfl⟩ := hfirst
        exact ih hrest' hrest

end Only

end Program

section Runs

variable {State Cmd : Type} {Resp : Cmd → Type} {Err Call Ret Choice Env : Type}

def Event.exchange? : Event Cmd Resp Err Call Ret Env → Option (Exchange Cmd Resp Err)
  | .performed _ cmd resp => some ⟨cmd, resp⟩
  | _ => none

def exchangesOf (pid : ℕ) (past : List (Event Cmd Resp Err Call Ret Env)) :
    List (Exchange Cmd Resp Err) :=
  ((eventsOf pid past).filterMap Event.exchange?).reverse

variable {sys : System State Cmd Resp Err Call Ret Choice Env}
  {cond : Moment State Cmd Resp Err Call Ret Env → Attempt Cmd Call Env → Prop} {state : State}
  {c : Config State Cmd Resp Err Call Ret Env} {past : List (Event Cmd Resp Err Call Ret Env)}
  {pid : ℕ} {e : Event Cmd Resp Err Call Ret Env}
  {recent older : List (Event Cmd Resp Err Call Ret Env)} {cmd : Cmd} {resp : Except Err (Resp cmd)}

theorem mem_exchangesOf {x : Exchange Cmd Resp Err} :
    x ∈ exchangesOf pid past ↔ .performed pid x.cmd x.answer ∈ past := by
  simp only [exchangesOf, List.mem_reverse, List.mem_filterMap, eventsOf, List.mem_filter,
    decide_eq_true_eq]
  constructor
  · rintro ⟨e, ⟨he, hpid⟩, hx⟩
    cases e with
    | performed q cmd resp =>
        obtain rfl := Option.some.inj hpid
        obtain rfl := Option.some.inj hx
        exact he
    | spawned => cases hx
    | finished => cases hx
    | crashed => cases hx
    | changed => cases hx
  · intro h
    exact ⟨_, ⟨h, rfl⟩, rfl⟩

section

variable (hrun : Run sys cond state c) (hpast : c.now.past = recent ++ e :: older)

include hrun hpast

/-- What was recorded when: the step that recorded an event, between the run up to
it and the steps since. -/
theorem Run.split :
    ∃ c₀ c₁, Run sys cond state c₀ ∧ Step sys cond c₀ c₁ ∧
      Relation.ReflTransGen (Step sys cond) c₁ c ∧
      c₀.now.past = older ∧ c₁.now.past = e :: older := by
  induction hrun generalizing recent with
  | refl => simp [Config.initial] at hpast
  | @tail d d' hd hstep ih =>
      obtain ⟨e', he'⟩ := hstep.past
      rw [he'] at hpast
      match recent with
      | [] =>
          obtain ⟨rfl, hd_past⟩ := List.cons.inj hpast
          exact ⟨d, d', hd, hstep, .refl, hd_past, by rw [he', hd_past]⟩
      | e'' :: recent =>
          obtain ⟨-, hd_past⟩ := List.cons.inj hpast
          obtain ⟨c₀, c₁, hc₀, hc₁, hsince, hpast₀, hpast₁⟩ := ih hd_past
          exact ⟨c₀, c₁, hc₀, hc₁, hsince.tail hstep, hpast₀, hpast₁⟩

/-- What every step keeps unless it records an event of some kind, is since an event
what it was right after it, unless such an event was recorded since. -/
theorem Run.kept_since {α : Type} {f : State → α} {P : Event Cmd Resp Err Call Ret Env → Prop}
    (hkeep : ∀ d d' e', Run sys cond state d → Step sys cond d d' → d'.now.past = e' :: d.now.past
      → ¬ P e' → f d'.now.state = f d.now.state) (hrecent : ∀ e' ∈ recent, ¬ P e') :
    ∃ c₀ c₁, Run sys cond state c₀ ∧ Step sys cond c₀ c₁ ∧ c₀.now.past = older ∧
      c₁.now.past = e :: older ∧ f c.now.state = f c₁.now.state := by
  obtain ⟨c₀, c₁, hrun₀, hstep, hsince, hpast₀, hpast₁⟩ := hrun.split hpast
  refine ⟨c₀, c₁, hrun₀, hstep, hpast₀, hpast₁, ?_⟩
  have hkept : ∃ since, c.now.past = since ++ c₁.now.past ∧
      ((∀ e' ∈ since, ¬ P e') → f c.now.state = f c₁.now.state) := by
    clear hpast
    induction hsince with
    | refl => exact ⟨[], rfl, fun _ => rfl⟩
    | @tail d d' hd hstep' ih =>
        obtain ⟨since, hsince, hsame⟩ := ih ((hrun₀.tail hstep).trans hd)
        obtain ⟨e', he'⟩ := hstep'.past
        refine ⟨e' :: since, by rw [he', hsince, List.cons_append], fun hnone => ?_⟩
        have hstay := hkeep d d' e' ((hrun₀.tail hstep).trans hd) hstep' he'
          (hnone e' List.mem_cons_self)
        exact hstay.trans (hsame fun e'' he'' => hnone e'' (List.mem_cons_of_mem _ he''))
  obtain ⟨since, hsince', hsame⟩ := hkept
  have hrecent' : since = recent := by
    rw [hpast, hpast₁] at hsince'
    exact (List.append_cancel_right hsince').symm
  rw [hrecent'] at hsame
  exact hsame hrecent

end

/-- A step that records a command was the performance of that command. -/
theorem Step.exec_of_performed {c c' : Config State Cmd Resp Err Call Ret Env}
    (hstep : Step sys cond c c') (hpast : c'.now.past = .performed pid cmd resp :: c.now.past) :
    cond c.now (.perform pid cmd) ∧
      (∃ next, c.procs pid = some (.call cmd next)) ∧
      ∃ choice, sys.exec choice cmd c.now.state = some (resp, c'.now.state) := by
  cases hstep with
  | spawn => cases (List.cons.inj hpast).1
  | perform pid' cmd' next choice resp' state hproc hcond hexec =>
      have hevent := (List.cons.inj hpast).1
      injection hevent with hpid hcmd hresp
      subst hpid
      subst hcmd
      obtain rfl := eq_of_heq hresp
      exact ⟨hcond, ⟨next, hproc⟩, choice, hexec⟩
  | finish => cases (List.cons.inj hpast).1
  | crash => cases (List.cons.inj hpast).1
  | change => cases (List.cons.inj hpast).1

theorem exchangesOf_push_of_ne (hne : e.pid? ≠ some pid) :
    exchangesOf pid (e :: past) = exchangesOf pid past := by
  simp [exchangesOf, eventsOf, hne]

theorem exchangesOf_push_performed :
    exchangesOf pid (.performed pid cmd resp :: past) =
      exchangesOf pid past ++ [⟨cmd, resp⟩] := by
  simp [exchangesOf, eventsOf, Event.pid?, Event.exchange?]

def Event.isEnd : Event Cmd Resp Err Call Ret Env → Bool
  | .finished _ _ => true
  | .crashed _ => true
  | _ => false

/-- Where the processes of a run stand: a process number that has not been given
out has done nothing, and a process that runs has followed its routine and has not
ended. -/
structure Config.Tracked (sys : System State Cmd Resp Err Call Ret Choice Env)
    (c : Config State Cmd Resp Err Call Ret Env) : Prop where
  fresh : ∀ pid, c.next ≤ pid → c.procs pid = none ∧ eventsOf pid c.now.past = []
  path : ∀ pid q, c.procs pid = some q → ∃ call, .spawned pid call ∈ c.now.past ∧
    Program.Path (sys.program call) (exchangesOf pid c.now.past) q
  running : ∀ pid q, c.procs pid = some q →
    ∀ e ∈ eventsOf pid c.now.past, e.isEnd = false

/-- A step that concerns one process leaves the others where they stand. -/
theorem Config.Tracked.record {c : Config State Cmd Resp Err Call Ret Env} (h : c.Tracked sys)
    {pid' next' : ℕ} {state : State} {p' : Option (Program Cmd Resp Err Ret)}
    (hpid' : e.pid? = some pid') (hnext : c.next ≤ next') (hlt : pid' < next')
    (hnew : ∀ q, p' = some q → ∃ call, .spawned pid' call ∈ e :: c.now.past ∧ Program.Path
      (sys.program call) (exchangesOf pid' (e :: c.now.past)) q)
    (hrunning : ∀ q, p' = some q → ∀ e' ∈ eventsOf pid' (e :: c.now.past), e'.isEnd = false) :
    Config.Tracked sys
      { now := c.now.push e state, procs := setProc c.procs pid' p', next := next' } := by
  constructor
  · intro pid hpid
    change next' ≤ pid at hpid
    have hne : pid ≠ pid' := by omega
    have hfresh := h.fresh pid (by omega)
    change setProc c.procs pid' p' pid = none ∧ eventsOf pid (e :: c.now.past) = []
    rw [setProc_of_ne hne, eventsOf_cons_of_ne (by simp [hpid', hne.symm])]
    exact hfresh
  · intro pid q hproc
    change setProc c.procs pid' p' pid = some q at hproc
    change ∃ call, _ ∈ e :: c.now.past ∧ Program.Path _ (exchangesOf pid (e :: c.now.past)) q
    by_cases hpid : pid = pid'
    · subst hpid
      rw [setProc_self] at hproc
      exact hnew q hproc
    · rw [setProc_of_ne hpid] at hproc
      obtain ⟨call, hcall, hpath⟩ := h.path pid q hproc
      rw [exchangesOf_push_of_ne (by simp [hpid', Ne.symm hpid])]
      exact ⟨call, List.mem_cons_of_mem _ hcall, hpath⟩
  · intro pid q hproc
    change setProc c.procs pid' p' pid = some q at hproc
    change ∀ e' ∈ eventsOf pid (e :: c.now.past), _
    by_cases hpid : pid = pid'
    · subst hpid
      rw [setProc_self] at hproc
      exact hrunning q hproc
    · rw [setProc_of_ne hpid] at hproc
      rw [eventsOf_cons_of_ne (by simp [hpid', Ne.symm hpid])]
      exact h.running pid q hproc

theorem Config.Tracked.lt_next {c : Config State Cmd Resp Err Call Ret Env}
    (h : c.Tracked sys) {q : Program Cmd Resp Err Ret} (hproc : c.procs pid = some q) :
    pid < c.next := by
  by_contra hge
  have hnone := (h.fresh pid (by omega)).1
  rw [hproc] at hnone
  cases hnone

theorem Config.Tracked.step {c c' : Config State Cmd Resp Err Call Ret Env}
    (h : c.Tracked sys) (hstep : Step sys cond c c') : c'.Tracked sys := by
  cases hstep with
  | spawn call =>
      have hempty := (h.fresh c.next (Nat.le_refl _)).2
      refine h.record rfl (by omega) (by omega) (fun q hq => ?_) fun q hq => ?_
      · obtain rfl := Option.some.inj hq
        refine ⟨call, List.mem_cons_self, ?_⟩
        have hnone : exchangesOf c.next (.spawned c.next call :: c.now.past) = [] := by
          rw [exchangesOf, eventsOf_cons_self rfl, hempty]
          rfl
        rw [hnone]
        exact .refl _
      · intro e' he'
        rcases List.mem_cons.mp (mem_eventsOf.mp he').1 with rfl | hold
        · rfl
        · have hmem := mem_eventsOf.mpr ⟨hold, (mem_eventsOf.mp he').2⟩
          rw [hempty] at hmem
          exact absurd hmem List.not_mem_nil
  | perform pid' cmd next choice resp state hproc =>
      refine h.record rfl (Nat.le_refl _) (h.lt_next hproc) (fun q hq => ?_) fun q hq => ?_
      · obtain rfl := Option.some.inj hq
        obtain ⟨call, hcall, hpath⟩ := h.path pid' _ hproc
        rw [exchangesOf_push_performed]
        exact ⟨call, List.mem_cons_of_mem _ hcall, hpath.snoc resp⟩
      · intro e' he'
        rcases List.mem_cons.mp (mem_eventsOf.mp he').1 with rfl | hold
        · rfl
        · exact h.running pid' _ hproc e' (mem_eventsOf.mpr ⟨hold, (mem_eventsOf.mp he').2⟩)
  | finish pid' result hproc =>
      refine h.record rfl (Nat.le_refl _) (h.lt_next hproc) (fun q hq => ?_) fun q hq => ?_
      · cases hq
      · cases hq
  | crash pid' p hproc =>
      refine h.record rfl (Nat.le_refl _) (h.lt_next hproc) (fun q hq => ?_) fun q hq => ?_
      · cases hq
      · cases hq
  | change env state =>
      constructor
      · intro pid hpid
        have hfresh := h.fresh pid hpid
        change c.procs pid = none ∧ eventsOf pid (.changed env :: c.now.past) = []
        rw [eventsOf_cons_of_ne (by simp [Event.pid?])]
        exact hfresh
      · intro pid q hproc
        obtain ⟨call, hcall, hpath⟩ := h.path pid q hproc
        change ∃ call, _ ∈ Event.changed env :: c.now.past ∧
          Program.Path _ (exchangesOf pid (.changed env :: c.now.past)) q
        rw [exchangesOf_push_of_ne (by simp [Event.pid?])]
        exact ⟨call, List.mem_cons_of_mem _ hcall, hpath⟩
      · intro pid q hproc
        change ∀ e' ∈ eventsOf pid (.changed env :: c.now.past), _
        rw [eventsOf_cons_of_ne (by simp [Event.pid?])]
        exact h.running pid q hproc

theorem tracked_of_run (hrun : Run sys cond state c) : c.Tracked sys := by
  induction hrun with
  | refl =>
      constructor
      · intro pid _
        exact ⟨rfl, rfl⟩
      · intro pid q hproc
        cases hproc
      · intro pid q hproc
        cases hproc
  | tail _ hstep ih => exact ih.step hstep

variable {c' : Config State Cmd Resp Err Call Ret Env} {call : Call} {result : Except Err Ret}

/-- What a spawned process is numbered has no events yet. -/
theorem not_mem_of_spawn (hrun : Run sys cond state c) (hstep : Step sys cond c c')
    (hpast : c'.now.past = .spawned pid call :: c.now.past) (hpid : e.pid? = some pid) :
    e ∉ c.now.past := by
  intro hmem
  have hfresh : pid = c.next := by
    cases hstep with
    | spawn call' =>
        have hevent := (List.cons.inj hpast).1
        injection hevent with hnext
        exact hnext.symm
    | perform => cases (List.cons.inj hpast).1
    | finish => cases (List.cons.inj hpast).1
    | crash => cases (List.cons.inj hpast).1
    | change => cases (List.cons.inj hpast).1
  have hempty := ((tracked_of_run hrun).fresh pid (by omega)).2
  have hevent := mem_eventsOf.mpr ⟨hmem, hpid⟩
  rw [hempty] at hevent
  exact absurd hevent List.not_mem_nil

theorem spawned_unique_of_run {call call' : Call} (hrun : Run sys cond state c)
    (h : .spawned pid call ∈ c.now.past) (h' : .spawned pid call' ∈ c.now.past) :
    call = call' := by
  induction hrun with
  | refl => exact absurd h List.not_mem_nil
  | @tail d e hprefix hstep ih =>
      obtain ⟨event, hpast⟩ := hstep.past
      rw [hpast] at h h'
      rcases List.mem_cons.mp h with heq | hold
      · rcases List.mem_cons.mp h' with heq' | hold'
        · have hsame := heq.trans heq'.symm
          injection hsame
        · exact absurd hold' (not_mem_of_spawn hprefix hstep (hpast.trans (by rw [← heq])) rfl)
      · rcases List.mem_cons.mp h' with heq' | hold'
        · exact absurd hold (not_mem_of_spawn hprefix hstep (hpast.trans (by rw [← heq'])) rfl)
        · exact ih hold hold'

/-- What a process has performed, it has performed since it was spawned. -/
theorem performed_since_spawn {b b' : Config State Cmd Resp Err Call Ret Env}
    (hrun : Run sys cond state b) (hstep : Step sys cond b b')
    (hspawned : b'.now.past = .spawned pid call :: b.now.past)
    (hsteps : Relation.ReflTransGen (Step sys cond) b' c)
    (hmem : .performed pid cmd resp ∈ c.now.past) :
    ∃ c₀ c₁ choice, Relation.ReflTransGen (Step sys cond) b' c₀ ∧ cond c₀.now (.perform pid cmd) ∧
      sys.exec choice cmd c₀.now.state = some (resp, c₁.now.state) ∧
      Relation.ReflTransGen (Step sys cond) c₁ c := by
  induction hsteps with
  | refl =>
      rw [hspawned] at hmem
      have hold := (List.mem_cons.mp hmem).resolve_left nofun
      exact absurd hold (not_mem_of_spawn hrun hstep hspawned rfl)
  | @tail d d' hsince hlast ih =>
      obtain ⟨e, he⟩ := hlast.past
      rw [he] at hmem
      rcases List.mem_cons.mp hmem with heq | hold
      · rw [← heq] at he
        obtain ⟨hcond, -, choice, hexec⟩ := hlast.exec_of_performed he
        exact ⟨d, d', choice, hsince, hcond, hexec, .refl⟩
      · obtain ⟨c₀, c₁, choice, hbefore, hcond, hexec, hafter⟩ := ih hold
        exact ⟨c₀, c₁, choice, hbefore, hcond, hexec, hafter.tail hlast⟩

section

variable (hrun : Run sys cond state c)

include hrun

/-- A command of a run was reached by the routine of the process that performed
it, on what that process had done before. -/
theorem reaches_of_run (hpast : c.now.past = recent ++ .performed pid cmd resp :: older) :
    ∃ call, .spawned pid call ∈ older ∧
      Program.Reaches (sys.program call) (exchangesOf pid older) cmd := by
  obtain ⟨c₀, c₁, hrun₀, hstep, -, hpast₀, hpast₁⟩ := hrun.split hpast
  rw [← hpast₀] at hpast₁
  obtain ⟨-, ⟨next, hproc⟩, -⟩ := hstep.exec_of_performed hpast₁
  obtain ⟨call, hcall, hpath⟩ := (tracked_of_run hrun₀).path pid _ hproc
  rw [hpast₀] at hcall hpath
  exact ⟨call, hcall, next, hpath⟩

/-- What a process has returned is what its routine ends in, on what it had done. -/
theorem ends_of_run (hpast : c.now.past = recent ++ .finished pid result :: older) :
    ∃ call, .spawned pid call ∈ older ∧
      Program.Ends (sys.program call) (exchangesOf pid older) result := by
  obtain ⟨c₀, c₁, hrun₀, hstep, -, hpast₀, hpast₁⟩ := hrun.split hpast
  rw [← hpast₀] at hpast₁
  cases hstep with
  | spawn => cases (List.cons.inj hpast₁).1
  | perform => cases (List.cons.inj hpast₁).1
  | finish pid' result' hproc =>
      have hevent := (List.cons.inj hpast₁).1
      injection hevent with hpid hresult
      subst hpid
      subst hresult
      obtain ⟨call, hcall, hpath⟩ := (tracked_of_run hrun₀).path _ _ hproc
      rw [hpast₀] at hcall hpath
      exact ⟨call, hcall, hpath⟩
  | crash => cases (List.cons.inj hpast₁).1
  | change => cases (List.cons.inj hpast₁).1

/-- What a process has returned, it has returned on what it has performed. -/
theorem ends_of_finished (hspawned : .spawned pid call ∈ c.now.past)
    (hfinished : .finished pid result ∈ c.now.past) :
    ∃ ex, Program.Ends (sys.program call) ex result ∧
      ∀ x ∈ ex, .performed pid x.cmd x.answer ∈ c.now.past := by
  obtain ⟨recent, older, hpast⟩ := List.append_of_mem hfinished
  obtain ⟨call', hcall, hends⟩ := ends_of_run hrun hpast
  have holder : ∀ e ∈ older, e ∈ c.now.past := by
    intro e he
    rw [hpast]
    exact List.mem_append_right _ (List.mem_cons_of_mem _ he)
  obtain rfl := spawned_unique_of_run hrun hspawned (holder _ hcall)
  exact ⟨exchangesOf pid older, hends, fun x hx => holder _ (mem_exchangesOf.mp hx)⟩

theorem cond_of_spawned (h : .spawned pid call ∈ c.now.past) : ∃ m, cond m (.spawn pid call) := by
  obtain ⟨recent, older, hpast⟩ := List.append_of_mem h
  obtain ⟨c₀, c₁, -, hstep, -, hpast₀, hpast₁⟩ := hrun.split hpast
  rw [← hpast₀] at hpast₁
  cases hstep with
  | spawn call' hcond =>
      have hevent := (List.cons.inj hpast₁).1
      injection hevent with hpid hcall
      subst hpid
      subst hcall
      exact ⟨_, hcond⟩
  | perform => cases (List.cons.inj hpast₁).1
  | finish => cases (List.cons.inj hpast₁).1
  | crash => cases (List.cons.inj hpast₁).1
  | change => cases (List.cons.inj hpast₁).1

end

theorem mem_past_of_steps (hsteps : Relation.ReflTransGen (Step sys cond) c c')
    (h : e ∈ c.now.past) : e ∈ c'.now.past := by
  induction hsteps with
  | refl => exact h
  | tail _ hstep ih =>
      obtain ⟨e', hpast⟩ := hstep.past
      rw [hpast]
      exact List.mem_cons_of_mem _ ih

end Runs

end Interleave
