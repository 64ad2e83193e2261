import Mathlib.Data.List.Destutter
import DevHarness.Interleave.System

/-!
# Trails

The values that an observation of the configurations takes along a run, with
immediate repetitions left out.  When every step either keeps the observed
value or moves it along a relation, the trail is a path of that relation, and a
path of a relation that branches nowhere is a prefix of one list.
-/

namespace Interleave

section Paths

variable {β : Type} {R : β → β → Prop} {a b : β} {l : List β}

/-- Without its repetitions, a list that stutters along `R` is a path of `R`. -/
theorem exists_destutter'_of_stutter [DecidableEq β]
    (hchain : List.IsChain (fun a b => a = b ∨ R a b) (a :: l)) :
    ∃ t, l.destutter' (· ≠ ·) a = a :: t ∧ List.IsChain R (a :: t) := by
  induction l generalizing a with
  | nil => exact ⟨[], rfl, List.isChain_singleton a⟩
  | cons b l ih =>
      rw [List.isChain_cons_cons] at hchain
      obtain ⟨t, ht, hpath⟩ := ih hchain.2
      by_cases hab : a = b
      · subst hab
        refine ⟨t, ?_, hpath⟩
        rw [List.destutter'_cons_neg _ (by simp), ht]
      · refine ⟨b :: t, ?_, ?_⟩
        · rw [List.destutter'_cons_pos _ hab, ht]
        · rw [List.isChain_cons_cons]
          exact ⟨hchain.1.resolve_left hab, hpath⟩

/-- Where `R` leads from `a` only to `b`, the paths from `a` go on as those
from `b`. -/
theorem cons_prefix_of_isChain {l p : List β} (hnext : ∀ c, R a c → c = b)
    (hrest : ∀ l, List.IsChain R (b :: l) → b :: l <+: p)
    (hchain : List.IsChain R (a :: l)) : a :: l <+: a :: p := by
  cases l with
  | nil => exact ⟨p, rfl⟩
  | cons c l =>
      rw [List.isChain_cons_cons] at hchain
      obtain rfl := hnext c hchain.1
      exact (List.prefix_cons_inj a).mpr (hrest l hchain.2)

/-- Where `R` leads nowhere from `a`, a path from `a` ends at once. -/
theorem eq_nil_of_isChain (hnext : ∀ c, ¬ R a c) (hchain : List.IsChain R (a :: l)) : l = [] := by
  cases l with
  | nil => rfl
  | cons c l => exact absurd (List.isChain_cons_cons.mp hchain).1 (hnext c)

end Paths

variable {State Cmd : Type} {Resp : Cmd → Type} {Err Call Ret Choice Env : Type}

/-- The values of `f` along a list of configurations, without immediate
repetitions. -/
def trail {β : Type} [DecidableEq β] (f : Config State Cmd Resp Err Call Ret Env → β)
    (configs : List (Config State Cmd Resp Err Call Ret Env)) : List β :=
  (configs.map f).destutter (· ≠ ·)

/-- The trail of a run is a path of `R` when each of its steps stutters or
moves along `R`. -/
theorem trail_isChain {β : Type} [DecidableEq β] {R : β → β → Prop}
    {sys : System State Cmd Resp Err Call Ret Choice Env}
    {cond : Moment State Cmd Resp Err Call Ret Env → Attempt Cmd Call Env → Prop}
    {f : Config State Cmd Resp Err Call Ret Env → β}
    {c : Config State Cmd Resp Err Call Ret Env}
    {configs : List (Config State Cmd Resp Err Call Ret Env)}
    (hchain : List.IsChain (Step sys cond) (c :: configs))
    (hmove : ∀ d d', Relation.ReflTransGen (Step sys cond) c d → Step sys cond d d' →
      f d = f d' ∨ R (f d) (f d')) :
    ∃ t, trail f (c :: configs) = f c :: t ∧ List.IsChain R (f c :: t) := by
  have hstutter : List.IsChain (fun a b => a = b ∨ R a b) ((c :: configs).map f) := by
    rw [List.isChain_map]
    induction configs generalizing c with
    | nil => exact List.isChain_singleton c
    | cons b configs ih =>
        rw [List.isChain_cons_cons] at hchain ⊢
        refine ⟨hmove c b .refl hchain.1, ih hchain.2 ?_⟩
        intro d d' hrun hstep
        exact hmove d d' (.head hchain.1 hrun) hstep
  exact exists_destutter'_of_stutter hstutter

end Interleave
