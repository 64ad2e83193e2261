import DevHarness.Sequence.Acyclic
import Mathlib.Data.List.Chain
import Mathlib.Data.List.Nodup

/-!
# The search for a cycle

A depth-first search keeps the keys that it is visiting on a stack and lists the others as done.
It ends with a cycle, or with a list in which each key only leads to keys that were done before it.
-/

namespace DevHarness.Sequence

open Relation

variable {α : Type}

section Cycles

variable {r : α → α → Prop} {a b : α} {done cycle : List α}

/-- The list leads from a key back to it. -/
def IsCycle (r : α → α → Prop) (cycle : List α) : Prop :=
  ∃ first path, cycle = first :: path ++ [first] ∧ cycle.IsChain r

theorem transGen_of_isChain {path : List α} (h : (a :: path ++ [b]).IsChain r) :
    TransGen r a b := by
  induction path generalizing a with
  | nil =>
      rw [List.singleton_append, List.isChain_cons_cons] at h
      exact TransGen.single h.1
  | cons next path ih =>
      rw [List.cons_append, List.cons_append, List.isChain_cons_cons] at h
      exact TransGen.head h.1 (ih h.2)

theorem IsCycle.not_acyclic (h : IsCycle r cycle) : ¬ Acyclic r := by
  obtain ⟨first, path, rfl, hchain⟩ := h
  intro hacyclic
  exact hacyclic first (transGen_of_isChain hchain)

theorem IsCycle.ne_nil (h : IsCycle r cycle) : cycle ≠ [] := by
  obtain ⟨first, path, rfl, -⟩ := h
  exact List.cons_ne_nil _ _

theorem IsCycle.mono {r' : α → α → Prop} (h : IsCycle r cycle) (himp : ∀ a b, r a b → r' a b) :
    IsCycle r' cycle := by
  obtain ⟨first, path, hcycle, hchain⟩ := h
  exact ⟨first, path, hcycle, hchain.imp himp⟩

/-- Each key leads only to keys that stand behind it. -/
def Finished (r : α → α → Prop) : List α → Prop
  | [] => True
  | key :: done => (∀ next, r key next → next ∈ done) ∧ Finished r done

section

variable (h : Finished r done) (ha : a ∈ done)

include h ha

theorem Finished.mem_of_step (hstep : r a b) : b ∈ done := by
  induction done with
  | nil => cases ha
  | cons key done ih =>
      rcases List.mem_cons.mp ha with rfl | ha
      · exact List.mem_cons_of_mem _ (h.1 b hstep)
      · exact List.mem_cons_of_mem _ (ih h.2 ha)

theorem Finished.mem_of_transGen (hpath : TransGen r a b) : b ∈ done := by
  induction hpath with
  | single hstep => exact h.mem_of_step ha hstep
  | tail _ hstep ih => exact h.mem_of_step ih hstep

theorem Finished.not_transGen : ¬ TransGen r a a := by
  induction done with
  | nil => cases ha
  | cons key done ih =>
      by_cases hdone : a ∈ done
      · exact ih h.2 hdone
      · obtain rfl : a = key := by
          rcases List.mem_cons.mp ha with hkey | hdone'
          · exact hkey
          · exact absurd hdone' hdone
        intro hcycle
        obtain ⟨next, hstep, hback⟩ := TransGen.head'_iff.mp hcycle
        have hnext : next ∈ done := h.1 next hstep
        rcases reflTransGen_iff_eq_or_transGen.mp hback with rfl | hback
        · exact hdone hnext
        · exact hdone (h.2.mem_of_transGen hnext hback)

end

end Cycles

section Search

variable [BEq α] [LawfulBEq α] (known : α → Bool) (next : α → List α)

/-- What `key` leads to is visited in order, as far as it is known, neither visited nor done. -/
def search : ℕ → α → List α → List α → Except (List α) (List α)
  | 0, _, _, done => .ok done
  | fuel + 1, key, stack, done => do
    let stack := stack ++ [key]
    let done ← (next key).foldlM
      (fun done dependency =>
        if ¬ known dependency then .ok done
        else if dependency ∈ stack then
          .error (stack.drop (stack.idxOf dependency) ++ [dependency])
        else if dependency ∈ done then .ok done
        else search fuel dependency stack done)
      done
    pure (key :: done)

def searchAll (fuel : ℕ) (keys : List α) : Except (List α) (List α) :=
  keys.foldlM
    (fun done key => if key ∈ done then .ok done else search known next fuel key [] done) []

def Leads (a b : α) : Prop :=
  b ∈ next a ∧ known b = true

/-- What is asked of a search for `keys`. -/
def Outcome (keys done : List α) : Except (List α) (List α) → Prop
  | .ok done' => Finished (Leads known next) done' ∧ done ⊆ done' ∧
      ∀ key ∈ keys, known key = true → key ∈ done'
  | .error cycle => IsCycle (Leads known next) cycle

variable {known next}
variable {keys stack done : List α} {key : α} {order : List α} {fuel : ℕ}

omit [BEq α] [LawfulBEq α] in
theorem outcome_foldlM {visit : List α → α → Except (List α) (List α)}
    (hvisit : ∀ key ∈ keys, ∀ done, Finished (Leads known next) done →
      Outcome known next [key] done (visit done key))
    (hdone : Finished (Leads known next) done) :
    Outcome known next keys done (keys.foldlM visit done) := by
  induction keys generalizing done with
  | nil => exact ⟨hdone, List.Subset.refl _, nofun⟩
  | cons key keys ih =>
      have hfirst := hvisit key List.mem_cons_self done hdone
      rw [List.foldlM_cons]
      cases hresult : visit done key with
      | error cycle =>
          rw [hresult] at hfirst
          exact hfirst
      | ok done' =>
          rw [hresult] at hfirst
          obtain ⟨hdone', hsubset, hkey⟩ := hfirst
          have hrest := ih (fun other hother => hvisit other (List.mem_cons_of_mem _ hother)) hdone'
          change Outcome known next (key :: keys) done (keys.foldlM visit done')
          cases hlast : keys.foldlM visit done' with
          | error cycle =>
              rw [hlast] at hrest
              exact hrest
          | ok last =>
              rw [hlast] at hrest
              obtain ⟨hfinished, hsubset', hkeys⟩ := hrest
              refine ⟨hfinished, List.Subset.trans hsubset hsubset', ?_⟩
              intro other hother hknown
              rcases List.mem_cons.mp hother with rfl | hother
              · exact hsubset' (hkey _ List.mem_cons_self hknown)
              · exact hkeys other hother hknown

theorem isCycle_drop {dependency : α} (hchain : (stack ++ [key]).IsChain (Leads known next))
    (hleads : Leads known next key dependency) (hstack : dependency ∈ stack ++ [key]) :
    IsCycle (Leads known next)
      ((stack ++ [key]).drop ((stack ++ [key]).idxOf dependency) ++ [dependency]) := by
  have hlt := List.idxOf_lt_length_of_mem hstack
  have hclosed : (stack ++ [key] ++ [dependency]).IsChain (Leads known next) := by
    rw [List.append_assoc, List.singleton_append, List.isChain_append_cons_cons]
    exact ⟨hchain, hleads, List.isChain_singleton _⟩
  refine ⟨dependency, (stack ++ [key]).drop ((stack ++ [key]).idxOf dependency + 1), ?_, ?_⟩
  · rw [List.drop_eq_getElem_cons hlt, List.getElem_idxOf]
  · rw [← List.drop_append_of_le_length hlt.le]
    exact hclosed.drop _

omit [BEq α] [LawfulBEq α] in
theorem outcome_skip (hdone : Finished (Leads known next) done)
    (hkey : known key = true → key ∈ done) : Outcome known next [key] done (.ok done) := by
  refine ⟨hdone, List.Subset.refl _, ?_⟩
  intro other hother hknown
  obtain rfl := List.mem_singleton.mp hother
  exact hkey hknown

omit [BEq α] [LawfulBEq α] in
theorem outcome_finish {result : Except (List α) (List α)}
    (h : Outcome known next (next key) done result) :
    Outcome known next [key] done (do let done ← result; pure (key :: done)) := by
  cases result with
  | error cycle => exact h
  | ok done' =>
      obtain ⟨hfinished, hsubset, hall⟩ := h
      refine ⟨⟨fun other hleads => hall other hleads.1 hleads.2, hfinished⟩, ?_, ?_⟩
      · exact List.Subset.trans hsubset (List.subset_cons_self _ _)
      · intro other hother _
        rw [List.mem_singleton.mp hother]
        exact List.mem_cons_self

/-- The stack holds different keys, so that the fuel lasts. -/
theorem outcome_search (hknown : ∀ key, known key = true → key ∈ keys) (fuel : ℕ)
    (hfuel : keys.length ≤ fuel + stack.length) (hnodup : (stack ++ [key]).Nodup)
    (hkeys : stack ++ [key] ⊆ keys) (hchain : (stack ++ [key]).IsChain (Leads known next))
    (hdone : Finished (Leads known next) done) :
    Outcome known next [key] done (search known next fuel key stack done) := by
  induction fuel generalizing key stack done with
  | zero =>
      have hlength := hnodup.length_le_of_subset hkeys
      rw [List.length_append, List.length_singleton] at hlength
      omega
  | succ fuel ih =>
      have hfold : Outcome known next (next key) done ((next key).foldlM
          (fun done dependency =>
            if ¬ known dependency then .ok done
            else if dependency ∈ stack ++ [key] then
              .error ((stack ++ [key]).drop ((stack ++ [key]).idxOf dependency) ++ [dependency])
            else if dependency ∈ done then .ok done
            else search known next fuel dependency (stack ++ [key]) done) done) := by
        apply outcome_foldlM _ hdone
        intro dependency hdependency done hdone
        by_cases hleads : known dependency = true
        · rw [if_neg (not_not.mpr hleads)]
          by_cases hstack : dependency ∈ stack ++ [key]
          · rw [if_pos hstack]
            exact isCycle_drop hchain ⟨hdependency, hleads⟩ hstack
          · rw [if_neg hstack]
            by_cases hold : dependency ∈ done
            · rw [if_pos hold]
              exact outcome_skip hdone fun _ => hold
            · rw [if_neg hold]
              apply ih _ _ _ _ hdone
              · rw [List.length_append, List.length_singleton]
                omega
              · apply List.Nodup.append hnodup (List.nodup_singleton _)
                exact List.disjoint_singleton.mpr hstack
              · apply List.append_subset.mpr ⟨hkeys, _⟩
                exact List.cons_subset.mpr ⟨hknown dependency hleads, List.nil_subset _⟩
              · rw [List.append_assoc, List.singleton_append, List.isChain_append_cons_cons]
                exact ⟨hchain, ⟨hdependency, hleads⟩, List.isChain_singleton _⟩
        · rw [if_pos hleads]
          exact outcome_skip hdone fun hknown => absurd hknown hleads
      rw [search]
      exact outcome_finish hfold

section

variable (hknown : ∀ key, known key = true ↔ key ∈ keys) (hfuel : keys.length ≤ fuel)

include hknown hfuel

theorem outcome_searchAll (horder : order ⊆ keys) :
    Outcome known next order [] (searchAll known next fuel order) := by
  have hnone : Finished (Leads known next) [] := True.intro
  apply outcome_foldlM _ hnone
  intro key hkey done hdone
  by_cases hold : key ∈ done
  · rw [if_pos hold]
    exact outcome_skip hdone fun _ => hold
  · rw [if_neg hold]
    apply outcome_search (fun other hother => (hknown other).mp hother) fuel _
      (List.nodup_singleton _) _ (List.isChain_singleton _) hdone
    · exact hfuel
    · exact List.cons_subset.mpr ⟨horder hkey, List.nil_subset _⟩

theorem acyclic_iff_searchAll (horder : ∀ key, key ∈ order ↔ key ∈ keys) :
    Acyclic (Leads known next) ↔ ∃ done, searchAll known next fuel order = .ok done := by
  have houtcome : Outcome known next order [] (searchAll known next fuel order) :=
    outcome_searchAll hknown hfuel fun key hkey => (horder key).mp hkey
  cases hresult : searchAll known next fuel order with
  | error cycle =>
      rw [hresult] at houtcome
      constructor
      · intro hacyclic
        exact absurd hacyclic (IsCycle.not_acyclic houtcome)
      · rintro ⟨done, hdone⟩
        cases hdone
  | ok done =>
      rw [hresult] at houtcome
      obtain ⟨hfinished, -, hall⟩ := houtcome
      refine ⟨fun _ => ⟨done, rfl⟩, fun _ => ?_⟩
      intro key hcycle
      obtain ⟨last, -, hstep⟩ := TransGen.tail'_iff.mp hcycle
      have hmem : key ∈ done := hall key ((horder key).mpr ((hknown key).mp hstep.2)) hstep.2
      exact hfinished.not_transGen hmem hcycle

end

end Search

end DevHarness.Sequence
