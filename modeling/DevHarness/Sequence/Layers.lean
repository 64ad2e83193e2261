import DevHarness.Sequence.Acyclic
import Mathlib.Data.List.Nodup
import Mathlib.Data.List.Perm.Basic

/-!
# Layers of a dependency graph

In each round, of the keys whose dependencies are done those are taken that do not conflict with
one taken before.  Without cycles every key is taken once.
-/

namespace DevHarness.Sequence

variable {α : Type} [DecidableEq α]

def greedy (conflict : α → α → Bool) (ready : List α) : List α :=
  ready.foldl
    (fun selected key =>
      if selected.all fun prior => !conflict prior key then selected ++ [key] else selected)
    []

def readyKeys (remaining : List (α × List α)) : List α :=
  (remaining.filter fun entry => entry.2 = []).map Prod.fst

/-- The keys that are left when `selected` is done, and what each still waits for. -/
def without (selected : List α) (remaining : List (α × List α)) : List (α × List α) :=
  (remaining.filter fun entry => entry.1 ∉ selected).map fun entry =>
    (entry.1, entry.2.filter fun dependency => dependency ∉ selected)

def layers (conflict : α → α → Bool) (arrange : List α → List α) :
    ℕ → List (α × List α) → List (List α)
  | 0, _ => []
  | fuel + 1, remaining =>
    if arrange (readyKeys remaining) = [] then []
    else
      let selected := greedy conflict (arrange (readyKeys remaining))
      selected :: layers conflict arrange fuel (without selected remaining)

section Greedy

variable {conflict : α → α → Bool} {ready : List α}

omit [DecidableEq α] in
theorem exists_greedy_append (conflict : α → α → Bool) (ready selected : List α) :
    ∃ added, ready.foldl
        (fun selected key =>
          if selected.all fun prior => !conflict prior key then selected ++ [key] else selected)
        selected = selected ++ added ∧ added.Sublist ready ∧
      (∀ key ∈ added, ∀ prior ∈ selected, conflict prior key = false) ∧
      added.Pairwise (fun prior key => conflict prior key = false) ∧
      ∀ key ∈ ready, key ∈ added ∨ ∃ prior ∈ selected ++ added, conflict prior key = true := by
  induction ready generalizing selected with
  | nil =>
      exact ⟨[], (List.append_nil _).symm, List.Sublist.refl _, nofun, List.Pairwise.nil, nofun⟩
  | cons head tail ih =>
      rw [List.foldl_cons]
      by_cases hfree : (selected.all fun prior => !conflict prior head) = true
      · obtain ⟨added, hfold, hsublist, hkept, hpairwise, hmaximal⟩ := ih (selected ++ [head])
        have happend : selected ++ [head] ++ added = selected ++ head :: added := by
          rw [List.append_assoc, List.singleton_append]
        have hhead : ∀ prior ∈ selected, conflict prior head = false := by
          intro prior hprior
          have hnot := List.all_eq_true.mp hfree prior hprior
          simpa using hnot
        rw [if_pos hfree]
        refine ⟨head :: added, hfold.trans happend, hsublist.cons_cons _, ?_, ?_, ?_⟩
        · intro key hkey prior hprior
          rcases List.mem_cons.mp hkey with rfl | hkey
          · exact hhead prior hprior
          · exact hkept key hkey prior (List.mem_append_left _ hprior)
        · refine List.pairwise_cons.mpr ⟨?_, hpairwise⟩
          intro key hkey
          exact hkept key hkey head (List.mem_append_right _ List.mem_cons_self)
        · intro key hkey
          rcases List.mem_cons.mp hkey with rfl | hkey
          · exact Or.inl List.mem_cons_self
          · rw [← happend]
            exact (hmaximal key hkey).imp (List.mem_cons_of_mem _) id
      · obtain ⟨added, hfold, hsublist, hkept, hpairwise, hmaximal⟩ := ih selected
        rw [if_neg hfree]
        refine ⟨added, hfold, hsublist.cons _, hkept, hpairwise, ?_⟩
        intro key hkey
        rcases List.mem_cons.mp hkey with rfl | hkey
        · right
          rw [List.all_eq_true] at hfree
          push Not at hfree
          obtain ⟨prior, hprior, hconflict⟩ := hfree
          exact ⟨prior, List.mem_append_left _ hprior, by simpa using hconflict⟩
        · exact hmaximal key hkey

omit [DecidableEq α] in
theorem greedy_sublist : (greedy conflict ready).Sublist ready := by
  obtain ⟨added, hfold, hsublist, -⟩ := exists_greedy_append conflict ready []
  rw [greedy, hfold, List.nil_append]
  exact hsublist

omit [DecidableEq α] in
theorem greedy_of_free (hfree : ∀ prior key, conflict prior key = false) :
    greedy conflict ready = ready := by
  have hfold : ∀ selected, ready.foldl
      (fun selected key =>
        if selected.all fun prior => !conflict prior key then selected ++ [key] else selected)
      selected = selected ++ ready := by
    induction ready with
    | nil => exact fun selected => (List.append_nil selected).symm
    | cons key ready ih =>
        intro selected
        have hall : (selected.all fun prior => !conflict prior key) = true := by
          simp [hfree]
        rw [List.foldl_cons, if_pos hall, ih, List.append_assoc, List.singleton_append]
  exact hfold []

omit [DecidableEq α] in
theorem pairwise_greedy :
    (greedy conflict ready).Pairwise fun prior key => conflict prior key = false := by
  obtain ⟨added, hfold, -, -, hpairwise, -⟩ := exists_greedy_append conflict ready []
  rw [greedy, hfold, List.nil_append]
  exact hpairwise

omit [DecidableEq α] in
/-- A key that is not taken conflicts with one that is. -/
theorem greedy_maximal {key : α} (hkey : key ∈ ready) :
    key ∈ greedy conflict ready ∨ ∃ prior ∈ greedy conflict ready, conflict prior key = true := by
  obtain ⟨added, hfold, -, -, -, hmaximal⟩ := exists_greedy_append conflict ready []
  rw [greedy, hfold, List.nil_append]
  rw [List.nil_append] at hmaximal
  exact hmaximal key hkey

omit [DecidableEq α] in
theorem greedy_ne_nil (hne : ready ≠ []) : greedy conflict ready ≠ [] := by
  obtain ⟨key, hkey⟩ := List.exists_mem_of_ne_nil ready hne
  have hmaximal : key ∈ greedy conflict ready ∨
      ∃ prior ∈ greedy conflict ready, conflict prior key = true := greedy_maximal hkey
  rcases hmaximal with hmem | ⟨prior, hmem, -⟩
  · exact List.ne_nil_of_mem hmem
  · exact List.ne_nil_of_mem hmem

end Greedy

section Rounds

variable {conflict : α → α → Bool} {arrange : List α → List α}
  {entries remaining : List (α × List α)} {done wave : List α} {key : α} {selected : List α}
  {fuel : ℕ}

/-- The key is not done, and all that it waits for is. -/
def Ready (entries : List (α × List α)) (done : List α) (key : α) : Prop :=
  key ∉ done ∧ ∃ dependencies, (key, dependencies) ∈ entries ∧
    ∀ dependency ∈ dependencies, dependency ∈ done

/-- What is asked of one round. -/
structure GoodWave (conflict : α → α → Bool) (entries : List (α × List α)) (done wave : List α) :
    Prop where
  nonempty : wave ≠ []
  nodup : wave.Nodup
  ready : ∀ key ∈ wave, Ready entries done key
  apart : wave.Pairwise fun prior key => conflict prior key = false
  maximal : ∀ key, Ready entries done key → key ∈ wave ∨ ∃ prior ∈ wave, conflict prior key = true

theorem mem_without {entry : α × List α} :
    entry ∈ without done entries ↔ ∃ dependencies, (entry.1, dependencies) ∈ entries ∧
      entry.1 ∉ done ∧ entry.2 = dependencies.filter fun dependency => dependency ∉ done := by
  obtain ⟨key, left⟩ := entry
  simp only [without, List.mem_map, List.mem_filter, decide_eq_true_eq, Prod.mk.injEq,
    Prod.exists]
  constructor
  · rintro ⟨_, dependencies, ⟨hmem, hnot⟩, rfl, hleft⟩
    exact ⟨dependencies, hmem, hnot, hleft.symm⟩
  · rintro ⟨dependencies, hmem, hnot, hleft⟩
    exact ⟨key, dependencies, ⟨hmem, hnot⟩, rfl, hleft.symm⟩

theorem eq_without (left : α → Bool) (hleft : ∀ key, left key = true ↔ key ∉ selected) :
    ((remaining.filter fun entry => left entry.1).map fun entry =>
      (entry.1, entry.2.filter fun dependency => left dependency)) = without selected remaining := by
  have hsame : ∀ key, left key = decide (key ∉ selected) := by
    intro key
    rw [Bool.eq_iff_iff, decide_eq_true_eq]
    exact hleft key
  simp only [without, hsame]

theorem without_nil : without [] entries = entries := by
  simp [without]

theorem without_without (wave : List α) :
    without wave (without done entries) = without (done ++ wave) entries := by
  simp only [without, List.filter_map, List.map_map, List.filter_filter]
  congr 1
  · funext entry
    simp only [Function.comp_apply, List.filter_filter, Prod.mk.injEq, true_and]
    apply List.filter_congr
    intro dependency _
    simp [Bool.and_comm]
  · apply List.filter_congr
    intro entry _
    simp [Bool.and_comm]

theorem mem_readyKeys_without :
    key ∈ readyKeys (without done entries) ↔ Ready entries done key := by
  constructor
  · intro h
    obtain ⟨entry, hentry, rfl⟩ := List.mem_map.mp h
    obtain ⟨hmem, hnil⟩ := List.mem_filter.mp hentry
    obtain ⟨dependencies, hdependencies, hnot, hleft⟩ := mem_without.mp hmem
    refine ⟨hnot, dependencies, hdependencies, ?_⟩
    intro dependency hdependency
    rw [of_decide_eq_true hnil, eq_comm, List.filter_eq_nil_iff] at hleft
    simpa using hleft dependency hdependency
  · rintro ⟨hnot, dependencies, hmem, hdone⟩
    have hnil : (dependencies.filter fun dependency => dependency ∉ done) = [] := by
      rw [List.filter_eq_nil_iff]
      intro dependency hdependency
      simpa using hdone dependency hdependency
    refine List.mem_map.mpr ⟨(key, []), List.mem_filter.mpr ⟨?_, decide_eq_true rfl⟩, rfl⟩
    exact mem_without.mpr ⟨dependencies, hmem, hnot, hnil.symm⟩

omit [DecidableEq α] in
theorem nodup_readyKeys (hkeys : (remaining.map Prod.fst).Nodup) : (readyKeys remaining).Nodup :=
  hkeys.sublist (List.filter_sublist.map _)

theorem map_fst_without :
    (without done entries).map Prod.fst = (entries.map Prod.fst).filter fun key => key ∉ done := by
  rw [without, List.map_map, List.filter_map]
  rfl

section

variable (harrange : ∀ l, (arrange l).Perm l) (hkeys : (entries.map Prod.fst).Nodup)

include harrange hkeys

theorem goodWave_greedy (hne : arrange (readyKeys (without done entries)) ≠ []) :
    GoodWave conflict entries done
      (greedy conflict (arrange (readyKeys (without done entries)))) := by
  have hmem : ∀ key, key ∈ arrange (readyKeys (without done entries)) ↔ Ready entries done key := by
    intro key
    rw [(harrange _).mem_iff, mem_readyKeys_without]
  have hnodup : (arrange (readyKeys (without done entries))).Nodup := by
    rw [(harrange _).nodup_iff]
    apply nodup_readyKeys
    rw [map_fst_without]
    exact hkeys.filter _
  constructor
  · exact greedy_ne_nil hne
  · exact hnodup.sublist greedy_sublist
  · intro key hkey
    exact (hmem key).mp (greedy_sublist.subset hkey)
  · exact pairwise_greedy
  · intro key hkey
    exact greedy_maximal ((hmem key).mpr hkey)

theorem goodWave_of_layers (fuel : ℕ) {before after : List (List α)}
    (hsplit : layers conflict arrange fuel (without done entries) = before ++ wave :: after) :
    GoodWave conflict entries (done ++ before.flatten) wave := by
  induction fuel generalizing done before with
  | zero => simp [layers] at hsplit
  | succ fuel ih =>
      rw [layers] at hsplit
      by_cases hne : arrange (readyKeys (without done entries)) = []
      · simp [hne] at hsplit
      · rw [if_neg hne] at hsplit
        simp only [without_without] at hsplit
        cases before with
        | nil =>
            obtain ⟨rfl, -⟩ := List.cons.inj hsplit
            rw [List.flatten_nil, List.append_nil]
            exact goodWave_greedy harrange hkeys hne
        | cons first before =>
            obtain ⟨rfl, hrest⟩ := List.cons.inj hsplit
            rw [List.flatten_cons, ← List.append_assoc]
            exact ih hrest

end

omit [DecidableEq α] in
theorem readyKeys_subset (h : key ∈ readyKeys remaining) : key ∈ remaining.map Prod.fst := by
  obtain ⟨entry, hentry, rfl⟩ := List.mem_map.mp h
  exact List.mem_map_of_mem (List.mem_of_mem_filter hentry)

/-! ### The last round -/

theorem length_without_lt (hne : selected ≠ [])
    (hmem : ∀ key ∈ selected, key ∈ remaining.map Prod.fst) :
    (without selected remaining).length < remaining.length := by
  obtain ⟨key, hkey⟩ := List.exists_mem_of_ne_nil selected hne
  obtain ⟨entry, hentry, rfl⟩ := List.mem_map.mp (hmem key hkey)
  rw [without, List.length_map]
  apply List.length_filter_lt_length_iff_exists.mpr
  exact ⟨entry, hentry, by simpa using hkey⟩

theorem length_round_lt (conflict : α → α → Bool) (harrange : ∀ l, (arrange l).Perm l)
    (hne : arrange (readyKeys remaining) ≠ []) :
    (without (greedy conflict (arrange (readyKeys remaining))) remaining).length <
      remaining.length := by
  apply length_without_lt (greedy_ne_nil hne)
  intro key hkey
  exact readyKeys_subset ((harrange _).mem_iff.mp (greedy_sublist.subset hkey))

theorem layers_add (harrange : ∀ l, (arrange l).Perm l) (hfuel : remaining.length ≤ fuel)
    (extra : ℕ) :
    layers conflict arrange (fuel + extra) remaining = layers conflict arrange fuel remaining := by
  induction fuel generalizing remaining with
  | zero =>
      obtain rfl := List.length_eq_zero_iff.mp (Nat.le_zero.mp hfuel)
      cases extra with
      | zero => rfl
      | succ extra =>
          have hnil : arrange (readyKeys ([] : List (α × List α))) = [] :=
            (harrange _).eq_nil
          rw [Nat.zero_add, layers, layers, if_pos hnil]
  | succ fuel ih =>
      rw [Nat.succ_add, layers, layers]
      by_cases hne : arrange (readyKeys remaining) = []
      · rw [if_pos hne, if_pos hne]
      · rw [if_neg hne, if_neg hne]
        have hlt := length_round_lt conflict harrange hne
        exact congrArg _ (ih (by omega))

theorem not_ready_after_layers (harrange : ∀ l, (arrange l).Perm l)
    (hfuel : (without done entries).length ≤ fuel) (key : α) :
    ¬ Ready entries (done ++ (layers conflict arrange fuel (without done entries)).flatten) key := by
  induction fuel generalizing done with
  | zero =>
      have hnil := List.length_eq_zero_iff.mp (Nat.le_zero.mp hfuel)
      intro hready
      rw [hnil, layers, List.flatten_nil, List.append_nil, ← mem_readyKeys_without, hnil] at hready
      cases hready
  | succ fuel ih =>
      rw [layers]
      by_cases hne : arrange (readyKeys (without done entries)) = []
      · rw [if_pos hne, List.flatten_nil, List.append_nil, ← mem_readyKeys_without,
          ← (harrange _).mem_iff, hne]
        exact List.not_mem_nil
      · rw [if_neg hne, List.flatten_cons, ← List.append_assoc]
        have hlt := length_round_lt conflict harrange hne
        simp only [without_without] at hlt ⊢
        exact ih (by omega)

/-! ### The partition -/

def WaitsFor (entries : List (α × List α)) (key dependency : α) : Prop :=
  ∃ dependencies, (key, dependencies) ∈ entries ∧ dependency ∈ dependencies

omit [DecidableEq α] in
/-- Without cycles some key is ready as long as one is left. -/
theorem exists_ready (hacyclic : Acyclic (WaitsFor entries))
    (hknown : ∀ key dependency, WaitsFor entries key dependency →
      dependency ∈ entries.map Prod.fst)
    (hleft : ∃ key ∈ entries.map Prod.fst, key ∉ done) : ∃ key, Ready entries done key := by
  classical
  obtain ⟨key, hkey, hnot⟩ := hleft
  have hne : ((entries.map Prod.fst).filter fun key => decide (key ∉ done)) ≠ [] :=
    List.ne_nil_of_mem (List.mem_filter.mpr ⟨hkey, decide_eq_true hnot⟩)
  obtain ⟨last, hlast, hend⟩ := hacyclic.exists_end _ hne
  obtain ⟨hmem, hopen⟩ := List.mem_filter.mp hlast
  obtain ⟨⟨_, dependencies⟩, hentry, rfl⟩ := List.mem_map.mp hmem
  refine ⟨_, of_decide_eq_true hopen, dependencies, hentry, ?_⟩
  intro dependency hdependency
  have hwaits : WaitsFor entries _ dependency := ⟨dependencies, hentry, hdependency⟩
  by_contra hnotDone
  exact hend dependency (List.mem_filter.mpr
    ⟨hknown _ _ hwaits, decide_eq_true hnotDone⟩) hwaits

omit [DecidableEq α] in
theorem nodup_flatten_of_goodWave {waves : List (List α)}
    (h : ∀ before wave after, waves = before ++ wave :: after →
      GoodWave conflict entries (done ++ before.flatten) wave) :
    waves.flatten.Nodup ∧ ∀ key ∈ waves.flatten, key ∉ done ∧ key ∈ entries.map Prod.fst := by
  induction waves generalizing done with
  | nil => exact ⟨List.nodup_nil, nofun⟩
  | cons first rest ih =>
      have hfirst := h [] first rest rfl
      rw [List.flatten_nil, List.append_nil] at hfirst
      have hlater : ∀ before wave after, rest = before ++ wave :: after →
          GoodWave conflict entries (done ++ first ++ before.flatten) wave := by
        intro before wave after hsplit
        have hwave := h (first :: before) wave after (by rw [hsplit, List.cons_append])
        rwa [List.flatten_cons, ← List.append_assoc] at hwave
      have hrest := ih hlater
      rw [List.flatten_cons, List.nodup_append]
      refine ⟨⟨hfirst.nodup, hrest.1, ?_⟩, ?_⟩
      · rintro key hkey _ hagain rfl
        exact (hrest.2 key hagain).1 (List.mem_append_right _ hkey)
      · intro key hkey
        rcases List.mem_append.mp hkey with hkey | hkey
        · obtain ⟨hnot, dependencies, hmem, -⟩ := hfirst.ready key hkey
          exact ⟨hnot, List.mem_map.mpr ⟨(key, dependencies), hmem, rfl⟩⟩
        · obtain ⟨hnot, hmem⟩ := hrest.2 key hkey
          exact ⟨fun hdone => hnot (List.mem_append_left _ hdone), hmem⟩

section

variable (harrange : ∀ l, (arrange l).Perm l) (hkeys : (entries.map Prod.fst).Nodup)
  (hacyclic : Acyclic (WaitsFor entries))

include harrange hkeys hacyclic

theorem perm_flatten_layers
    (hknown : ∀ key dependency, WaitsFor entries key dependency → dependency ∈ entries.map
      Prod.fst) :
    (layers conflict arrange entries.length entries).flatten.Perm (entries.map Prod.fst) := by
  have hgood : ∀ before wave after,
      layers conflict arrange entries.length (without [] entries) = before ++ wave :: after →
        GoodWave conflict entries ([] ++ before.flatten) wave :=
    fun before wave after hsplit => goodWave_of_layers harrange hkeys _ hsplit
  obtain ⟨hnodup, hmem⟩ := nodup_flatten_of_goodWave hgood
  have hend : ∀ key, ¬ Ready entries
      ([] ++ (layers conflict arrange entries.length (without [] entries)).flatten) key :=
    not_ready_after_layers harrange (Nat.le_of_eq (congrArg List.length without_nil))
  rw [without_nil] at hnodup hmem hend
  apply (List.perm_ext_iff_of_nodup hnodup hkeys).mpr
  intro key
  constructor
  · intro hkey
    exact (hmem key hkey).2
  · intro hkey
    by_contra hnot
    obtain ⟨next, hnext⟩ := exists_ready hacyclic hknown ⟨key, hkey, hnot⟩
    exact hend next hnext

/-- Without cycles a key comes after what it waits for. -/
theorem sublist_flatten_layers
    (hknown : ∀ key dependency, WaitsFor entries key dependency → dependency ∈ entries.map
      Prod.fst) {dependency : α} (hwaits : WaitsFor entries key dependency) :
    [dependency, key].Sublist (layers conflict arrange entries.length entries).flatten := by
  obtain ⟨dependencies, hentry, hdependency⟩ := hwaits
  have hkey : key ∈ (layers conflict arrange entries.length entries).flatten :=
    (perm_flatten_layers harrange hkeys hacyclic hknown).mem_iff.mpr
      (List.mem_map.mpr ⟨_, hentry, rfl⟩)
  obtain ⟨wave, hwave, hkey⟩ := List.mem_flatten.mp hkey
  obtain ⟨before, after, hsplit⟩ := List.append_of_mem hwave
  have hgood : GoodWave conflict entries ([] ++ before.flatten) wave := by
    apply goodWave_of_layers harrange hkeys entries.length
    rw [without_nil]
    exact hsplit
  obtain ⟨-, dependencies', hentry', hdone⟩ := hgood.ready key hkey
  have hsame := List.inj_on_of_nodup_map hkeys hentry hentry' rfl
  obtain ⟨-, rfl⟩ := Prod.mk.inj hsame
  have hearlier := hdone dependency hdependency
  rw [List.nil_append] at hearlier
  rw [hsplit, List.flatten_append, List.flatten_cons]
  apply List.Sublist.append (List.singleton_sublist.mpr hearlier)
  exact List.singleton_sublist.mpr (List.mem_append_left _ hkey)

end

end Rounds

end DevHarness.Sequence
