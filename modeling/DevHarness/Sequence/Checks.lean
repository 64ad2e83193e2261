import Mathlib.Data.List.Forall2

/-!
# Sequences of checks

A computation that may fail gives a result when each of its parts does.
-/

namespace DevHarness.Sequence

variable {ε α β : Type} {next : α → Except ε β} {result : β} {first : Except ε α}
  {check : Except ε Unit} {items : List α} {translate : α → Except ε β} {results : List β}

theorem ok_bind {value : α} : (Except.ok value >>= next) = next value := rfl

theorem bind_eq_ok :
    first >>= next = .ok result ↔ ∃ value, first = .ok value ∧ next value = .ok result := by
  cases first with
  | error e => simp [bind, Except.bind]
  | ok value => simp [bind, Except.bind]

theorem bind_eq_error {error : ε} :
    first >>= next = .error error ↔
      first = .error error ∨ ∃ value, first = .ok value ∧ next value = .error error := by
  cases first with
  | error e => simp [bind, Except.bind]
  | ok value => simp [bind, Except.bind]

theorem check_bind_eq_ok {next : Unit → Except ε β} :
    check >>= next = .ok result ↔ check = .ok () ∧ next () = .ok result := by
  rw [bind_eq_ok]
  constructor
  · rintro ⟨⟨⟩, hcheck, hnext⟩
    exact ⟨hcheck, hnext⟩
  · rintro ⟨hcheck, hnext⟩
    exact ⟨(), hcheck, hnext⟩

theorem check_bind_ok {next : Unit → Except ε β} (h : check = .ok ()) :
    check >>= next = next () := by
  rw [h, ok_bind]

theorem map_eq_ok {f : α → β} {computation : Except ε α} :
    computation.map f = .ok result ↔ ∃ value, computation = .ok value ∧ f value = result := by
  cases computation with
  | error e => simp [Except.map]
  | ok value => simp [Except.map]

theorem forM_eq_ok {check : α → Except ε Unit} {result : Unit} :
    items.forM check = .ok result ↔ ∀ item ∈ items, check item = .ok () := by
  induction items with
  | nil => simp [pure, Except.pure]
  | cons item items ih =>
      change (check item >>= fun _ => items.forM check) = .ok result ↔ _
      rw [check_bind_eq_ok, List.forall_mem_cons]
      exact and_congr_right fun _ => ih

theorem mapM_eq_ok :
    items.mapM translate = .ok results ↔
      List.Forall₂ (fun item result => translate item = .ok result) items results := by
  induction items generalizing results with
  | nil =>
      rw [List.mapM_nil, List.forall₂_nil_left_iff]
      simp [pure, Except.pure, eq_comm]
  | cons item items ih =>
      rw [List.mapM_cons, bind_eq_ok, List.forall₂_cons_left_iff]
      constructor
      · rintro ⟨value, hvalue, hrest⟩
        rw [bind_eq_ok] at hrest
        obtain ⟨rest, hrest, hresult⟩ := hrest
        exact ⟨value, rest, hvalue, ih.mp hrest, (Except.ok.inj hresult).symm⟩
      · rintro ⟨value, rest, hvalue, hrest, rfl⟩
        exact ⟨value, hvalue, bind_eq_ok.mpr ⟨rest, ih.mpr hrest, rfl⟩⟩

theorem exists_of_mem_mapM (h : items.mapM translate = .ok results) :
    ∀ result ∈ results, ∃ item ∈ items, translate item = .ok result := by
  have hall := mapM_eq_ok.mp h
  clear h
  induction hall with
  | nil => exact fun result hmem => absurd hmem List.not_mem_nil
  | cons hone _ ih =>
      intro result hmem
      rcases List.mem_cons.mp hmem with rfl | hmem
      · exact ⟨_, List.mem_cons_self, hone⟩
      · obtain ⟨item, hitem, hresult⟩ := ih result hmem
        exact ⟨item, List.mem_cons_of_mem _ hitem, hresult⟩

end DevHarness.Sequence
