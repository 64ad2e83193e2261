import DevHarness.TaskQueue.WrittenTasks

/-!
# Allocated identifiers

The allocator counts on from the largest number among the identifiers.  The identifiers it hands
out are distinct and unknown as texts.
-/

namespace DevHarness.TaskQueue

open PyText Sequence

section Numbers

variable {m n bound : ℕ} {rawId : PyString} {rawIds : List PyString}

/-- The number is short enough for an identifier. -/
def HasShortNumber (n : ℕ) : Prop :=
  (padded 3 n).length ≤ 126

theorem hasShortNumber_of_lt (hn : n < 10 ^ 126) : HasShortNumber n :=
  length_padded_le (by decide) (by decide) hn

theorem numberedId_eq (n : ℕ) : numberedId n = 0x48 :: 0x2D :: padded 3 n :=
  rfl

theorem hNumber_numberedId (hn : HasShortNumber n) : hNumber (numberedId n) = some (n : ℤ) := by
  have hlength : (padded 3 n).length ≤ 126 := hn
  rw [numberedId_eq, hNumber]
  apply parseInt_padded
  omega

theorem numberedId_injective : Function.Injective numberedId := by
  intro m n h
  have hpadded : padded 3 m = padded 3 n := List.append_cancel_left h
  have hread := readDigits_padded 3 m
  rw [hpadded, readDigits_padded] at hread
  exact (Option.some.inj hread).symm

theorem le_foldl_max (number : PyString → ℕ) (l : List PyString) (start : ℕ) :
    start ≤ l.foldl (fun maximum rawId => max maximum (number rawId)) start ∧
      ∀ rawId ∈ l, number rawId ≤
        l.foldl (fun maximum rawId => max maximum (number rawId)) start := by
  induction l generalizing start with
  | nil => exact ⟨le_rfl, nofun⟩
  | cons head tail ih =>
      obtain ⟨hstart, hmem⟩ := ih (max start (number head))
      refine ⟨(le_max_left _ _).trans hstart, ?_⟩
      intro rawId hrawId
      rcases List.mem_cons.mp hrawId with rfl | hrawId
      · exact (le_max_right _ _).trans hstart
      · exact hmem rawId hrawId

theorem le_maxNumber (hmem : numberedId n ∈ rawIds) (hn : HasShortNumber n) :
    n ≤ maxNumber rawIds := by
  have hle := (le_foldl_max (fun rawId => ((hNumber rawId).getD 0).toNat) rawIds 0).2 _ hmem
  rw [hNumber_numberedId hn] at hle
  simpa [maxNumber] using hle

theorem maxNumber_lt (hpos : 0 < bound)
    (h : ∀ rawId ∈ rawIds, ∀ n, hNumber rawId = some n → n < (bound : ℤ)) :
    maxNumber rawIds < bound := by
  have hall : ∀ (l : List PyString) (start : ℕ), start < bound →
      (∀ rawId ∈ l, ∀ n, hNumber rawId = some n → n < (bound : ℤ)) →
      l.foldl (fun maximum rawId => max maximum ((hNumber rawId).getD 0).toNat) start < bound := by
    intro l
    induction l with
    | nil => exact fun start hstart _ => hstart
    | cons head tail ih =>
        intro start hstart hl
        apply ih _ _ fun rawId hrawId => hl rawId (List.mem_cons_of_mem _ hrawId)
        apply max_lt hstart
        cases hnumber : hNumber head with
        | none => exact hpos
        | some n =>
            have hlt := hl head List.mem_cons_self n hnumber
            rw [Option.getD_some]
            omega
  exact hall rawIds 0 hpos h

end Numbers

section Allocator

variable {existing : List PyString} {fuel maximum count : ℕ}

def followingIds (maximum count : ℕ) : List PyString :=
  (List.range count).map fun i => numberedId (maximum + 1 + i)

theorem followingIds_succ :
    followingIds maximum (count + 1) =
      numberedId (maximum + 1) :: followingIds (maximum + 1) count := by
  rw [followingIds, followingIds, List.range_succ_eq_map, List.map_cons, List.map_map,
    Nat.add_zero]
  apply congrArg (numberedId (maximum + 1) :: ·)
  apply List.map_congr_left
  intro i _
  have hnumber : maximum + 1 + i.succ = maximum + 1 + 1 + i := by omega
  rw [Function.comp_apply, hnumber]

theorem allocateFrom_eq (hfuel : count ≤ fuel)
    (hfresh : ∀ n, maximum < n → n ≤ maximum + count → numberedId n ∉ existing) :
    allocateFrom existing fuel maximum count = followingIds maximum count := by
  induction fuel generalizing maximum count with
  | zero =>
      obtain rfl : count = 0 := by omega
      rfl
  | succ fuel ih =>
      cases count with
      | zero => rfl
      | succ count =>
          rw [allocateFrom, if_neg (hfresh _ (by omega) (by omega)), followingIds_succ,
            ih (by omega) fun n hlow hhigh => hfresh n (by omega) (by omega)]

theorem allocateTaskIds_eq {tasks : List Task}
    (hshort : ∀ n ≤ maxNumber (tasks.map fun task => task.textOf .id) + count, HasShortNumber n) :
    allocateTaskIds tasks count =
      followingIds (maxNumber (tasks.map fun task => task.textOf .id)) count := by
  rw [allocateTaskIds]
  apply allocateFrom_eq (by omega)
  intro n hlow hhigh hmem
  have hle := le_maxNumber hmem (hshort n hhigh)
  omega

theorem length_followingIds : (followingIds maximum count).length = count := by
  rw [followingIds, List.length_map, List.length_range]

theorem nodup_followingIds : (followingIds maximum count).Nodup := by
  apply List.Nodup.map _ List.nodup_range
  intro i j h
  have hsame := numberedId_injective h
  omega

theorem mem_followingIds {taskId : PyString} :
    taskId ∈ followingIds maximum count ↔
      ∃ n, maximum < n ∧ n ≤ maximum + count ∧ taskId = numberedId n := by
  rw [followingIds, List.mem_map]
  constructor
  · rintro ⟨i, hi, rfl⟩
    have hlt := List.mem_range.mp hi
    exact ⟨maximum + 1 + i, by omega, by omega, rfl⟩
  · rintro ⟨n, hlow, hhigh, rfl⟩
    refine ⟨n - maximum - 1, List.mem_range.mpr (by omega), ?_⟩
    exact congrArg numberedId (by omega)

theorem validTaskId_numberedId {n : ℕ} (hn : HasShortNumber n) :
    validTaskId (numberedId n) = true := by
  have hlength : (padded 3 n).length ≤ 126 := hn
  have htail : (padded 3 n).all isWordTail = true := by
    rw [List.all_eq_true, padded_eq_map]
    intro u hu
    obtain ⟨c, hc, rfl⟩ := List.mem_map.mp hu
    obtain ⟨hlow, hhigh⟩ := isDigitChar_of_mem hc
    simp only [isWordTail, isWordHead, Bool.or_eq_true, Bool.and_eq_true, decide_eq_true_eq]
    omega
  rw [numberedId_eq, validTaskId, List.all_cons, htail, List.length_cons]
  simp only [Bool.and_true, Bool.and_eq_true, decide_eq_true_eq]
  exact ⟨⟨rfl, by omega⟩, rfl⟩

end Allocator

end DevHarness.TaskQueue
