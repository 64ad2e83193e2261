import DevHarness.Sql.Table

/-!
# Versioned rows

A table whose rows are only replaced by rows of a later version.  What is read of a row is
then determined by its version, over all tables that one table becomes.
-/

namespace Sql

namespace Table

variable {Row Key Content : Type} [DecidableEq Key] {key : Row → Key}
  {read : Row → Content} {version : Content → ℕ} {t next later : Table key}

/-- Each row is kept, as far as it is read, or replaced by one of a later version. -/
def Supersedes (read : Row → Content) (version : Content → ℕ) (next t : Table key) : Prop :=
  ∀ ⦃k row⦄, t.get k = some row → ∃ row', next.get k = some row' ∧
    (read row' = read row ∨ version (read row) < version (read row'))

theorem Supersedes.refl (t : Table key) : Supersedes read version t t :=
  fun _ row hrow => ⟨row, hrow, .inl rfl⟩

theorem Supersedes.trans (h' : Supersedes read version later next)
    (h : Supersedes read version next t) : Supersedes read version later t := by
  intro k row hrow
  obtain ⟨row', hrow', hkept⟩ := h hrow
  obtain ⟨row'', hrow'', hkept'⟩ := h' hrow'
  refine ⟨row'', hrow'', ?_⟩
  rcases hkept with hsame | hlater
  · rw [← hsame]
    exact hkept'
  · right
    rcases hkept' with hsame' | hlater'
    · rw [hsame']
      exact hlater
    · exact hlater.trans hlater'

theorem Supersedes.read_eq (h : Supersedes read version next t) {k : Key} {row row' : Row}
    (hrow : t.get k = some row) (hrow' : next.get k = some row')
    (hversion : version (read row) = version (read row')) : read row = read row' := by
  obtain ⟨current, hcurrent, hkept⟩ := h hrow
  obtain rfl := Option.some.inj (hrow'.symm.trans hcurrent)
  rcases hkept with hsame | hlater
  · exact hsame.symm
  · exact absurd hversion hlater.ne

end Table

end Sql
