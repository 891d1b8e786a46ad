/-! Steps that can fail, one after another. What comes to a result got through each of its
steps. -/

namespace TreeShell

variable {first : Except ε α}

theorem bind_eq_ok_iff {next : α → Except ε β} {result : β} :
    (first >>= next) = .ok result ↔ ∃ value, first = .ok value ∧ next value = .ok result := by
  cases first with
  | error cause => exact ⟨nofun, nofun⟩
  | ok value =>
    constructor
    · intro done
      exact ⟨value, rfl, done⟩
    · rintro ⟨_, same, done⟩
      cases same
      exact done

theorem map_eq_ok_iff {change : α → β} {result : β} :
    first.map change = .ok result ↔ ∃ value, first = .ok value ∧ change value = result := by
  cases first with
  | error cause => exact ⟨nofun, nofun⟩
  | ok value =>
    constructor
    · intro done
      exact ⟨value, rfl, Except.ok.inj done⟩
    · rintro ⟨_, same, rfl⟩
      cases same
      rfl

theorem mapError_eq_ok_iff {rename : ε → δ} {result : α} :
    first.mapError rename = .ok result ↔ first = .ok result := by
  cases first with
  | error cause => exact ⟨nofun, nofun⟩
  | ok value =>
    constructor
    all_goals
      intro done
      cases done
      rfl

end TreeShell
