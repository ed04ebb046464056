import Clearing.Power
/-!
Computations that give a result or an error.
-/

namespace Clearing

variable {Error First Second : Type}

theorem bind_eq_ok_iff (first : Except Error First) (next : First → Except Error Second)
    (result : Second) :
    (first >>= next) = .ok result ↔
      ∃ value, first = .ok value ∧ next value = .ok result := by
  cases first <;> simp [bind, Except.bind]

theorem bind_eq_error_iff (first : Except Error First) (next : First → Except Error Second)
    (error : Error) :
    (first >>= next) = .error error ↔
      first = .error error ∨ ∃ value, first = .ok value ∧ next value = .error error := by
  cases first <;> simp [bind, Except.bind]

section Refused

variable {refused : Prop} [Decidable refused] (error : Error) (rest : Except Error First)

theorem ite_error_eq_ok_iff (result : First) :
    (if refused then .error error else rest) = .ok result ↔ ¬ refused ∧ rest = .ok result := by
  split <;> simp [*]

theorem ite_error_eq_error_iff (reported : Error) :
    (if refused then .error error else rest) = .error reported ↔
      refused ∧ error = reported ∨ ¬ refused ∧ rest = .error reported := by
  split <;> simp [*]

end Refused

theorem mapError_eq_ok_iff {Other : Type} (result : Except Error First) (change : Error → Other)
    (value : First) : result.mapError change = .ok value ↔ result = .ok value := by
  cases result with
  | error cause => constructor <;> rintro ⟨⟩
  | ok first =>
      constructor
      · rintro ⟨⟩
        rfl
      · rintro ⟨⟩
        rfl

theorem mapError_eq_error_iff {Other : Type} (result : Except Error First)
    (change : Error → Other) (error : Other) :
    result.mapError change = .error error ↔
      ∃ cause, result = .error cause ∧ change cause = error := by
  cases result with
  | error cause =>
      constructor
      · rintro ⟨⟩
        exact ⟨cause, rfl, rfl⟩
      · rintro ⟨_, ⟨⟩, rfl⟩
        rfl
  | ok first =>
      constructor
      · rintro ⟨⟩
      · rintro ⟨_, ⟨⟩, _⟩

theorem exists_of_map_eq_ok {result : Except Error First} {change : First → Second}
    {value : Second} (mapped : result.map change = .ok value) :
    ∃ first, result = .ok first ∧ change first = value := by
  cases result with
  | error error => cases mapped
  | ok first =>
      cases mapped
      exact ⟨first, rfl, rfl⟩

theorem eq_ok_of_toOption_eq_some {result : Except Error First} {value : First}
    (kept : result.toOption = some value) : result = .ok value := by
  cases result with
  | error error => cases kept
  | ok other =>
      cases kept
      rfl

end Clearing
