import Clearing.Account.Id
import Clearing.Proofs.Text.Splitting
/-!
Spellings of accounts.  An account is spelled as groups of hexadecimal digits with hyphens
between them, and a text that is one can be cut into its groups in one way only.
-/

namespace Clearing

/-- Groups of hexadecimal digits of the lengths of an identifier, with hyphens between them. -/
def IsAccountSpelling (characters : List Char) : Prop :=
  ∃ groups : List (List Char),
    groups.map List.length = accountGroups ∧
      (∀ group ∈ groups, ∀ character ∈ group, Text.isHex character = true) ∧
      ['-'].intercalate groups = characters

theorem isAccountId_iff (characters : List Char) :
    isAccountId characters = true ↔ IsAccountSpelling characters := by
  simp only [isAccountId, Text.pieces_eq_splitOn, Bool.and_eq_true, beq_iff_eq, List.all_eq_true]
  constructor
  · rintro ⟨lengths, hexadecimal⟩
    exact ⟨_, lengths, hexadecimal, List.intercalate_splitOn '-'⟩
  · rintro ⟨groups, lengths, hexadecimal, rfl⟩
    have unmarked (group : List Char) (member : group ∈ groups) : '-' ∉ group := by
      intro hyphen
      have digit := hexadecimal group member '-' hyphen
      revert digit
      decide
    have present : groups ≠ [] := by
      rintro rfl
      cases lengths
    rw [List.splitOn_intercalate '-' unmarked present]
    exact ⟨lengths, hexadecimal⟩

theorem AccountId.isAccountSpelling (account : AccountId) :
    IsAccountSpelling account.text.toList :=
  (isAccountId_iff _).mp account.wellFormed

theorem AccountId.ext_text {left right : AccountId} (same : left.text = right.text) :
    left = right := by
  cases left
  cases right
  cases same
  rfl

theorem AccountId.parse_eq_some_iff (text : String) (account : AccountId) :
    parse text = some account ↔ account.text = text := by
  unfold parse
  split
  · rw [Option.some.injEq]
    exact ⟨fun same => congrArg AccountId.text same.symm, fun same => ext_text same.symm⟩
  · rename_i malformed
    refine ⟨nofun, ?_⟩
    rintro rfl
    exact absurd account.wellFormed malformed

theorem AccountId.parse_eq_none_iff (text : String) :
    parse text = none ↔ ¬ IsAccountSpelling text.toList := by
  rw [← isAccountId_iff]
  unfold parse
  split <;> simp [*]

theorem AccountId.sameAccount_iff (left right : AccountId) :
    left.sameAccount right = true ↔ Text.lowerText left.text = Text.lowerText right.text := by
  rw [sameAccount, Text.equalIgnoringCase, beq_iff_eq, Text.lowerText, Text.lowerText,
    String.ofList_inj]

end Clearing
