import Dossier.Json.Basic

/-!
Equality of JSON values.

Values are compared by what they are, and a double is never something which is not a number: every
value equals itself.
-/

namespace Dossier

instance : ReflBEq Number where
  rfl {number} := by
    change Number.same number number = true
    cases number with
    | integer value => exact BEq.rfl
    | double value => simp [Number.same, Double.sameValue]

instance : ReflBEq Scalar where
  rfl {scalar} := by
    change Scalar.same scalar scalar = true
    cases scalar with
    | null => rfl
    | bool value => exact BEq.rfl
    | number value => exact BEq.rfl
    | text value => exact BEq.rfl

namespace Json

mutual

theorem same_self : ∀ json : Json, json.same json = true
  | .scalar _ => BEq.rfl
  | .array items => sameItems_self items
  | .object members => sameMembers_self members

theorem sameItems_self : ∀ items : List Json, sameItems items items = true
  | [] => rfl
  | item :: rest => Bool.and_eq_true_iff.mpr ⟨same_self item, sameItems_self rest⟩

theorem sameMembers_self : ∀ members : List (String × Json), sameMembers members members = true
  | [] => rfl
  | (_, value) :: rest =>
      Bool.and_eq_true_iff.mpr
        ⟨Bool.and_eq_true_iff.mpr ⟨BEq.rfl, same_self value⟩, sameMembers_self rest⟩

end

instance : ReflBEq Json where
  rfl {json} := same_self json

end Json

end Dossier
