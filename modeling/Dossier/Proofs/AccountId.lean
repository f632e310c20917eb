import Dossier.AccountId
import Dossier.Proofs.Table
import Dossier.Proofs.Text.Trimming

/-!
Which candidates a run takes.

It takes the identifiers among them, trimmed, each of them once and in their order, up to a limit.
-/

namespace Dossier.AccountId

theorem isAlphanum_iff {c : Char} : c.isAlphanum = true ↔
    ('0' ≤ c ∧ c ≤ '9') ∨ ('A' ≤ c ∧ c ≤ 'Z') ∨ ('a' ≤ c ∧ c ≤ 'z') := by
  change ((decide (65 ≤ c.val ∧ c.val ≤ 90) || (97 ≤ c.val && c.val ≤ 122)) ||
      (48 ≤ c.val && c.val ≤ 57)) = true ↔
    (48 ≤ c.val ∧ c.val ≤ 57) ∨ (65 ≤ c.val ∧ c.val ≤ 90) ∨ (97 ≤ c.val ∧ c.val ≤ 122)
  simp only [Bool.or_eq_true, Bool.and_eq_true, decide_eq_true_eq]
  exact or_comm

theorem isBlank_of_isAlphanum {c : Char} (alphanum : c.isAlphanum = true) :
    Text.isBlank c = false := by
  have bounds : 48 ≤ c.toNat ∧ c.toNat ≤ 122 := by
    have letterOrDigit := isAlphanum_iff.mp alphanum
    simp only [Char.le_def, UInt32.le_iff_toNat_le] at letterOrDigit
    change (48 ≤ c.toNat ∧ c.toNat ≤ 57) ∨ (65 ≤ c.toNat ∧ c.toNat ≤ 90) ∨
      (97 ≤ c.toNat ∧ c.toNat ≤ 122) at letterOrDigit
    omega
  simp only [Text.isBlank, Bool.or_eq_false_iff, Bool.and_eq_false_iff, decide_eq_false_iff_not,
    beq_eq_false_iff_ne]
  omega

/-- Identifiers hold no white space. -/
theorem trim_of_isIdentifier {id : String} (identifier : isIdentifier id = true) :
    Text.trim id = id := by
  simp only [isIdentifier, Bool.and_eq_true, List.all_eq_true] at identifier
  exact Text.trim_of_not_blank fun c member => isBlank_of_isAlphanum (identifier.2 c member)

/-- The identifiers among the candidates. -/
def tokensOf (candidates : List String) : List String :=
  (candidates.map Text.trim).filter isIdentifier

theorem tokensOf_cons (candidate : String) (rest : List String) :
    tokensOf (candidate :: rest) =
      if isIdentifier (Text.trim candidate) then Text.trim candidate :: tokensOf rest
      else tokensOf rest := by
  rw [tokensOf, List.map_cons, List.filter_cons]
  rfl

theorem sanitizeFrom_eq (before candidates : List String)
    (few : (distinct before).length ≤ limit) :
    sanitizeFrom (distinct before) candidates =
      (distinct (before ++ tokensOf candidates)).take limit := by
  induction candidates generalizing before with
  | nil =>
      have nothing : tokensOf [] = [] := rfl
      rw [sanitizeFrom, nothing, List.append_nil, List.take_of_length_le few]
  | cons candidate rest ih =>
      rw [sanitizeFrom, tokensOf_cons]
      cases valid : isIdentifier (Text.trim candidate) with
      | false =>
          simp only [Bool.not_false, Bool.true_or, Bool.false_eq_true, if_true, if_false]
          exact ih before few
      | true =>
          have longer := distinct_concat before (Text.trim candidate)
          rw [if_pos rfl, List.append_cons before]
          cases known : (distinct before).contains (Text.trim candidate) with
          | true =>
              rw [known, if_pos rfl] at longer
              simp only [Bool.not_true, Bool.or_true, if_true]
              rw [← longer]
              exact ih _ (longer ▸ few)
          | false =>
              simp only [known, Bool.false_eq_true, if_false] at longer
              simp only [Bool.not_true, Bool.or_false, Bool.false_eq_true, if_false]
              split
              · rename_i full
                have start := distinct_grows before ([Text.trim candidate] ++ tokensOf rest)
                rw [← List.append_assoc] at start
                rw [← full]
                exact List.prefix_iff_eq_take.mp start
              · rename_i room
                rw [← longer]
                refine ih _ ?_
                rw [longer, List.length_append, List.length_singleton]
                omega

/-- What is taken of the candidates. -/
theorem sanitize_eq (candidates : List String) :
    sanitize candidates = (distinct (tokensOf candidates)).take limit :=
  sanitizeFrom_eq [] candidates (by decide)

theorem sanitize_of_identifiers {ids : List String}
    (identifiers : ∀ id ∈ ids, isIdentifier id = true) :
    sanitize ids = (distinct ids).take limit := by
  have trimmed : ids.map Text.trim = ids :=
    (List.map_congr_left fun id member => trim_of_isIdentifier (identifiers id member)).trans
      (List.map_id ids)
  rw [sanitize_eq, tokensOf, trimmed, List.filter_eq_self.mpr identifiers]

theorem sanitize_singleton {id : String} (identifier : isIdentifier id = true) :
    sanitize [id] = [id] :=
  sanitize_of_identifiers (List.forall_mem_singleton.mpr identifier)

theorem sanitize_nodup (candidates : List String) : (sanitize candidates).Nodup := by
  rw [sanitize_eq]
  exact (nodup_distinct _).sublist (List.take_sublist _ _)

end Dossier.AccountId
