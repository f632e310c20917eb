import Dossier.Alert.Match
import Dossier.Proofs.Table

/-!
Merging the matches of one record.

Evidence for a record may come at once or field by field.  Fields which are all different are put
together again by merging, so that both lead to the same list of matches.
-/

namespace Dossier.Match

theorem joinMessages_none (message : Option String) : joinMessages message none = message := by
  cases message <;> rfl

theorem addFields_append (fields first second : List FieldMatch) :
    addFields fields (first ++ second) = addFields (addFields fields first) second :=
  List.foldl_append

theorem addFields_concat (fields more : List FieldMatch) (last : FieldMatch) :
    addFields fields (more ++ [last]) =
      if (addFields fields more).contains last then addFields fields more
      else addFields fields more ++ [last] :=
  addFields_append fields more [last]

theorem addFields_new {fields : List FieldMatch} {field : FieldMatch}
    (new : fields.contains field = false) : addFields fields [field] = fields ++ [field] := by
  simp [addFields, new]

section Record

variable (object : String) (record : GraphRecord)

/-- What is known of a record grows in the same way by fields at once and by one more field. -/
theorem absorb_ofRecord_append (prior : Match) (fields : List FieldMatch) (field : FieldMatch) :
    (prior.absorb (ofRecord object record fields)).absorb (ofRecord object record [field]) =
      prior.absorb (ofRecord object record (fields ++ [field])) := by
  simp only [absorb, ofRecord, addFields_append, joinMessages_none]
  cases prior.recordId <;> cases record.id? <;> rfl

theorem ofRecord_absorb_new {fields : List FieldMatch} {field : FieldMatch}
    (new : fields.contains field = false) :
    (ofRecord object record fields).absorb (ofRecord object record [field]) =
      ofRecord object record (fields ++ [field]) := by
  simp only [absorb, ofRecord, addFields_new new, joinMessages_none]
  cases record.id? <;> rfl

theorem merge_extend (found : List Match) {fields : List FieldMatch} {field : FieldMatch}
    (new : fields.contains field = false) :
    merge (merge found (ofRecord object record fields)) (ofRecord object record [field]) =
      merge found (ofRecord object record (fields ++ [field])) := by
  induction found with
  | nil =>
      have same : (ofRecord object record fields).key == (ofRecord object record [field]).key :=
        BEq.rfl
      simp only [merge, same, if_true, ofRecord_absorb_new object record new]
  | cons prior rest ih =>
      have key (fields : List FieldMatch) :
          (ofRecord object record fields).key = (object, record.key) := rfl
      cases same : prior.key == (object, record.key) with
      | true =>
          have kept : (prior.absorb (ofRecord object record fields)).key = prior.key := rfl
          simp only [merge, key, same, if_true, kept, absorb_ofRecord_append]
      | false =>
          simp only [merge, key, same, Bool.false_eq_true, if_false, ih]

theorem foldl_merge_fields (found : List Match) (fields more : List FieldMatch)
    (different : (fields ++ more).Pairwise fun field other => (other == field) = false) :
    (more.map fun field => ofRecord object record [field]).foldl merge
        (merge found (ofRecord object record fields)) =
      merge found (ofRecord object record (fields ++ more)) := by
  induction more generalizing fields with
  | nil => simp
  | cons field more ih =>
      have new : fields.contains field = false := by
        have apart := (List.pairwise_append.mp different).2.2
        rw [List.contains_eq_any_beq, List.any_eq_false]
        intro other member
        simp [apart other member field List.mem_cons_self]
      have different : ((fields ++ [field]) ++ more).Pairwise
          fun field other => (other == field) = false := by
        rwa [List.append_assoc]
      rw [List.map_cons, List.foldl_cons, merge_extend object record found new, ih _ different,
        List.append_assoc, List.singleton_append]

end Record

theorem mem_addFields {fields more : List FieldMatch} {field : FieldMatch}
    (member : field ∈ addFields fields more) : field ∈ fields ∨ field ∈ more := by
  induction more using List.reverseRecOn with
  | nil => exact .inl member
  | append_singleton more last ih =>
      rw [addFields_concat] at member
      rw [List.mem_append]
      split at member
      · exact (ih member).imp_right .inl
      · rcases List.mem_append.mp member with earlier | same
        · exact (ih earlier).imp_right .inl
        · exact .inr (.inr same)

theorem dedup_concat (found : List Match) (last : Match) :
    dedup (found ++ [last]) = merge (dedup found) last :=
  List.foldl_append

section Invariant

variable {holds : Match → Prop} (absorbs : ∀ prior next, prior.key = next.key → holds prior →
  holds next → holds (prior.absorb next))

include absorbs

/-- What absorbing keeps is kept by merging. -/
theorem forall_mem_merge {found : List Match} {next : Match} (sound : ∀ m ∈ found, holds m)
    (new : holds next) : ∀ m ∈ merge found next, holds m := by
  induction found with
  | nil => simpa [merge] using new
  | cons prior rest ih =>
      obtain ⟨first, others⟩ := List.forall_mem_cons.mp sound
      rw [merge]
      split
      · rename_i same
        exact List.forall_mem_cons.mpr ⟨absorbs prior next (eq_of_beq same) first new, others⟩
      · exact List.forall_mem_cons.mpr ⟨first, ih others⟩

theorem forall_mem_dedup {found : List Match} (sound : ∀ m ∈ found, holds m) :
    ∀ m ∈ dedup found, holds m := by
  induction found using List.reverseRecOn with
  | nil => simp [dedup]
  | append_singleton found last ih =>
      rw [dedup_concat]
      refine forall_mem_merge absorbs (ih fun m member => ?_) (sound last (by simp))
      exact sound m (List.mem_append_left _ member)

end Invariant

theorem map_key_merge (found : List Match) (next : Match) :
    (merge found next).map key =
      if (found.map key).contains next.key then found.map key else found.map key ++ [next.key] := by
  induction found with
  | nil => rfl
  | cons prior rest ih =>
      rw [merge, List.map_cons, List.contains_cons]
      cases same : prior.key == next.key with
      | true =>
          have kept : (prior.absorb next).key = prior.key := rfl
          simp [kept, BEq.symm same]
      | false =>
          have different : (next.key == prior.key) = false := BEq.symm_false same
          simp only [Bool.false_eq_true, if_false, List.map_cons, ih, different, Bool.false_or]
          split <;> rfl

/-- Merged matches have the keys of the matches, each of them once. -/
theorem map_key_dedup (found : List Match) :
    (dedup found).map key = distinct (found.map key) := by
  induction found using List.reverseRecOn with
  | nil => rfl
  | append_singleton found last ih =>
      rw [List.map_append, List.map_singleton, distinct_concat, ← ih, ← map_key_merge, dedup_concat]

end Dossier.Match
