import Dossier.Proofs.Alert.Messages
import Dossier.Proofs.Json.Equality

/-!
What merging makes of matches.

The matches of a record are put together in the order in which they came, each part by a rule of its
own: entries are listed once, the identifier is the first one given, and messages are joined.  Nothing
of them is lost and nothing comes in, and it makes no difference whether it is done in stages.
-/

namespace Dossier

instance : ReflBEq FieldMatch where
  rfl {field} := by
    change field.same field = true
    simp [FieldMatch.same]

namespace Match

/-- What is said of a record by its `first` match and those which came `later`. -/
structure Merged (m first : Match) (later : List Match) : Prop where
  /-- The entries of the first match as they are, and those of the later ones which are new. -/
  matchedFields : m.matchedFields = first.matchedFields ++
    distinct ((later.flatMap (·.matchedFields)).filter fun field =>
      !first.matchedFields.contains field)
  recordId : m.recordId = (first :: later).findSome? (·.recordId)
  message : (∀ told ∈ (first :: later).filterMap (·.message), Text.Unseparated told) →
    m.message = joined (distinct ((first :: later).filterMap (·.message)))

section Entries

variable {fields more : List FieldMatch} {field : FieldMatch}

theorem addFields_eq (fields more : List FieldMatch) :
    addFields fields more =
      fields ++ distinct (more.filter fun field => !fields.contains field) := by
  induction more using List.reverseRecOn with
  | nil => exact (List.append_nil fields).symm
  | append_singleton more last ih =>
      rw [addFields_concat, ih, List.contains_append, List.filter_append, List.filter_singleton]
      cases listed : fields.contains last with
      | true => simp
      | false =>
          simp only [Bool.false_or, Bool.not_false, cond_true, distinct_concat]
          split
          · rfl
          · rw [List.append_assoc]

/-- No entry is lost, but where an equal one is there already. -/
theorem contains_addFields (told : field ∈ fields ∨ field ∈ more) :
    (addFields fields more).contains field = true := by
  rw [addFields_eq, List.contains_append, Bool.or_eq_true]
  cases listed : fields.contains field with
  | true => exact .inl rfl
  | false =>
      rcases told with earlier | later
      · rw [List.contains_iff_exists_mem_beq.mpr ⟨field, earlier, BEq.rfl⟩] at listed
        contradiction
      · exact .inr (contains_distinct (List.mem_filter.mpr ⟨later, by rw [listed]; rfl⟩))

end Entries

section Record

variable (first : Match) (later : List Match)

theorem foldl_absorb_key : (later.foldl absorb first).key = first.key := by
  induction later generalizing first with
  | nil => rfl
  | cons next rest ih => exact ih (first.absorb next)

theorem foldl_absorb_fields : (later.foldl absorb first).matchedFields =
    addFields first.matchedFields (later.flatMap (·.matchedFields)) := by
  induction later generalizing first with
  | nil => rfl
  | cons next rest ih =>
      rw [List.foldl_cons, ih, List.flatMap_cons, addFields_append]
      rfl

theorem foldl_absorb_recordId : (later.foldl absorb first).recordId =
    (first :: later).findSome? (·.recordId) := by
  induction later generalizing first with
  | nil => cases given : first.recordId <;> simp [given]
  | cons next rest ih =>
      rw [List.foldl_cons, ih, List.findSome?_cons, List.findSome?_cons, List.findSome?_cons]
      simp only [absorb]
      cases first.recordId <;> rfl

theorem foldl_absorb_message
    (whole : ∀ told ∈ (first :: later).filterMap (·.message), Text.Unseparated told) :
    (later.foldl absorb first).message =
      joined (distinct ((first :: later).filterMap (·.message))) := by
  induction later using List.reverseRecOn with
  | nil =>
      cases given : first.message with
      | none => simp [given, joined, distinct]
      | some told => simp [given, joined, distinct]
  | append_singleton later last ih =>
      rw [← List.cons_append, List.filterMap_append] at whole ⊢
      have before := ih fun told member => whole told (List.mem_append_left _ member)
      rw [List.foldl_append]
      change joinMessages (later.foldl absorb first).message last.message = _
      rw [before]
      cases given : last.message with
      | none => simp [given, joinMessages_none]
      | some told =>
          have single : [last].filterMap (·.message) = [told] := by simp [given]
          rw [single, distinct_concat, joinMessages_joined fun told member =>
            whole told (List.mem_append_left _ (mem_distinct.mp member))]

theorem foldl_absorb_merged : (later.foldl absorb first).Merged first later where
  matchedFields := by rw [foldl_absorb_fields, addFields_eq]
  recordId := foldl_absorb_recordId first later
  message := foldl_absorb_message first later

end Record

/-- A match after merging is one of another record as it was, or that of the record with what the
next match says, or the next match, if nothing was said of its record. -/
theorem mem_merge {found : List Match} {next m : Match} (unique : (found.map key).Nodup)
    (member : m ∈ merge found next) :
    m ∈ found ∧ m.key ≠ next.key ∨
      (∃ prior ∈ found, prior.key = next.key ∧ m = prior.absorb next) ∨
      next.key ∉ found.map key ∧ m = next := by
  induction found with
  | nil => exact .inr (.inr ⟨List.not_mem_nil, List.mem_singleton.mp member⟩)
  | cons prior rest ih =>
      obtain ⟨own, others⟩ := List.nodup_cons.mp unique
      rw [merge] at member
      split at member
      · rename_i same
        have same : prior.key = next.key := eq_of_beq same
        rcases List.mem_cons.mp member with rfl | other
        · exact .inr (.inl ⟨prior, List.mem_cons_self, same, rfl⟩)
        · refine .inl ⟨List.mem_cons_of_mem _ other, fun also => own ?_⟩
          rw [same, ← also]
          exact List.mem_map_of_mem other
      · rename_i different
        have different : prior.key ≠ next.key := by simpa using different
        rcases List.mem_cons.mp member with rfl | other
        · exact .inl ⟨List.mem_cons_self, different⟩
        · rcases ih others other with ⟨there, apart⟩ | ⟨merged, there, same, rfl⟩ | ⟨new, rfl⟩
          · exact .inl ⟨List.mem_cons_of_mem _ there, apart⟩
          · exact .inr (.inl ⟨merged, List.mem_cons_of_mem _ there, same, rfl⟩)
          · refine .inr (.inr ⟨fun listed => ?_, rfl⟩)
            rcases List.mem_cons.mp listed with same | earlier
            · exact different same.symm
            · exact new earlier

theorem merge_new {found : List Match} {next : Match} (new : next.key ∉ found.map key) :
    merge found next = found ++ [next] := by
  induction found with
  | nil => rfl
  | cons prior rest ih =>
      obtain ⟨other, others⟩ := not_or.mp (mt List.mem_cons.mpr new)
      have different : (prior.key == next.key) = false := beq_false_of_ne (Ne.symm other)
      rw [merge, different, ih others]
      rfl

theorem dedup_unique (found : List Match) : ((dedup found).map key).Nodup := by
  rw [map_key_dedup]
  exact nodup_distinct _

/-- Where every match is about a record of its own, there is nothing to merge. -/
theorem dedup_of_unique {found : List Match} (unique : (found.map key).Nodup) :
    dedup found = found := by
  induction found using List.reverseRecOn with
  | nil => rfl
  | append_singleton found last ih =>
      rw [List.map_append, List.map_singleton, ← List.concat_eq_append, List.nodup_concat] at unique
      rw [dedup_concat, ih unique.2, merge_new unique.1]

/-- Every match after merging comes of the matches of its key, in their order. -/
theorem mem_dedup {found : List Match} {m : Match} (member : m ∈ dedup found) :
    ∃ first later, found.filter (·.key == m.key) = first :: later ∧
      m = later.foldl absorb first := by
  induction found using List.reverseRecOn generalizing m with
  | nil => contradiction
  | append_singleton found last ih =>
      rw [dedup_concat] at member
      rw [List.filter_append, List.filter_singleton]
      rcases mem_merge (dedup_unique found) member with
        ⟨there, other⟩ | ⟨prior, there, same, rfl⟩ | ⟨new, rfl⟩
      · obtain ⟨first, later, listed, merged⟩ := ih there
        have apart : (last.key == m.key) = false := beq_false_of_ne (Ne.symm other)
        exact ⟨first, later, by rw [listed, apart]; exact List.append_nil _, merged⟩
      · obtain ⟨first, later, listed, merged⟩ := ih there
        have kept : (prior.absorb last).key = prior.key := rfl
        refine ⟨first, later ++ [last], ?_, ?_⟩
        · rw [kept, listed, same, BEq.rfl]
          rfl
        · rw [List.foldl_append, ← merged]
          rfl
      · rw [map_key_dedup, mem_distinct] at new
        have nothing : found.filter (·.key == m.key) = [] :=
          List.filter_eq_nil_iff.mpr fun n listed same =>
            new (List.mem_map.mpr ⟨n, listed, eq_of_beq same⟩)
        exact ⟨m, [], by rw [nothing, BEq.rfl]; rfl, rfl⟩

/-- The matches of a key are among the matches, and of this key. -/
theorem mem_parts {found parts : List Match} {wanted : String × String}
    (listed : found.filter (·.key == wanted) = parts) {n : Match} (among : n ∈ parts) :
    n ∈ found ∧ n.key = wanted := by
  rw [← listed] at among
  exact (List.mem_filter.mp among).imp_right eq_of_beq

theorem dedup_keeps {found : List Match} {n : Match} (listed : n ∈ found) :
    ∃ m ∈ dedup found, m.key = n.key ∧
      ∀ field ∈ n.matchedFields, m.matchedFields.contains field = true := by
  have named : n.key ∈ (dedup found).map key := by
    rw [map_key_dedup, mem_distinct]
    exact List.mem_map_of_mem listed
  obtain ⟨m, member, same⟩ := List.mem_map.mp named
  refine ⟨m, member, same, fun field told => ?_⟩
  obtain ⟨first, later, parts, rfl⟩ := mem_dedup member
  have among : n ∈ first :: later := by
    rw [← parts]
    exact List.mem_filter.mpr ⟨listed, beq_of_eq same.symm⟩
  rw [foldl_absorb_fields]
  refine contains_addFields ?_
  rcases List.mem_cons.mp among with rfl | after
  · exact .inl told
  · exact .inr (List.mem_flatMap.mpr ⟨n, after, told⟩)

theorem mem_fields_dedup {found : List Match} {m : Match} (member : m ∈ dedup found)
    {field : FieldMatch} (told : field ∈ m.matchedFields) :
    ∃ n ∈ found, n.key = m.key ∧ field ∈ n.matchedFields := by
  obtain ⟨first, later, parts, merged⟩ := mem_dedup member
  rw [merged, foldl_absorb_fields] at told
  rcases mem_addFields told with earlier | after
  · obtain ⟨listed, same⟩ := mem_parts parts List.mem_cons_self
    exact ⟨first, listed, same, earlier⟩
  · obtain ⟨n, among, there⟩ := List.mem_flatMap.mp after
    obtain ⟨listed, same⟩ := mem_parts parts (List.mem_cons_of_mem first among)
    exact ⟨n, listed, same, there⟩

theorem dedup_append (found more : List Match) :
    dedup (found ++ more) = more.foldl merge (dedup found) :=
  List.foldl_append

/-- Merging leaves one match for each key, in the order in which the keys first came, and changes
nothing where no key is repeated.  Each of them is put together from the matches of its key: it has
their entries, all of them and no others, the first identifier which they give, and their messages,
each once.  Matches which are merged already may be merged with more of them. -/
theorem dedup_exact (found : List Match) :
    (dedup found).map key = distinct (found.map key) ∧
      ((found.map key).Nodup → dedup found = found) ∧
      (∀ m ∈ dedup found, ∃ first later,
        found.filter (·.key == m.key) = first :: later ∧ m.Merged first later) ∧
      (∀ n ∈ found, ∃ m ∈ dedup found, m.key = n.key ∧
        ∀ field ∈ n.matchedFields, m.matchedFields.contains field = true) ∧
      (∀ m ∈ dedup found, ∀ field ∈ m.matchedFields,
        ∃ n ∈ found, n.key = m.key ∧ field ∈ n.matchedFields) ∧
      ∀ more, dedup (dedup found ++ more) = dedup (found ++ more) := by
  refine ⟨map_key_dedup found, dedup_of_unique, fun m member => ?_, fun n => dedup_keeps,
    fun m member field => mem_fields_dedup member, fun more => ?_⟩
  · obtain ⟨first, later, parts, rfl⟩ := mem_dedup member
    exact ⟨first, later, parts, foldl_absorb_merged first later⟩
  · rw [dedup_append, dedup_append, dedup_of_unique (dedup_unique found)]

/-- Two notes on a case, of which the first is made again, and a contact between them. -/
def caseNotes : List Match :=
  let status : FieldMatch := ⟨"Status", "equals", some "Open", .text "Open", true⟩
  let priority : FieldMatch := ⟨"Priority", "not_null", none, .text "Low", true⟩
  [⟨"Case", "500", none, [status], some "first;"⟩, ⟨"Contact", "003", none, [], none⟩,
    ⟨"Case", "500", some "500", [status, priority], some ""⟩,
    ⟨"Case", "500", some "501", [], some "first;"⟩]

/-- A message which ends like a separator begins and an empty one are joined and told again. -/
theorem dedup_caseNotes :
    (∀ told ∈ caseNotes.filterMap (·.message), Text.Unseparated told) ∧
      ∃ m ∈ dedup caseNotes, m.key = ("Case", "500") ∧ m.message = some "first;; " := by
  have whole : ∀ told ∈ caseNotes.filterMap (·.message), Text.Unseparated told := by
    unfold Text.Unseparated
    decide +kernel
  obtain ⟨-, -, merges, -, -, -⟩ := dedup_exact caseNotes
  have listed : ("Case", "500") ∈ (dedup caseNotes).map key := by decide +kernel
  obtain ⟨m, member, named⟩ := List.mem_map.mp listed
  obtain ⟨first, later, parts, merged⟩ := merges m member
  have shown : (first :: later).filterMap (·.message) = ["first;", "", "first;"] := by
    rw [← parts, named]
    rfl
  refine ⟨whole, m, member, named, ?_⟩
  rw [merged.message fun told among => whole told ?_, shown]
  · rfl
  · rw [shown] at among
    exact among

/-- A separator within a message makes a part of it look like a message told before. -/
example :
    (dedup [⟨"Case", "500", none, [], some "a; b"⟩, ⟨"Case", "500", none, [], some "b"⟩]).map
      (·.message) = [some "a; b"] := by
  decide +kernel

end Match

end Dossier
