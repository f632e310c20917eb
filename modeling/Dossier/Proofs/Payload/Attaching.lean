import Dossier.Proofs.Layout
import Dossier.Proofs.Payload.Annotation

/-!
All that is attached to a payload.

A rendered payload has no alerts.  After attaching, each record has those which have a match of it,
each field has those whose match names it, and nothing else is changed.  What is attached is told
without going through the alerts one after the other: the findings of a record are the alerts which
have a match of it, and everything else is read off them.
-/

namespace Dossier

section Listed

variable {α : Type}

/-- A list which is absent rather than empty. -/
def listed (items : List α) : Option (List α) :=
  if items.isEmpty then none else some items

theorem listed_getD (items : List α) : (listed items).getD [] = items := by
  cases items <;> rfl

theorem listed_concat (items : List α) (item : α) :
    listed (items ++ [item]) = some (items ++ [item]) := by
  simp [listed]

variable [BEq α]

theorem pushNew_listed (item : α) (items : List α) :
    pushNew item (listed (distinct items)) = listed (distinct (items ++ [item])) := by
  rw [pushNew, listed_getD, distinct_concat]
  split
  · rename_i present
    cases shape : distinct items with
    | nil => simp [shape] at present
    | cons first rest => rfl
  · exact (listed_concat _ _).symm

/-- Pushing items on an absent list lists the different ones of them. -/
theorem foldl_pushNew (items : List α) :
    items.foldl (fun list item => pushNew item list) none = listed (distinct items) := by
  induction items using List.reverseRecOn with
  | nil => rfl
  | append_singleton items last ih =>
      rw [List.foldl_append, ih]
      exact pushNew_listed last items

end Listed

namespace Triggered

/-- The alerts which have a match of a record, each with its match. -/
def findings (triggered : List Triggered) (object key : String) : List (Triggered × Match) :=
  triggered.filterMap fun alert => (alert.found.find? (·.key == (object, key))).map (alert, ·)

theorem findings_concat (triggered : List Triggered) (last : Triggered) (object key : String) :
    findings (triggered ++ [last]) object key =
      findings triggered object key ++
        ((last.found.find? (·.key == (object, key))).map (last, ·)).toList := by
  simp only [findings, List.filterMap_append]
  cases found : last.found.find? (·.key == (object, key)) <;> simp [found]

end Triggered

namespace FieldEntry

/-- An entry with the alerts whose match names its field. -/
def marked (findings : List (Triggered × Match)) (entry : FieldEntry) : FieldEntry :=
  { entry with
    alerts := listed ((findings.filter fun (_, m) =>
      m.matchedFields.any (·.name == entry.name)).map fun (alert, _) => alert.id)
    alertDetails := listed (distinct (findings.flatMap fun (alert, m) =>
      (m.matchedFields.filter (·.name == entry.name)).map alert.fieldAlert)) }

/-- Hidden entries of the matched fields which have none, with the values which matched first. -/
def unshown (entries : List FieldEntry) (fields : List FieldMatch) : List FieldEntry :=
  (distinct ((fields.map (·.name)).filter fun name => !entries.any (·.name == name))).map
    fun name => plain name (((fields.find? (·.name == name)).map (·.actualValue)).getD .null) true

def markedAll (findings : List (Triggered × Match)) (entries : List FieldEntry) :
    List FieldEntry :=
  (entries ++ unshown entries (findings.flatMap fun (_, m) => m.matchedFields)).map
    (marked findings)

/-- An entry after these fields were matched, each by an alert. -/
def noted (marks : List (Triggered × FieldMatch)) (entry : FieldEntry) : FieldEntry :=
  let own := marks.filter (·.2.name == entry.name)
  { entry with
    alerts := listed (distinct (own.map (·.1.id)))
    alertDetails := listed (distinct (own.map fun (alert, field) => alert.fieldAlert field)) }

section Fields

variable {entries : List FieldEntry}

theorem any_name_iff {entries : List FieldEntry} {name : String} :
    entries.any (·.name == name) = true ↔ name ∈ entries.map (·.name) := by
  simp [List.any_eq_true]

theorem unshown_names (entries : List FieldEntry) (fields : List FieldMatch) :
    (unshown entries fields).map (·.name) =
      distinct ((fields.map (·.name)).filter fun name => !entries.any (·.name == name)) := by
  simp [unshown, Function.comp_def, plain]

theorem mem_unshown_names {fields : List FieldMatch} {name : String} :
    name ∈ (unshown entries fields).map (·.name) ↔
      name ∈ fields.map (·.name) ∧ name ∉ entries.map (·.name) := by
  rw [unshown_names, mem_distinct, List.mem_filter, Bool.not_eq_true', ← Bool.not_eq_true,
    any_name_iff]

theorem names_unique (unique : (entries.map (·.name)).Nodup) (fields : List FieldMatch) :
    ((entries ++ unshown entries fields).map (·.name)).Nodup := by
  rw [List.map_append, List.nodup_append']
  refine ⟨unique, ?_, fun name shown added => (mem_unshown_names.mp added).2 shown⟩
  rw [unshown_names]
  exact nodup_distinct _

/-- One more matched field adds an entry if there is none of its name yet. -/
theorem unshown_concat (entries : List FieldEntry) (fields : List FieldMatch) (field : FieldMatch) :
    unshown entries (fields ++ [field]) =
      if (entries ++ unshown entries fields).any (·.name == field.name) then unshown entries fields
      else unshown entries fields ++ [plain field.name field.actualValue true] := by
  have kept : ∀ name ∈ distinct ((fields.map (·.name)).filter fun name =>
      !entries.any (·.name == name)),
      (fields ++ [field]).find? (·.name == name) = fields.find? (·.name == name) := by
    intro name listed
    obtain ⟨other, member, named⟩ :=
      List.mem_map.mp (List.mem_filter.mp (mem_distinct.mp listed)).1
    have found : (fields.find? (·.name == name)).isSome :=
      List.find?_isSome.mpr ⟨other, member, beq_iff_eq.mpr named⟩
    rw [List.find?_append, Option.or_of_isSome found]
  have earlier : (distinct ((fields.map (·.name)).filter fun name =>
      !entries.any (·.name == name))).map (fun name => plain name
        ((((fields ++ [field]).find? (·.name == name)).map (·.actualValue)).getD .null) true) =
          unshown entries fields :=
    List.map_congr_left fun name listed => by rw [kept name listed]
  rw [unshown, List.map_append, List.filter_append, List.any_append]
  by_cases shown : entries.any (·.name == field.name) = true
  · simpa [shown] using earlier
  · have single : ([field].map (·.name)).filter (fun name => !entries.any (·.name == name)) =
        [field.name] := by simp [shown]
    have known : (unshown entries fields).any (·.name == field.name) =
        (distinct ((fields.map (·.name)).filter fun name =>
          !entries.any (·.name == name))).contains field.name := by
      rw [Bool.eq_iff_iff, any_name_iff, unshown_names, List.contains_iff_mem]
    rw [single, distinct_concat, Bool.eq_false_iff.mpr shown, Bool.false_or, known]
    split
    · exact earlier
    · rename_i new
      have absent : fields.find? (·.name == field.name) = none := by
        refine List.find?_eq_none.mpr fun other member named => new ?_
        refine List.contains_iff_mem.mpr (mem_distinct.mpr (List.mem_filter.mpr
          ⟨?_, by simpa using shown⟩))
        exact List.mem_map.mpr ⟨other, member, eq_of_beq named⟩
      rw [List.map_append, earlier, List.map_singleton, List.find?_append, absent]
      simp

theorem noted_concat (marks : List (Triggered × FieldMatch)) (alert : Triggered)
    (field : FieldMatch) (entry : FieldEntry) :
    noted (marks ++ [(alert, field)]) entry =
      if entry.name == field.name then annotate alert field (noted marks entry)
      else noted marks entry := by
  by_cases own : entry.name = field.name
  · have same : (field.name == entry.name) = true := beq_iff_eq.mpr own.symm
    rw [if_pos (beq_iff_eq.mpr own)]
    simp only [noted, annotate, List.filter_append, List.filter_singleton, same, cond_true,
      List.map_append, List.map_singleton, pushNew_listed]
  · have apart : (field.name == entry.name) = false := beq_false_of_ne (Ne.symm own)
    rw [if_neg (by simpa using own)]
    simp only [noted, List.filter_append, List.filter_singleton, apart, cond_false, List.append_nil]

theorem updateFirst_noted (unique : (entries.map (·.name)).Nodup)
    (marks : List (Triggered × FieldMatch)) (alert : Triggered) (field : FieldMatch) :
    updateFirst (·.name == field.name) (annotate alert field) (entries.map (noted marks)) =
      entries.map (noted (marks ++ [(alert, field)])) := by
  have only : (entries.map (noted marks)).Pairwise fun entry later =>
      ¬((entry.name == field.name) = true ∧ (later.name == field.name) = true) := by
    rw [List.pairwise_map]
    exact (List.pairwise_map.mp unique).imp fun apart both =>
      apart ((eq_of_beq both.1).trans (eq_of_beq both.2).symm)
  rw [updateFirst_eq_map _ only, List.map_map]
  exact List.map_congr_left fun entry _ => (noted_concat marks alert field entry).symm

/-- One more field is noted on the entry of its name, which is added if it is not there. -/
theorem annotateAll_noted (unique : (entries.map (·.name)).Nodup)
    {marks : List (Triggered × FieldMatch)}
    (known : ∀ mark ∈ marks, mark.2.name ∈ entries.map (·.name)) (alert : Triggered)
    (field : FieldMatch) :
    annotateAll alert (entries.map (noted marks)) field =
      (if entries.any (·.name == field.name) then entries
        else entries ++ [plain field.name field.actualValue true]).map
          (noted (marks ++ [(alert, field)])) := by
  have names : (entries.map (noted marks)).any (·.name == field.name) =
      entries.any (·.name == field.name) := List.any_map
  rw [annotateAll, names]
  split
  · exact updateFirst_noted unique marks alert field
  · rename_i new
    have absent : field.name ∉ entries.map (·.name) := fun shown => new (any_name_iff.mpr shown)
    have unmarked : marks.filter (·.2.name == field.name) = [] := by
      refine List.filter_eq_nil_iff.mpr fun mark member named => absent ?_
      exact eq_of_beq named ▸ known mark member
    have bare : noted marks (plain field.name field.actualValue true) =
        plain field.name field.actualValue true := by
      simp [noted, plain, unmarked, listed, distinct]
    have longer : ((entries ++ [plain field.name field.actualValue true]).map (·.name)).Nodup := by
      rw [List.map_append, List.map_singleton, ← List.concat_eq_append]
      exact List.Nodup.concat absent unique
    have whole : entries.map (noted marks) ++ [plain field.name field.actualValue true] =
        (entries ++ [plain field.name field.actualValue true]).map (noted marks) := by
      rw [List.map_append, List.map_singleton, bare]
    exact whole ▸ updateFirst_noted longer marks alert field

/-- Fields which are matched one after the other leave every entry with its own. -/
theorem foldl_annotateAll (unique : (entries.map (·.name)).Nodup)
    (bare : ∀ entry ∈ entries, entry.alerts = none ∧ entry.alertDetails = none)
    (marks : List (Triggered × FieldMatch)) :
    marks.foldl (fun entries mark => annotateAll mark.1 entries mark.2) entries =
      (entries ++ unshown entries (marks.map (·.2))).map (noted marks) := by
  induction marks using List.reverseRecOn with
  | nil =>
      have plain : ∀ entry ∈ entries, noted [] entry = entry := by
        intro entry member
        obtain ⟨alerts, details⟩ := bare entry member
        cases entry
        simp_all [noted, listed, distinct]
      have nothing : entries ++ unshown entries [] = entries := List.append_nil _
      rw [List.map_nil, nothing]
      exact ((List.map_congr_left plain).trans (List.map_id' _)).symm
  | append_singleton marks last ih =>
      obtain ⟨alert, field⟩ := last
      have known : ∀ mark ∈ marks,
          mark.2.name ∈ (entries ++ unshown entries (marks.map (·.2))).map (·.name) := by
        intro mark member
        rw [List.map_append, List.mem_append, or_iff_not_imp_left]
        intro absent
        refine mem_unshown_names.mpr ⟨?_, absent⟩
        exact List.mem_map_of_mem (List.mem_map_of_mem member)
      have longer : (marks ++ [(alert, field)]).map (·.2) = marks.map (·.2) ++ [field] := by simp
      rw [List.foldl_append, ih, List.foldl_cons, List.foldl_nil,
        annotateAll_noted (names_unique unique _) known, longer, unshown_concat]
      split <;> simp

end Fields

/-- The matched fields of the findings, each with its alert. -/
def marksOf (findings : List (Triggered × Match)) : List (Triggered × FieldMatch) :=
  findings.flatMap fun (alert, m) => m.matchedFields.map (alert, ·)

theorem marksOf_fields (findings : List (Triggered × Match)) :
    (marksOf findings).map (·.2) = findings.flatMap fun (_, m) => m.matchedFields := by
  simp [marksOf, List.map_flatMap, Function.comp_def]

theorem noted_marksOf {findings : List (Triggered × Match)}
    (ids : (findings.map (·.1.id)).Nodup) (entry : FieldEntry) :
    noted (marksOf findings) entry = marked findings entry := by
  have own : (marksOf findings).filter (·.2.name == entry.name) =
      findings.flatMap fun (alert, m) =>
        (m.matchedFields.filter (·.name == entry.name)).map (alert, ·) := by
    simp [marksOf, List.filter_flatMap, List.filter_map, Function.comp_def]
  have alerts : distinct (((marksOf findings).filter (·.2.name == entry.name)).map (·.1.id)) =
      (findings.filter fun (_, m) =>
        m.matchedFields.any (·.name == entry.name)).map fun (alert, _) => alert.id := by
    have blocks := distinct_blocks (fun finding : Triggered × Match => finding.1.id)
      (fun finding => finding.2.matchedFields.filter (·.name == entry.name)) ids
    have filled : ∀ finding : Triggered × Match,
        (!(finding.2.matchedFields.filter (·.name == entry.name)).isEmpty) =
          finding.2.matchedFields.any (·.name == entry.name) := by
      intro finding
      rw [Bool.eq_iff_iff]
      simp [List.filter_eq_nil_iff]
    simp only [filled] at blocks
    rw [own, ← blocks, List.map_flatMap]
    simp [Function.comp_def]
  have details : ((marksOf findings).filter (·.2.name == entry.name)).map
      (fun (alert, field) => alert.fieldAlert field) =
        findings.flatMap fun (alert, m) =>
          (m.matchedFields.filter (·.name == entry.name)).map alert.fieldAlert := by
    rw [own, List.map_flatMap]
    simp [Function.comp_def]
  simp only [noted, marked, alerts, details]

theorem foldl_marksOf {entries : List FieldEntry} (unique : (entries.map (·.name)).Nodup)
    (bare : ∀ entry ∈ entries, entry.alerts = none ∧ entry.alertDetails = none)
    {findings : List (Triggered × Match)} (ids : (findings.map (·.1.id)).Nodup) :
    (marksOf findings).foldl (fun entries mark => annotateAll mark.1 entries mark.2) entries =
      markedAll findings entries := by
  rw [foldl_annotateAll unique bare, marksOf_fields, markedAll]
  exact List.map_congr_left fun entry _ => noted_marksOf ids entry

end FieldEntry

namespace RecordPayload

variable {record : RecordPayload} {findings : List (Triggered × Match)}

/-- A record with the alerts which found it, and with what they found. -/
def marked (findings : List (Triggered × Match)) (record : RecordPayload) : RecordPayload :=
  { record with
    alerts := listed (findings.map fun (alert, _) => alert.id)
    alertDetails := listed (findings.map fun (alert, m) => alert.recordAlert m)
    fields := FieldEntry.markedAll findings record.fields }

/-- A record as it is rendered: nothing is attached to it, and it has each field once. -/
structure Bare (record : RecordPayload) : Prop where
  alerts : record.alerts = none
  alertDetails : record.alertDetails = none
  names : (record.fields.map (·.name)).Nodup
  entries : ∀ entry ∈ record.fields, entry.alerts = none ∧ entry.alertDetails = none

/-- The lists and the fields of a record are annotated apart from each other. -/
theorem foldl_annotate (findings : List (Triggered × Match)) (record : RecordPayload) :
    findings.foldl (fun record finding => record.annotate finding.1 finding.2) record =
      { record with
        alerts := (findings.map (·.1.id)).foldl (fun list id => pushNew id list) record.alerts
        alertDetails := (findings.map fun (alert, m) => alert.recordAlert m).foldl
          (fun list detail => pushNew detail list) record.alertDetails
        fields := (FieldEntry.marksOf findings).foldl
          (fun entries mark => FieldEntry.annotateAll mark.1 entries mark.2) record.fields } := by
  induction findings generalizing record with
  | nil => rfl
  | cons finding rest ih =>
      rw [List.foldl_cons, ih]
      simp [annotate, FieldEntry.marksOf, List.foldl_map]

/-- What alerts say of a record differs where the alerts do. -/
theorem distinct_recordAlerts (ids : (findings.map (·.1.id)).Nodup) :
    distinct (findings.map fun (alert, m) => alert.recordAlert m) =
      findings.map fun (alert, m) => alert.recordAlert m := by
  apply distinct_of_apart
  rw [List.pairwise_map]
  refine (List.pairwise_map.mp ids).imp fun {earlier later} apart => ?_
  have different : (later.1.id == earlier.1.id) = false := beq_false_of_ne (Ne.symm apart)
  have first : ((later.1.recordAlert later.2) == (earlier.1.recordAlert earlier.2)) =
      (later.1.id == earlier.1.id && later.1.label == earlier.1.label &&
        later.2.matchedFields == earlier.2.matchedFields &&
          later.2.message == earlier.2.message) := rfl
  rw [first, different]
  rfl

theorem foldl_annotate_bare (bare : record.Bare) (ids : (findings.map (·.1.id)).Nodup) :
    findings.foldl (fun record finding => record.annotate finding.1 finding.2) record =
      record.marked findings := by
  rw [foldl_annotate, bare.alerts, bare.alertDetails, foldl_pushNew, foldl_pushNew,
    distinct_of_nodup ids, distinct_recordAlerts ids,
    FieldEntry.foldl_marksOf bare.names bare.entries ids]
  rfl

/-- Of matches which are all about different records, at most one is noted. -/
theorem foldl_note {found : List Match} (apart : (found.map (·.key)).Nodup) (object : String)
    (alert : Triggered) (record : RecordPayload) :
    found.foldl (note object alert) record =
      ((found.find? (·.key == (object, record.recordKey))).map (alert, ·)).toList.foldl
        (fun record finding => record.annotate finding.1 finding.2) record := by
  induction found generalizing record with
  | nil => rfl
  | cons m rest ih =>
      obtain ⟨new, others⟩ := List.nodup_cons.mp apart
      rw [List.foldl_cons, ih others, (Kept.note object alert record m).recordKey, List.find?_cons]
      by_cases own : m.key = (object, record.recordKey)
      · have unmatched : rest.find? (·.key == (object, record.recordKey)) = none := by
          refine List.find?_eq_none.mpr fun other member named => new ?_
          exact List.mem_map.mpr ⟨other, member, (eq_of_beq named).trans own.symm⟩
        simp [unmatched, own, note]
      · have other : (m.key == (object, record.recordKey)) = false := beq_false_of_ne own
        simp [other, own, note]

/-- A record is annotated with its findings, one after the other. -/
theorem noteAll_eq_foldl {triggered : List Triggered}
    (apart : ∀ alert ∈ triggered, (alert.found.map (·.key)).Nodup) (object : String)
    (record : RecordPayload) :
    record.noteAll object triggered =
      (Triggered.findings triggered object record.recordKey).foldl
        (fun record finding => record.annotate finding.1 finding.2) record := by
  induction triggered using List.reverseRecOn with
  | nil => rfl
  | append_singleton triggered last ih =>
      have earlier := ih fun alert member => apart alert (List.mem_append_left _ member)
      have latest := foldl_note (apart last (List.mem_append_right _ (List.mem_singleton_self _)))
        object last (record.noteAll object triggered)
      rw [(Kept.noteAll object triggered record).recordKey] at latest
      have whole : record.noteAll object (triggered ++ [last]) =
          last.found.foldl (note object last) (record.noteAll object triggered) := by
        rw [noteAll, List.foldl_append]
        rfl
      rw [whole, latest, earlier, Triggered.findings_concat, List.foldl_append]

theorem findings_ids {triggered : List Triggered} (ids : (triggered.map (·.id)).Nodup)
    (object key : String) : ((Triggered.findings triggered object key).map (·.1.id)).Nodup := by
  have kept : ((Triggered.findings triggered object key).map (·.1)).Sublist triggered := by
    rw [Triggered.findings, List.map_filterMap]
    simp only [Option.map_map, Function.comp_def]
    induction triggered with
    | nil => exact .slnil
    | cons alert rest ih =>
        rw [List.filterMap_cons]
        cases alert.found.find? (·.key == (object, key)) with
        | none => exact (ih (List.nodup_cons.mp ids).2).cons _
        | some m => exact (ih (List.nodup_cons.mp ids).2).cons_cons _
  have names : (Triggered.findings triggered object key).map (·.1.id) =
      ((Triggered.findings triggered object key).map (·.1)).map (·.id) := by simp
  exact names ▸ ids.sublist (kept.map _)

/-- A rendered record is marked with all that was found of it. -/
theorem noteAll_eq_marked (bare : record.Bare) {triggered : List Triggered}
    (ids : (triggered.map (·.id)).Nodup)
    (apart : ∀ alert ∈ triggered, (alert.found.map (·.key)).Nodup) (object : String) :
    record.noteAll object triggered =
      record.marked (Triggered.findings triggered object record.recordKey) := by
  rw [noteAll_eq_foldl apart, foldl_annotate_bare bare (findings_ids ids object record.recordKey)]

end RecordPayload

namespace AccountPayload

variable {payload : AccountPayload}

/-- The account as a record among others: its own fields, and what is said of it. -/
def own (payload : AccountPayload) : RecordPayload :=
  ⟨some payload.id, payload.recordKey, payload.fields, none, payload.alertDetails, none⟩

/-- What an account and a record have in common. -/
structure Like (payload : AccountPayload) (record : RecordPayload) : Prop where
  recordKey : payload.recordKey = record.recordKey
  fields : payload.fields = record.fields
  alertDetails : payload.alertDetails = record.alertDetails

theorem Like.annotate {record : RecordPayload} (like : Like payload record) (alert : Triggered)
    (m : Match) : Like (payload.annotate alert m) (record.note EntityType.account alert m) := by
  have same : (m.object == EntityType.account && m.recordKey == payload.recordKey) = true ↔
      m.key = (EntityType.account, record.recordKey) := by
    simp [Match.key, like.recordKey]
  unfold AccountPayload.annotate RecordPayload.note
  by_cases matched : m.key = (EntityType.account, record.recordKey)
  · rw [if_pos (same.mpr matched), if_pos matched]
    exact ⟨like.recordKey, by rw [RecordPayload.annotate, like.fields],
      by rw [RecordPayload.annotate, like.alertDetails]⟩
  · rw [if_neg (mt same.mp matched), if_neg matched]
    exact ⟨like.recordKey, like.fields, like.alertDetails⟩

/-- The account is annotated as a record of its type would be. -/
theorem foldl_annotate_like (triggered : List Triggered) :
    Like (triggered.foldl (fun payload alert => alert.found.foldl (annotate alert) payload) payload)
      (payload.own.noteAll EntityType.account triggered) := by
  have each : ∀ (alert : Triggered) (payload : AccountPayload) (record : RecordPayload),
      Like payload record → Like (alert.found.foldl (annotate alert) payload)
        (alert.found.foldl (RecordPayload.note EntityType.account alert) record) := by
    intro alert
    induction alert.found with
    | nil => exact fun _ _ like => like
    | cons m rest ih => exact fun payload record like => ih _ _ (like.annotate alert m)
  have all : ∀ (payload : AccountPayload) (record : RecordPayload), Like payload record →
      Like (triggered.foldl (fun payload alert => alert.found.foldl (annotate alert) payload) payload)
        (record.noteAll EntityType.account triggered) := by
    induction triggered with
    | nil => exact fun _ _ like => like
    | cons alert rest ih => exact fun payload record like => ih _ _ (each alert payload record like)
  exact all payload payload.own ⟨rfl, rfl, rfl⟩

theorem attachAlerts_recordKey (payload : AccountPayload) (triggered : List Triggered) :
    (payload.attachAlerts triggered).recordKey = payload.recordKey := by
  obtain ⟨recordKey, -, -⟩ := @foldl_annotate_like payload triggered
  rw [(RecordPayload.Kept.noteAll _ triggered payload.own).recordKey] at recordKey
  unfold attachAlerts
  split <;> exact recordKey

/-- Whatever becomes of the records, this is what attaching leaves of an account, and adds to it. -/
theorem attachAlerts_own (plain : payload.alerts = none) (triggered : List Triggered) :
    payload.attachAlerts triggered =
      { payload with
        fields := (payload.own.noteAll EntityType.account triggered).fields
        alerts := listed triggered
        alertDetails := (payload.own.noteAll EntityType.account triggered).alertDetails
        related := (payload.attachAlerts triggered).related } := by
  obtain ⟨id, alerts⟩ := foldl_annotate triggered payload
  obtain ⟨recordKey, fields, alertDetails⟩ := @foldl_annotate_like payload triggered
  rw [(RecordPayload.Kept.noteAll _ triggered payload.own).recordKey] at recordKey
  unfold attachAlerts listed
  generalize triggered.foldl (fun payload alert => alert.found.foldl (annotate alert) payload)
    payload = annotated at id alerts recordKey fields alertDetails ⊢
  cases annotated
  split <;> simp_all [own]

theorem attachAlerts_eq (plain : payload.alerts = none) (addressed : Addressed payload.related)
    (triggered : List Triggered) :
    payload.attachAlerts triggered =
      { payload with
        fields := (payload.own.noteAll EntityType.account triggered).fields
        alerts := listed triggered
        alertDetails := (payload.own.noteAll EntityType.account triggered).alertDetails
        related := mapRecords (fun object record => record.noteAll object triggered)
          payload.related } := by
  rw [attachAlerts_own plain, attachAlerts_related addressed]

end AccountPayload

namespace ObjectLayout

variable {layout : ObjectLayout}

/-- What is rendered of a record has nothing attached, and each field once. -/
theorem fieldEntries_bare (shown : (Record.idField :: layout.displayFields).Nodup) (record : Record) :
    ((layout.fieldEntries record).map (·.name)).Nodup ∧
      ∀ entry ∈ layout.fieldEntries record, entry.alerts = none ∧ entry.alertDetails = none := by
  have names : (layout.fieldEntries record).map (·.name) =
      (Record.idField :: layout.displayFields) ++ distinct (layout.linkFields.filter fun field =>
        !(Record.idField :: layout.displayFields).contains field) := by
    simp [fieldEntries, FieldEntry.plain, Function.comp_def]
  refine ⟨?_, fun entry member => ?_⟩
  · rw [names, List.nodup_append']
    refine ⟨shown, nodup_distinct _, fun field listed linked => ?_⟩
    have other := (List.mem_filter.mp (mem_distinct.mp linked)).2
    simp only [List.contains_iff_mem.mpr listed, Bool.not_true, Bool.false_eq_true] at other
  · rcases List.mem_append.mp member with listed | linked
    · obtain ⟨field, -, rfl⟩ := List.mem_map.mp listed
      exact ⟨rfl, rfl⟩
    · obtain ⟨field, -, rfl⟩ := List.mem_map.mp linked
      exact ⟨rfl, rfl⟩

theorem render_bare (shown : (Record.idField :: layout.displayFields).Nodup) (record : GraphRecord) :
    (layout.render record).Bare := by
  obtain ⟨names, entries⟩ := fieldEntries_bare shown record.record
  exact ⟨rfl, rfl, names, entries⟩

end ObjectLayout

namespace Layout

/-- Attaching is exact: every displayed record, the account and each of their fields have the alerts
with a match of them, and nothing else is changed. -/
theorem attachAlerts_exact {config : Config} {plans : List (String × ObjectPlan)}
    (valid : config.registry.validate = .ok ())
    (planned : ∀ entry ∈ plans, ∃ config object available,
      entry.2 = ObjectPlan.make config object available)
    {graph : AccountGraph} (keys : ∀ object, ((graph.records object).map (·.key)).Nodup)
    {triggered : List Triggered} (ids : (triggered.map (·.id)).Nodup)
    (apart : ∀ alert ∈ triggered, (alert.found.map (·.key)).Nodup) :
    let layout := Layout.make config plans
    let own := Triggered.findings triggered EntityType.account graph.account.key
    (layout.render graph).attachAlerts triggered =
      { id := graph.accountId
        recordKey := graph.account.key
        fields := FieldEntry.markedAll own (layout.account.fieldEntries graph.account.record)
        alerts := listed triggered
        alertDetails := listed (own.map fun (alert, m) => alert.recordAlert m)
        related := layout.visible.map fun object =>
          (object.key, (graph.records object.key).map fun record =>
            (object.render record).marked
              (Triggered.findings triggered object.key record.key)) } := by
  intro layout own
  have sound := Registry.validate_eq_ok.mp valid
  have others : EntityType.account ∉ layout.visible.map (·.key) := by
    intro listed
    obtain ⟨object, visible, named⟩ := List.mem_map.mp listed
    obtain ⟨type, linked, called⟩ := List.mem_map.mp (visible_linked object visible)
    exact sound.linked_ne_account linked (called.trans named)
  have addressed : Addressed (layout.render graph).related :=
    render_addressed visible_unique others fun object _ => keys object.key
  have account : (layout.render graph).own.noteAll EntityType.account triggered =
      (layout.render graph).own.marked own := by
    obtain ⟨names, entries⟩ := ObjectLayout.fieldEntries_bare
      (ofObject_displayFields planned EntityType.account false) graph.account.record
    exact RecordPayload.noteAll_eq_marked ⟨rfl, rfl, names, entries⟩ ids apart EntityType.account
  have records : AccountPayload.mapRecords (fun object record => record.noteAll object triggered)
      (layout.render graph).related =
        layout.visible.map fun object =>
          (object.key, (graph.records object.key).map fun record =>
            (object.render record).marked
              (Triggered.findings triggered object.key record.key)) := by
    rw [render, AccountPayload.mapRecords, List.map_map]
    refine List.map_congr_left fun object visible => congrArg (Prod.mk object.key) ?_
    obtain ⟨key, hidden, made⟩ := mem_visible object visible
    rw [List.map_map]
    refine List.map_congr_left fun record _ => ?_
    have bare := ObjectLayout.render_bare (made ▸ ofObject_displayFields planned key hidden) record
    exact RecordPayload.noteAll_eq_marked bare ids apart object.key
  rw [AccountPayload.attachAlerts_eq rfl addressed, account, records]
  rfl

/-- What a record tells of an alert: which one it is, the fields which matched, and its message. -/
theorem marked_recordAlerts (findings : List (Triggered × Match)) (record : RecordPayload) :
    (record.marked findings).alertDetails = listed (findings.map fun (alert, m) =>
      { alertId := alert.id
        label := alert.label
        matchedFields := m.matchedFields
        message := m.message }) :=
  rfl

/-- What a field tells of an alert: which one it is, what was asked of the field, and what it holds. -/
theorem marked_fieldAlerts (findings : List (Triggered × Match)) (entry : FieldEntry) :
    (entry.marked findings).alertDetails = listed (distinct (findings.flatMap fun (alert, m) =>
      (m.matchedFields.filter (·.name == entry.name)).map fun field =>
        { alertId := alert.id
          operator := field.operator
          filterValue := field.filterValue
          actualValue := field.actualValue
          matched := field.matched })) :=
  rfl

/-- Two cases of an account, of which the owner is not displayed. -/
def ownedCases : AccountGraph :=
  ⟨"001", ⟨"001", Record.empty, []⟩, [("Case", [
    ⟨"500", ⟨[("Owner", .text "Ann"), ("Status", .text "Open")]⟩, []⟩,
    ⟨"501", ⟨[("Owner", .text "Bob"), ("Status", .text "Closed")]⟩, []⟩])]⟩

def casePlans : List (String × ObjectPlan) :=
  [("Case", ObjectPlan.make Config.empty "Case" ["Id", "Status"])]

/-- An alert on an open case, on its account, and on a case of another account. -/
def openCase : Triggered :=
  ⟨"open", "Open", none, [
    ⟨"Case", "500", some "500", [⟨"Status", "EQUALS", some "Open", .text "Open", true⟩,
      ⟨"Owner", "NOT_BLANK", none, .text "Ann", true⟩], some "still open"⟩,
    ⟨"Account", "001", none, [], none⟩,
    ⟨"Case", "502", none, [⟨"Status", "EQUALS", some "Open", .text "Open", true⟩], none⟩]⟩

def ownedCase : Triggered :=
  ⟨"owned", "Owned", none, [
    ⟨"Case", "500", some "500", [⟨"Owner", "EQUALS", some "Ann", .text "Ann", true⟩,
      ⟨"Owner", "EQUALS", some "Ann", .text "Ann", true⟩], none⟩]⟩

/-- Both alerts are about one case and its owner, which is shown as a hidden field; the other case
has no alerts. -/
theorem attachAlerts_exact_openCase :
    Config.empty.registry.validate = .ok () ∧
      let payload := ((make Config.empty casePlans).render ownedCases).attachAlerts
        [openCase, ownedCase]
      payload.alertDetails.map (List.map (·.alertId)) = some ["open"] ∧
        (payload.records "Case").map (fun record => (record.recordKey, record.alerts)) =
          [("500", some ["open", "owned"]), ("501", none)] ∧
        (payload.records "Case").map (fun record => record.fields.map fun field =>
            (field.name, field.hidden, field.alerts, field.alertDetails.map List.length)) =
          [[("Id", false, none, none), ("Status", false, some ["open"], some 1),
              ("Owner", true, some ["open", "owned"], some 2)],
            [("Id", false, none, none), ("Status", false, none, none)]] := by
  have valid : Config.empty.registry.validate = .ok () := by decide +kernel
  have planned : ∀ entry ∈ casePlans, ∃ config object available,
      entry.2 = ObjectPlan.make config object available := by
    simp only [casePlans, List.forall_mem_singleton]
    exact ⟨_, _, _, rfl⟩
  have keys : ∀ object, ((ownedCases.records object).map (·.key)).Nodup := by
    intro object
    unfold AccountGraph.records
    split
    · exact List.nodup_singleton _
    · rw [ownedCases, List.lookup_cons]
      split
      · decide
      · exact .nil
  have attached := attachAlerts_exact valid planned keys
    (show ([openCase, ownedCase].map (·.id)).Nodup by decide)
    (show ∀ alert ∈ [openCase, ownedCase], (alert.found.map (·.key)).Nodup by decide)
  rw [attached]
  decide +kernel

end Layout

end Dossier
