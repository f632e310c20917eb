import Dossier.Payload.Annotate
import Dossier.Payload.Render
import Dossier.Proofs.Table

/-!
What annotating does to the records of a payload.

Every match looks for one record of one type.  Where types and keys are distinct, a payload is
therefore annotated record by record: each one by the matches of its own key, whatever becomes of the
others.
-/

namespace Dossier

theorem updateFirst_eq_map {α : Type} {p : α → Bool} (change : α → α) {items : List α}
    (only : items.Pairwise fun item later => ¬(p item = true ∧ p later = true)) :
    updateFirst p change items = items.map fun item => if p item then change item else item := by
  induction items with
  | nil => rfl
  | cons first rest ih =>
      obtain ⟨apart, others⟩ := List.pairwise_cons.mp only
      rw [updateFirst, List.map_cons]
      split
      · rename_i found
        have untouched : (rest.map fun item => if p item then change item else item) = rest := by
          refine (List.map_congr_left fun item member => ?_).trans (List.map_id rest)
          exact if_neg fun also => apart item member ⟨found, also⟩
        rw [untouched]
      · rw [ih others]

theorem lookup_updateFirst {κ α : Type} [BEq κ] [LawfulBEq κ] (key : κ) (change : α → α)
    (entries : List (κ × α)) (wanted : κ) :
    (updateFirst (·.1 == key) (fun entry => (entry.1, change entry.2)) entries).lookup wanted =
      if wanted == key then (entries.lookup wanted).map change else entries.lookup wanted := by
  induction entries with
  | nil => simp [updateFirst]
  | cons entry rest ih =>
      obtain ⟨name, value⟩ := entry
      rw [updateFirst]
      by_cases own : name = key
      · subst own
        simp only [BEq.rfl, if_true, List.lookup_cons]
        cases wanted == name <;> rfl
      · have other : (name == key) = false := beq_false_of_ne own
        simp only [other, Bool.false_eq_true, if_false, List.lookup_cons, ih]
        cases same : wanted == name with
        | false => rfl
        | true =>
            cases eq_of_beq same
            simp [other]

namespace FieldEntry

/-- The value under a name, where there is an entry. -/
def value? (entries : List FieldEntry) (name : String) : Option Json :=
  (entries.find? (·.name == name)).map (·.value)

theorem value?_updateFirst (entries : List FieldEntry) (alert : Triggered) (field : FieldMatch)
    (name : String) :
    value? (updateFirst (·.name == field.name) (annotate alert field) entries) name =
      value? entries name := by
  induction entries with
  | nil => rfl
  | cons entry rest ih =>
      rw [updateFirst]
      split
      · simp only [value?, List.find?_cons]
        have kept : (annotate alert field entry).name = entry.name := rfl
        rw [kept]
        cases entry.name == name <;> rfl
      · simp only [value?, List.find?_cons] at ih ⊢
        cases entry.name == name with
        | true => rfl
        | false => exact ih

/-- Entries keep their values; an entry is added only for a name which has none. -/
theorem value?_annotateAll {entries : List FieldEntry} {name : String}
    (present : (value? entries name).isSome) (alert : Triggered) (field : FieldMatch) :
    value? (annotateAll alert entries field) name = value? entries name := by
  rw [annotateAll, value?_updateFirst]
  split
  · rfl
  · have found : (entries.find? (·.name == name)).isSome := by
      simpa [value?] using present
    obtain ⟨entry, first⟩ := Option.isSome_iff_exists.mp found
    simp only [value?, List.find?_append, first, Option.some_or]

theorem value?_foldl {fields : List FieldMatch} {entries : List FieldEntry} {name : String}
    (present : (value? entries name).isSome) (alert : Triggered) :
    value? (fields.foldl (annotateAll alert) entries) name = value? entries name := by
  induction fields generalizing entries with
  | nil => rfl
  | cons field rest ih =>
      have kept := value?_annotateAll present alert field
      rw [List.foldl_cons, ih (by rw [kept]; exact present), kept]

end FieldEntry

namespace RecordPayload

/-- A record is annotated with the match if it is the one which was matched. -/
def note (object : String) (alert : Triggered) (record : RecordPayload) (m : Match) : RecordPayload :=
  if m.key = (object, record.recordKey) then record.annotate alert m else record

/-- A record with all that the alerts have found of it. -/
def noteAll (object : String) (triggered : List Triggered) (record : RecordPayload) : RecordPayload :=
  triggered.foldl (fun record alert => alert.found.foldl (note object alert) record) record

/-- What stays of a record whatever is found of it. -/
structure Kept (record noted : RecordPayload) : Prop where
  id : noted.id = record.id
  recordKey : noted.recordKey = record.recordKey
  linkSources : noted.linkSources = record.linkSources
  value? : ∀ name, (FieldEntry.value? record.fields name).isSome →
    FieldEntry.value? noted.fields name = FieldEntry.value? record.fields name

namespace Kept

variable {first second third : RecordPayload}

theorem refl (record : RecordPayload) : Kept record record :=
  ⟨rfl, rfl, rfl, fun _ _ => rfl⟩

theorem trans (before : Kept first second) (after : Kept second third) : Kept first third := by
  refine ⟨after.id.trans before.id, after.recordKey.trans before.recordKey,
    after.linkSources.trans before.linkSources, fun name present => ?_⟩
  have known := before.value? name present
  rw [after.value? name (by rw [known]; exact present), known]

theorem annotate (alert : Triggered) (record : RecordPayload) (m : Match) :
    Kept record (record.annotate alert m) :=
  ⟨rfl, rfl, rfl, fun _ present => FieldEntry.value?_foldl present alert⟩

theorem note (object : String) (alert : Triggered) (record : RecordPayload) (m : Match) :
    Kept record (record.note object alert m) := by
  unfold RecordPayload.note
  split
  · exact annotate alert record m
  · exact refl record

theorem foldl {α : Type} {step : RecordPayload → α → RecordPayload}
    (each : ∀ record item, Kept record (step record item)) (items : List α) (record : RecordPayload) :
    Kept record (items.foldl step record) := by
  induction items generalizing record with
  | nil => exact refl record
  | cons item rest ih => exact (each record item).trans (ih _)

theorem noteAll (object : String) (triggered : List Triggered) (record : RecordPayload) :
    Kept record (record.noteAll object triggered) :=
  foldl (fun record alert => foldl (note object alert) alert.found record) triggered record

end Kept

section Alerts

variable {object : String} {alert : Triggered} {record : RecordPayload}

theorem pushNew_pushNew (id : String) (ids : Option (List String)) :
    pushNew id (pushNew id ids) = pushNew id ids := by
  have present : id ∈ (pushNew id ids).getD [] := by
    unfold pushNew
    by_cases known : id ∈ ids.getD [] <;> simp [known]
  rw [pushNew, if_pos (List.contains_iff_mem.mpr present)]
  rfl

/-- A record lists an alert which has a match of its key, and once however many there are. -/
theorem foldl_note_alerts (found : List Match) (record : RecordPayload) :
    (found.foldl (note object alert) record).alerts =
      if found.any (·.key == (object, record.recordKey)) then pushNew alert.id record.alerts
      else record.alerts := by
  induction found generalizing record with
  | nil => rfl
  | cons m rest ih =>
      have same : (record.note object alert m).recordKey = record.recordKey :=
        (Kept.note object alert record m).recordKey
      rw [List.foldl_cons, ih, same, List.any_cons]
      by_cases own : m.key = (object, record.recordKey)
      · have listed : (record.note object alert m).alerts = pushNew alert.id record.alerts := by
          rw [note, if_pos own]
          rfl
        simp only [listed, own, BEq.rfl, Bool.true_or, if_true, pushNew_pushNew, ite_self]
      · have unlisted : (record.note object alert m).alerts = record.alerts := by
          rw [note, if_neg own]
        have apart : (m.key == (object, record.recordKey)) = false := beq_false_of_ne own
        rw [unlisted, apart, Bool.false_or]

/-- The identifiers of the alerts which have a match of this key. -/
def hits (object key : String) (triggered : List Triggered) : List String :=
  distinct ((triggered.filter fun alert => alert.found.any (·.key == (object, key))).map (·.id))

theorem noteAll_alerts (plain : record.alerts = none) (triggered : List Triggered) :
    (record.noteAll object triggered).alerts =
      if (hits object record.recordKey triggered).isEmpty then none
      else some (hits object record.recordKey triggered) := by
  induction triggered using List.reverseRecOn with
  | nil => exact plain
  | append_singleton triggered last ih =>
      have whole : record.noteAll object (triggered ++ [last]) =
          last.found.foldl (note object last) (record.noteAll object triggered) := by
        rw [noteAll, List.foldl_append]
        rfl
      have key := (Kept.noteAll object triggered record).recordKey
      have known : (record.noteAll object triggered).alerts.getD [] =
          hits object record.recordKey triggered := by
        rw [ih]
        split
        · rename_i empty
          exact (List.isEmpty_iff.mp empty).symm
        · rfl
      rw [whole, foldl_note_alerts, key]
      by_cases found : last.found.any (·.key == (object, record.recordKey)) = true
      · have longer : hits object record.recordKey (triggered ++ [last]) =
            if (hits object record.recordKey triggered).contains last.id then
              hits object record.recordKey triggered
            else hits object record.recordKey triggered ++ [last.id] := by
          rw [hits, List.filter_append, List.map_append, List.filter_singleton, found]
          exact distinct_concat _ _
        have pushed : pushNew last.id (record.noteAll object triggered).alerts =
            some (hits object record.recordKey (triggered ++ [last])) := by
          rw [pushNew, known, longer]
        have filled : (hits object record.recordKey (triggered ++ [last])).isEmpty = false := by
          rw [longer]
          split
          · rename_i present
            exact List.isEmpty_eq_false_iff.mpr
              (List.ne_nil_of_mem (List.contains_iff_mem.mp present))
          · simp
        rw [if_pos found, pushed, filled]
        rfl
      · have same : hits object record.recordKey (triggered ++ [last]) =
            hits object record.recordKey triggered := by
          rw [hits, List.filter_append, List.filter_singleton, Bool.eq_false_iff.mpr found]
          simp [hits]
        rw [if_neg found, ih, same]

end Alerts

end RecordPayload

namespace AccountPayload

/-- The records of all types are changed one by one. -/
def mapRecords (change : String → RecordPayload → RecordPayload)
    (related : List (String × List RecordPayload)) : List (String × List RecordPayload) :=
  related.map fun entry => (entry.1, entry.2.map (change entry.1))

variable {related : List (String × List RecordPayload)}

theorem mapRecords_mapRecords (change after : String → RecordPayload → RecordPayload) :
    mapRecords after (mapRecords change related) =
      mapRecords (fun object record => after object (change object record)) related := by
  simp [mapRecords, Function.comp_def]

theorem lookup_mapRecords (change : String → RecordPayload → RecordPayload) (object : String) :
    (mapRecords change related).lookup object =
      (related.lookup object).map (List.map (change object)) :=
  Table.lookup_map_snd related (fun object => List.map (change object)) object

theorem mapRecords_types (change : String → RecordPayload → RecordPayload) :
    (mapRecords change related).map (·.1) = related.map (·.1) := by
  simp [mapRecords, Function.comp_def]

end AccountPayload

open AccountPayload (mapRecords mapRecords_mapRecords mapRecords_types)

/-- Every record has an address: a type which is listed once, and a key which no other record of the
type has. -/
structure Addressed (related : List (String × List RecordPayload)) : Prop where
  types : (related.map (·.1)).Nodup
  others : EntityType.account ∉ related.map (·.1)
  keys : ∀ entry ∈ related, (entry.2.map (·.recordKey)).Nodup

/-- Where a match looks for the first record, there is but one. -/
theorem updateFirst_related {related : List (String × List RecordPayload)}
    (types : (related.map (·.1)).Nodup)
    (keys : ∀ entry ∈ related, (entry.2.map (·.recordKey)).Nodup) (alert : Triggered) (m : Match) :
    updateFirst (·.1 == m.object) (fun entry =>
        (entry.1, updateFirst (·.recordKey == m.recordKey) (RecordPayload.annotate alert m) entry.2))
        related =
      mapRecords (fun object record => record.note object alert m) related := by
  have types : related.Pairwise fun entry later =>
      ¬((entry.1 == m.object) = true ∧ (later.1 == m.object) = true) :=
    (List.pairwise_map.mp types).imp fun apart both =>
      apart ((eq_of_beq both.1).trans (eq_of_beq both.2).symm)
  rw [updateFirst_eq_map _ types, mapRecords]
  refine List.map_congr_left fun entry member => ?_
  have keys : entry.2.Pairwise fun record later =>
      ¬((record.recordKey == m.recordKey) = true ∧ (later.recordKey == m.recordKey) = true) :=
    (List.pairwise_map.mp (keys entry member)).imp fun apart both =>
      apart ((eq_of_beq both.1).trans (eq_of_beq both.2).symm)
  rw [updateFirst_eq_map _ keys]
  by_cases named : entry.1 = m.object
  · have noted : ∀ record : RecordPayload, record.note entry.1 alert m =
        if record.recordKey == m.recordKey then record.annotate alert m else record := by
      intro record
      simp only [RecordPayload.note, Match.key, named, Prod.mk.injEq, true_and, beq_iff_eq,
        @eq_comm _ m.recordKey]
    rw [List.map_congr_left fun record _ => noted record, if_pos (beq_iff_eq.mpr named)]
  · have apart : m.object ≠ entry.1 := Ne.symm named
    simp [RecordPayload.note, Match.key, named, apart]

namespace AccountPayload

open RecordPayload (note noteAll Kept)

/-- A payload in which records can be told apart: no type is there twice, and no key twice in a type;
and under the type of accounts there is nothing but the account. -/
structure Keyed (payload : AccountPayload) : Prop where
  types : (payload.related.map (·.1)).Nodup
  keys : ∀ entry ∈ payload.related, (entry.2.map (·.recordKey)).Nodup
  own : ∀ entry ∈ payload.related, entry.1 = EntityType.account → ∀ record ∈ entry.2,
    record.recordKey = payload.recordKey

variable {payload : AccountPayload}

theorem Keyed.of_addressed (addressed : Addressed payload.related) : payload.Keyed where
  types := addressed.types
  keys := addressed.keys
  own _ member account :=
    absurd (account ▸ List.mem_map_of_mem member) addressed.others

/-- Matches of the account are noted on the account, and not on a record of its type. -/
theorem annotate_related (keyed : payload.Keyed) (alert : Triggered) (m : Match) :
    (payload.annotate alert m).related = mapRecords (fun object record =>
      if object == EntityType.account then record else record.note object alert m)
        payload.related := by
  unfold annotate
  split
  · rename_i own
    have account : m.object = EntityType.account := eq_of_beq (Bool.and_eq_true_iff.mp own).1
    -- The match is noted with the account itself, and is about no record of another type.
    have untouched : ∀ entry ∈ payload.related, (entry.1, entry.2.map fun record =>
        if entry.1 == EntityType.account then record else record.note entry.1 alert m) = entry := by
      intro ⟨object, records⟩ _
      by_cases named : object = EntityType.account
      · simp [named]
      · have apart : m.object ≠ object := account ▸ Ne.symm named
        simp [named, RecordPayload.note, Match.key, apart]
    exact ((List.map_congr_left untouched).trans (List.map_id' _)).symm
  · rename_i other
    refine (updateFirst_related keyed.types keyed.keys alert m).trans ?_
    refine List.map_congr_left fun entry member => congrArg (Prod.mk entry.1) ?_
    refine List.map_congr_left fun record listed => ?_
    by_cases account : entry.1 = EntityType.account
    · have named := keyed.own entry member account record listed
      have apart : m.key ≠ (entry.1, record.recordKey) := by
        intro same
        obtain ⟨object, key⟩ := Prod.mk.inj same
        simp [object, key, account, named] at other
      simp [account, RecordPayload.note, account ▸ apart]
    · simp [account]

theorem annotate_keyed (keyed : payload.Keyed) (alert : Triggered) (m : Match) :
    (payload.annotate alert m).Keyed := by
  have related := annotate_related keyed alert m
  have named : ∀ (object : String) (record : RecordPayload),
      (if object == EntityType.account then record else record.note object alert m).recordKey =
        record.recordKey := by
    intro object record
    split
    · rfl
    · exact (Kept.note object alert record m).recordKey
  have recordKey : (payload.annotate alert m).recordKey = payload.recordKey := by
    unfold annotate
    split <;> rfl
  constructor
  · rw [related, mapRecords_types]
    exact keyed.types
  · rw [related]
    simp only [mapRecords, List.forall_mem_map, List.map_map, Function.comp_def, named]
    exact keyed.keys
  · rw [related, recordKey]
    simp only [mapRecords, List.forall_mem_map, named]
    exact keyed.own

/-- Steps which change all records, one after the other. -/
theorem foldl_related {α : Type} {step : AccountPayload → α → AccountPayload}
    {change : String → RecordPayload → α → RecordPayload}
    (steps : ∀ payload : AccountPayload, payload.Keyed → ∀ item,
      (step payload item).related = mapRecords (change · · item) payload.related ∧
        (step payload item).Keyed)
    (items : List α) (keyed : payload.Keyed) :
    (items.foldl step payload).related =
        mapRecords (fun object record => items.foldl (change object) record) payload.related ∧
      (items.foldl step payload).Keyed := by
  induction items generalizing payload with
  | nil => exact ⟨by simp [mapRecords], keyed⟩
  | cons item rest ih =>
      obtain ⟨first, still⟩ := steps payload keyed item
      obtain ⟨related, last⟩ := ih still
      rw [List.foldl_cons, related, first, mapRecords_mapRecords]
      exact ⟨rfl, last⟩

theorem foldl_annotate_related (keyed : payload.Keyed) (triggered : List Triggered) :
    (triggered.foldl (fun payload alert => alert.found.foldl (annotate alert) payload)
      payload).related = mapRecords (fun object record =>
        if object == EntityType.account then record else record.noteAll object triggered)
          payload.related := by
  have folded := (foldl_related (fun payload keyed alert =>
    foldl_related (fun _ keyed m => ⟨annotate_related keyed alert m, annotate_keyed keyed alert m⟩)
      alert.found keyed) triggered keyed).1
  rw [folded]
  refine congrArg (mapRecords · _) (funext fun object => funext fun record => ?_)
  by_cases account : object = EntityType.account
  · simp [account]
  · simp [account, noteAll]

/-- Each record is annotated with all that was found of it. -/
theorem attachAlerts_keyed (keyed : payload.Keyed) (triggered : List Triggered) :
    (payload.attachAlerts triggered).related = mapRecords (fun object record =>
      if object == EntityType.account then record else record.noteAll object triggered)
        payload.related := by
  unfold attachAlerts
  split <;> exact foldl_annotate_related keyed triggered

theorem attachAlerts_related (addressed : Addressed payload.related) (triggered : List Triggered) :
    (payload.attachAlerts triggered).related =
      mapRecords (fun object record => record.noteAll object triggered) payload.related := by
  rw [attachAlerts_keyed (.of_addressed addressed)]
  refine List.map_congr_left fun entry member => ?_
  have other : entry.1 ≠ EntityType.account := fun same =>
    addressed.others (same ▸ List.mem_map_of_mem member)
  simp [other]

/-- What annotating leaves of a payload. -/
theorem foldl_annotate (triggered : List Triggered) (payload : AccountPayload) :
    (triggered.foldl (fun payload alert => alert.found.foldl (annotate alert) payload) payload).id =
        payload.id ∧
      (triggered.foldl (fun payload alert => alert.found.foldl (annotate alert) payload)
        payload).alerts = payload.alerts := by
  have once : ∀ (alert : Triggered) (payload : AccountPayload) (m : Match),
      (payload.annotate alert m).id = payload.id ∧
        (payload.annotate alert m).alerts = payload.alerts := by
    intro alert payload m
    unfold annotate
    split <;> exact ⟨rfl, rfl⟩
  have each : ∀ (alert : Triggered) (found : List Match) (payload : AccountPayload),
      (found.foldl (annotate alert) payload).id = payload.id ∧
        (found.foldl (annotate alert) payload).alerts = payload.alerts := by
    intro alert found
    induction found with
    | nil => exact fun _ => ⟨rfl, rfl⟩
    | cons m rest ih =>
        intro payload
        obtain ⟨id, alerts⟩ := ih (payload.annotate alert m)
        exact ⟨id.trans (once alert payload m).1, alerts.trans (once alert payload m).2⟩
  induction triggered generalizing payload with
  | nil => exact ⟨rfl, rfl⟩
  | cons alert rest ih =>
      obtain ⟨id, alerts⟩ := ih (alert.found.foldl (annotate alert) payload)
      obtain ⟨sameId, sameAlerts⟩ := each alert alert.found payload
      exact ⟨id.trans sameId, alerts.trans sameAlerts⟩

theorem attachAlerts_id (payload : AccountPayload) (triggered : List Triggered) :
    (payload.attachAlerts triggered).id = payload.id := by
  unfold attachAlerts
  split <;> exact (foldl_annotate triggered payload).1

/-- The alerts which an account lists, by their identifiers. -/
def alertIds (payload : AccountPayload) : List String :=
  (payload.alerts.getD []).map (·.id)

/-- The records of a type. -/
def records (payload : AccountPayload) (object : String) : List RecordPayload :=
  (payload.related.lookup object).getD []

/-- An account lists what it triggered, whatever becomes of the matches. -/
theorem attachAlerts_alerts (plain : payload.alerts = none) (triggered : List Triggered) :
    (payload.attachAlerts triggered).alerts.getD [] = triggered := by
  unfold attachAlerts
  split
  · rename_i empty
    rw [(foldl_annotate triggered payload).2, plain, List.isEmpty_iff.mp empty]
    rfl
  · rfl

theorem attachAlerts_alertIds (plain : payload.alerts = none) (triggered : List Triggered) :
    (payload.attachAlerts triggered).alertIds = triggered.map (·.id) := by
  rw [alertIds, attachAlerts_alerts plain]

end AccountPayload

/-- Where types are displayed once and records have keys of their own, all of them are addressed. -/
theorem Layout.render_addressed {layout : Layout} {graph : AccountGraph}
    (types : (layout.visible.map (·.key)).Nodup)
    (others : EntityType.account ∉ layout.visible.map (·.key))
    (keys : ∀ object ∈ layout.visible, ((graph.records object.key).map (·.key)).Nodup) :
    Addressed (layout.render graph).related := by
  have names : (layout.render graph).related.map (·.1) = layout.visible.map (·.key) := by
    rw [render, List.map_map]
    rfl
  refine ⟨names ▸ types, names ▸ others, fun entry member => ?_⟩
  obtain ⟨object, visible, rfl⟩ := List.mem_map.mp member
  have named : ((graph.records object.key).map object.render).map (·.recordKey) =
      (graph.records object.key).map (·.key) := by
    rw [List.map_map]
    rfl
  exact named ▸ keys object visible

/-- The fields which a layout has of every record. -/
def ObjectLayout.fields (layout : ObjectLayout) : List String :=
  Record.idField :: layout.displayFields ++ layout.linkFields

theorem ObjectLayout.value?_fieldEntries (layout : ObjectLayout) (record : Record) {field : String}
    (listed : field ∈ layout.fields) :
    FieldEntry.value? (layout.fieldEntries record) field = some (record.value field) := by
  have values : ∀ entry ∈ layout.fieldEntries record, entry.value = record.value entry.name := by
    intro entry member
    rcases List.mem_append.mp member with shown | linked
    · obtain ⟨name, -, rfl⟩ := List.mem_map.mp shown
      rfl
    · obtain ⟨name, -, rfl⟩ := List.mem_map.mp linked
      rfl
  have named : ∃ entry ∈ layout.fieldEntries record, (entry.name == field) = true := by
    by_cases shown : field ∈ Record.idField :: layout.displayFields
    · exact ⟨_, List.mem_append_left _ (List.mem_map_of_mem shown), BEq.rfl⟩
    · have linked : field ∈ layout.linkFields := (List.mem_append.mp listed).resolve_left shown
      have hidden : field ∈ distinct (layout.linkFields.filter fun field =>
          !(Record.idField :: layout.displayFields).contains field) := by
        refine mem_distinct.mpr (List.mem_filter.mpr ⟨linked, ?_⟩)
        rw [Bool.not_eq_true', Bool.eq_false_iff]
        exact fun known => shown (List.contains_iff_mem.mp known)
      exact ⟨_, List.mem_append_right _ (List.mem_map_of_mem hidden), BEq.rfl⟩
  obtain ⟨entry, found⟩ := Option.isSome_iff_exists.mp (List.find?_isSome.mpr named)
  have same : entry.name = field := by simpa using List.find?_some found
  rw [FieldEntry.value?, found, Option.map_some, values entry (List.mem_of_find?_eq_some found), same]

/-- What is seen of a record, where these fields are displayed. -/
structure RecordView where
  id : Option String
  recordKey : String
  linkSources : Option (List LinkSource)
  values : List (Option Json)
  alerts : Option (List String)

def RecordPayload.view (fields : List String) (record : RecordPayload) : RecordView :=
  ⟨record.id, record.recordKey, record.linkSources, fields.map (FieldEntry.value? record.fields),
    record.alerts⟩

/-- What is seen of a record is what it is, and which alerts hit it. -/
theorem ObjectLayout.view_render (layout : ObjectLayout) (record : GraphRecord) (object : String)
    (triggered : List Triggered) :
    ((layout.render record).noteAll object triggered).view layout.fields =
      ⟨record.id?, record.key,
        if record.linkSources.isEmpty then none else some record.linkSources,
        layout.fields.map fun field => some (record.record.value field),
        if (RecordPayload.hits object record.key triggered).isEmpty then none
        else some (RecordPayload.hits object record.key triggered)⟩ := by
  have kept := RecordPayload.Kept.noteAll object triggered (layout.render record)
  have values : layout.fields.map
      (FieldEntry.value? ((layout.render record).noteAll object triggered).fields) =
        layout.fields.map fun field => some (record.record.value field) := by
    refine List.map_congr_left fun field listed => ?_
    have rendered := layout.value?_fieldEntries record.record listed
    exact (kept.value? field (Option.isSome_of_eq_some rendered)).trans rendered
  rw [RecordPayload.view, kept.id, kept.recordKey, kept.linkSources, values,
    RecordPayload.noteAll_alerts rfl]
  rfl

end Dossier
