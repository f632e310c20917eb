import Dossier.Proofs.Alert.Merged
import Dossier.Proofs.Payload.Annotation

/-!
Attaching alerts once more.

Whatever a payload was annotated with before, a match leaves marks which the next look at the same
match finds, and which no other match takes away.  A payload with all marks of some alerts stays as
it is when they are attached again.
-/

namespace Dossier

/-- A step leaves a mark of its item: marks are kept by the steps of other items, and a step whose
mark is there already does nothing. -/
structure Marks {σ ι : Type} (step : σ → ι → σ) (Marked : σ → ι → Prop) : Prop where
  leaves : ∀ state item, Marked (step state item) item
  keeps : ∀ {state item}, Marked state item → ∀ other, Marked (step state other) item
  still : ∀ {state item}, Marked state item → step state item = state

namespace Marks

variable {σ τ ι κ : Type} {step : σ → ι → σ} {Marked : σ → ι → Prop}

theorem comap (marks : Marks step Marked) (f : κ → ι) :
    Marks (fun state item => step state (f item)) fun state item => Marked state (f item) :=
  ⟨fun state item => marks.leaves state (f item), fun marked other => marks.keeps marked (f other),
    fun marked => marks.still marked⟩

theorem keeps_foldl (marks : Marks step Marked) {state : σ} {item : ι} (marked : Marked state item)
    (others : List ι) : Marked (others.foldl step state) item := by
  induction others generalizing state with
  | nil => exact marked
  | cons other rest ih => exact ih (marks.keeps marked other)

/-- Many items leave many marks. -/
theorem foldl (marks : Marks step Marked) :
    Marks (fun state items => items.foldl step state) fun state (items : List ι) =>
      ∀ item ∈ items, Marked state item := by
  refine ⟨fun state items => ?_, fun marked others item member => ?_, fun {state items} marked => ?_⟩
  · induction items generalizing state with
    | nil => simp
    | cons first rest ih =>
        exact List.forall_mem_cons.mpr ⟨marks.keeps_foldl (marks.leaves state first) rest, ih _⟩
  · exact marks.keeps_foldl (marked item member) others
  · induction items with
    | nil => rfl
    | cons first rest ih =>
        obtain ⟨own, others⟩ := List.forall_mem_cons.mp marked
        rw [List.foldl_cons, marks.still own]
        exact ih others

theorem twice (marks : Marks step Marked) (state : σ) (item : ι) :
    step (step state item) item = step state item :=
  marks.still (marks.leaves state item)

end Marks

section First

variable {α ι : Type} {p q : α → Bool} {f : α → α}

/-- Which entry is the first one is not changed with it. -/
theorem find?_updateFirst_self (kept : ∀ entry, p (f entry) = p entry) (entries : List α) :
    (updateFirst p f entries).find? p = (entries.find? p).map f := by
  induction entries with
  | nil => rfl
  | cons entry rest ih =>
      rw [updateFirst]
      cases own : p entry with
      | true => simp [kept, own]
      | false => simpa [own] using ih

/-- An entry which is looked for is the same as before, or it was changed. -/
theorem find?_updateFirst (kept : ∀ entry, p (f entry) = p entry) (entries : List α) :
    (updateFirst q f entries).find? p = entries.find? p ∨
      (updateFirst q f entries).find? p = (entries.find? p).map f := by
  induction entries with
  | nil => exact .inl rfl
  | cons entry rest ih =>
      rw [updateFirst]
      split
      · cases own : p entry with
        | true => exact .inr (by simp [kept, own])
        | false => exact .inl (by simp [kept, own])
      · cases own : p entry with
        | true => exact .inl (by simp [own])
        | false => simpa [own] using ih

theorem updateFirst_of_still {entries : List α}
    (still : ∀ entry, entries.find? p = some entry → f entry = entry) :
    updateFirst p f entries = entries := by
  induction entries with
  | nil => rfl
  | cons entry rest ih =>
      rw [updateFirst]
      cases own : p entry with
      | true => rw [if_pos rfl, still entry (by simp [own])]
      | false =>
          rw [if_neg Bool.false_ne_true, ih fun other first => still other (by simpa [own] using first)]

/-- The mark of an item is left on the first entry which it is about, if there is one. -/
theorem Marks.updateFirst (about : ι → α → Bool) {step : α → ι → α} {Marked : α → ι → Prop}
    (marks : Marks step Marked)
    (kept : ∀ entry item other, about other (step entry item) = about other entry) :
    Marks (fun entries item => Dossier.updateFirst (about item) (step · item) entries)
      fun entries item => ∀ entry, entries.find? (about item) = some entry → Marked entry item := by
  refine ⟨fun entries item entry first => ?_, fun {entries _} marked other entry first => ?_,
    fun marked => ?_⟩
  · rw [find?_updateFirst_self fun entry => kept entry item item] at first
    obtain ⟨before, -, rfl⟩ := Option.map_eq_some_iff.mp first
    exact marks.leaves before item
  · rcases find?_updateFirst (fun entry => kept entry other _) entries with same | changed
    · exact marked entry (same ▸ first)
    · rw [changed] at first
      obtain ⟨before, found, rfl⟩ := Option.map_eq_some_iff.mp first
      exact marks.keeps (marked before found) other
  · exact updateFirst_of_still fun entry first => marks.still (marked entry first)

/-- What is changed under a name keeps its name. -/
theorem Marks.ofType {κ : Type} {step : α → ι → α} {Marked : α → ι → Prop}
    (marks : Marks step Marked) :
    Marks (fun (entry : κ × α) item => (entry.1, step entry.2 item))
      fun entry item => Marked entry.2 item :=
  ⟨fun entry item => marks.leaves entry.2 item, fun marked other => marks.keeps marked other,
    fun marked => Prod.ext rfl (marks.still marked)⟩

end First

/-- A list which may be absent is there, and has the item. -/
def Listed {α : Type} [BEq α] (items : Option (List α)) (item : α) : Prop :=
  ∃ present, items = some present ∧ present.contains item = true

theorem pushNew_marks {α : Type} [BEq α] [ReflBEq α] :
    Marks (fun (items : Option (List α)) item => pushNew item items) Listed where
  leaves items item := by
    refine ⟨_, rfl, ?_⟩
    split
    · assumption
    · simp
  keeps := by
    rintro _ item ⟨present, rfl, has⟩ other
    refine ⟨_, rfl, ?_⟩
    rw [Option.getD_some]
    split
    · exact has
    · rw [List.contains_append, has, Bool.true_or]
  still := by
    rintro _ item ⟨present, rfl, has⟩
    simp [pushNew, has]

instance : ReflBEq FieldAlert where
  rfl {alert} := by
    change FieldAlert.same alert alert = true
    simp [FieldAlert.same]

instance : ReflBEq RecordAlert where
  rfl {alert} := by
    change RecordAlert.same alert alert = true
    simp [RecordAlert.same]

namespace FieldEntry

/-- The entry tells of the alert, and of how the field was matched. -/
structure Tells (entry : FieldEntry) (alert : Triggered) (field : FieldMatch) : Prop where
  alerts : Listed entry.alerts alert.id
  alertDetails : Listed entry.alertDetails (alert.fieldAlert field)

theorem annotate_marks :
    Marks (fun entry (mark : Triggered × FieldMatch) => annotate mark.1 mark.2 entry)
      fun entry mark => entry.Tells mark.1 mark.2 where
  leaves entry mark := ⟨pushNew_marks.leaves _ _, pushNew_marks.leaves _ _⟩
  keeps tells mark :=
    ⟨pushNew_marks.keeps tells.alerts mark.1.id,
      pushNew_marks.keeps tells.alertDetails (mark.1.fieldAlert mark.2)⟩
  still tells := by
    unfold annotate
    rw [pushNew_marks.still tells.alerts, pushNew_marks.still tells.alertDetails]

/-- There is an entry of the field, and the first one tells of the match. -/
def Told (entries : List FieldEntry) (mark : Triggered × FieldMatch) : Prop :=
  ∃ entry, entries.find? (·.name == mark.2.name) = some entry ∧ entry.Tells mark.1 mark.2

theorem annotateAll_marks :
    Marks (fun entries (mark : Triggered × FieldMatch) => annotateAll mark.1 entries mark.2) Told where
  leaves entries mark := by
    obtain ⟨entry, found⟩ : ∃ entry, (if entries.any (·.name == mark.2.name) then entries
        else entries ++ [plain mark.2.name mark.2.actualValue true]).find? (·.name == mark.2.name) =
          some entry := by
      rw [← Option.isSome_iff_exists, List.find?_isSome]
      split
      · rename_i present
        exact List.any_eq_true.mp present
      · exact ⟨_, List.mem_append_right _ (List.mem_singleton_self _), BEq.rfl⟩
    refine ⟨annotate mark.1 mark.2 entry, ?_, annotate_marks.leaves entry mark⟩
    have updated := find?_updateFirst_self (p := (·.name == mark.2.name))
      (f := annotate mark.1 mark.2) (fun _ => rfl)
    rw [annotateAll, updated, found]
    rfl
  keeps := by
    rintro entries mark ⟨entry, found, tells⟩ other
    have present : (if entries.any (·.name == other.2.name) then entries
        else entries ++ [plain other.2.name other.2.actualValue true]).find?
          (·.name == mark.2.name) = some entry := by
      split
      · exact found
      · rw [List.find?_append, found, Option.some_or]
    rcases find?_updateFirst (p := (·.name == mark.2.name)) (q := (·.name == other.2.name))
      (f := annotate other.1 other.2) (fun _ => rfl) _ with same | changed
    · exact ⟨entry, same.trans present, tells⟩
    · exact ⟨_, changed.trans (congrArg _ present), annotate_marks.keeps tells other⟩
  still := by
    rintro entries mark ⟨entry, found, tells⟩
    have named := List.find?_some found
    have present : entries.any (·.name == mark.2.name) = true :=
      List.any_eq_true.mpr ⟨entry, List.mem_of_find?_eq_some found, named⟩
    rw [annotateAll, if_pos present]
    refine updateFirst_of_still fun other first => ?_
    cases Option.some.inj (found.symm.trans first)
    exact annotate_marks.still tells

end FieldEntry

/-- What the finding of an alert leaves on fields: each matched field is told with the alert. -/
theorem annotateFields_marks :
    Marks (fun fields (finding : Triggered × Match) =>
        finding.2.matchedFields.foldl (FieldEntry.annotateAll finding.1) fields)
      fun fields finding => ∀ field ∈ finding.2.matchedFields,
        FieldEntry.Told fields (finding.1, field) := by
  have each := FieldEntry.annotateAll_marks.foldl.comap fun finding : Triggered × Match =>
    finding.2.matchedFields.map (finding.1, ·)
  simpa only [List.foldl_map, List.forall_mem_map] using each

namespace RecordPayload

/-- The record tells of the alert, of what it matched, and of every matched field. -/
structure Tells (record : RecordPayload) (alert : Triggered) (m : Match) : Prop where
  alerts : Listed record.alerts alert.id
  alertDetails : Listed record.alertDetails (alert.recordAlert m)
  fields : ∀ field ∈ m.matchedFields, FieldEntry.Told record.fields (alert, field)

theorem annotate_marks :
    Marks (fun record (finding : Triggered × Match) => annotate finding.1 finding.2 record)
      fun record finding => record.Tells finding.1 finding.2 where
  leaves record finding :=
    ⟨pushNew_marks.leaves _ _, pushNew_marks.leaves _ _, annotateFields_marks.leaves _ finding⟩
  keeps tells finding :=
    ⟨pushNew_marks.keeps tells.alerts finding.1.id,
      pushNew_marks.keeps tells.alertDetails (finding.1.recordAlert finding.2),
      annotateFields_marks.keeps tells.fields finding⟩
  still := by
    intro record finding tells
    have fields := annotateFields_marks.still tells.fields
    unfold annotate
    rw [pushNew_marks.still tells.alerts, pushNew_marks.still tells.alertDetails, fields]

end RecordPayload

namespace AccountPayload

/-- What a match looks for in a payload tells of it: the account itself, or the first record of its
key, if there is one. -/
def Tells (payload : AccountPayload) (finding : Triggered × Match) : Prop :=
  if finding.2.object == EntityType.account && finding.2.recordKey == payload.recordKey then
    Listed payload.alertDetails (finding.1.recordAlert finding.2) ∧
      ∀ field ∈ finding.2.matchedFields, FieldEntry.Told payload.fields (finding.1, field)
  else
    ∀ entry, payload.related.find? (·.1 == finding.2.object) = some entry →
      ∀ record, entry.2.find? (·.recordKey == finding.2.recordKey) = some record →
        record.Tells finding.1 finding.2

theorem related_marks :
    Marks (fun related (finding : Triggered × Match) =>
        updateFirst (·.1 == finding.2.object) (fun entry =>
          (entry.1, updateFirst (·.recordKey == finding.2.recordKey)
            (RecordPayload.annotate finding.1 finding.2) entry.2)) related)
      fun related finding => ∀ entry, related.find? (·.1 == finding.2.object) = some entry →
        ∀ record, entry.2.find? (·.recordKey == finding.2.recordKey) = some record →
          record.Tells finding.1 finding.2 := by
  have records := RecordPayload.annotate_marks.updateFirst
    (fun finding record => record.recordKey == finding.2.recordKey) fun _ _ _ => rfl
  have types := records.ofType.updateFirst
    (fun finding entry => entry.1 == finding.2.object) fun _ _ _ => rfl
  exact types

/-- Annotating an account is marking it: a match of which the account tells leaves it as it is, and no
match makes it forget another one. -/
theorem annotate_marks :
    Marks (fun payload (finding : Triggered × Match) => annotate finding.1 payload finding.2) Tells where
  leaves payload finding := by
    unfold annotate Tells
    split
    · exact ⟨pushNew_marks.leaves _ _, annotateFields_marks.leaves _ finding⟩
    · exact related_marks.leaves _ finding
  keeps := by
    intro payload finding tells other
    have key : (annotate other.1 payload other.2).recordKey = payload.recordKey := by
      unfold annotate
      split <;> rfl
    unfold Tells at tells ⊢
    rw [key]
    split
    · rename_i own
      rw [if_pos own] at tells
      unfold annotate
      split
      · exact ⟨pushNew_marks.keeps tells.1 _, annotateFields_marks.keeps tells.2 other⟩
      · exact tells
    · rename_i own
      rw [if_neg own] at tells
      unfold annotate
      split
      · exact tells
      · exact related_marks.keeps tells other
  still := by
    intro payload finding tells
    unfold Tells at tells
    unfold annotate
    split
    · rename_i own
      rw [if_pos own] at tells
      have fields := annotateFields_marks.still tells.2
      rw [pushNew_marks.still tells.1, fields]
    · rename_i other
      rw [if_neg other] at tells
      have related := related_marks.still tells
      rw [related]

/-- All that the alerts have found, each match with its alert. -/
def findingsOf (triggered : List Triggered) : List (Triggered × Match) :=
  triggered.flatMap fun alert => alert.found.map (alert, ·)

/-- A payload which is annotated with findings, one after the other. -/
def annotateAll (payload : AccountPayload) (findings : List (Triggered × Match)) : AccountPayload :=
  findings.foldl (fun payload finding => annotate finding.1 payload finding.2) payload

theorem annotateAll_append (payload : AccountPayload) (first rest : List (Triggered × Match)) :
    payload.annotateAll (first ++ rest) = (payload.annotateAll first).annotateAll rest :=
  List.foldl_append

theorem annotateAll_twice (payload : AccountPayload) (findings : List (Triggered × Match)) :
    (payload.annotateAll findings).annotateAll findings = payload.annotateAll findings :=
  annotate_marks.foldl.twice payload findings

/-- What the account lists makes no difference to its annotations. -/
theorem annotateAll_listing (payload : AccountPayload) (findings : List (Triggered × Match))
    (listing : Option (List Triggered)) :
    { payload with alerts := listing }.annotateAll findings =
      { payload.annotateAll findings with alerts := listing } := by
  induction findings generalizing payload with
  | nil => rfl
  | cons finding rest ih =>
      have first : annotate finding.1 { payload with alerts := listing } finding.2 =
          { annotate finding.1 payload finding.2 with alerts := listing } := by
        unfold annotate
        split <;> rfl
      rw [annotateAll, List.foldl_cons, first]
      exact ih _

/-- The alerts which an account lists, in place of those which it has listed before. -/
def listing (before : Option (List Triggered)) (triggered : List Triggered) :
    Option (List Triggered) :=
  if triggered.isEmpty then before else some triggered

theorem attachAlerts_eq_annotateAll (payload : AccountPayload) (triggered : List Triggered) :
    payload.attachAlerts triggered =
      { payload.annotateAll (findingsOf triggered) with
        alerts := listing payload.alerts triggered } := by
  have annotated : triggered.foldl (fun payload alert => alert.found.foldl (annotate alert) payload)
      payload = payload.annotateAll (findingsOf triggered) := by
    simp only [annotateAll, findingsOf, List.foldl_flatMap, List.foldl_map]
  have kept := (foldl_annotate triggered payload).2
  rw [annotated] at kept
  rw [attachAlerts, annotated, listing]
  split
  · rw [← kept]
  · rfl

/-- Alerts which are attached again change nothing; and alerts which are attached after others leave
what attaching all of them at once leaves, but that the account lists the latest. -/
theorem attachAlerts_incremental (payload : AccountPayload) (earlier later : List Triggered) :
    (payload.attachAlerts later).attachAlerts later = payload.attachAlerts later ∧
      (payload.attachAlerts earlier).attachAlerts later =
        { payload.attachAlerts (earlier ++ later) with
          alerts := if later.isEmpty then (payload.attachAlerts earlier).alerts else some later } := by
  constructor
  · have listed : listing (listing payload.alerts later) later = listing payload.alerts later := by
      unfold listing
      split <;> rfl
    simp only [attachAlerts_eq_annotateAll, annotateAll_listing, annotateAll_twice, listed]
  · have whole : findingsOf (earlier ++ later) = findingsOf earlier ++ findingsOf later :=
      List.flatMap_append
    simp only [attachAlerts_eq_annotateAll, annotateAll_listing, whole, annotateAll_append]
    rfl

end AccountPayload

end Dossier
