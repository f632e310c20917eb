import Mathlib.Data.List.Forall2
import Dossier.Proofs.Table
import Dossier.Remote.Response

/-!
What the bodies of responses say.

A body says what it says under the names which are read of it.  A mapping has each of them once at
most, and may have others beside them; a list has their values in the order of the names, and ends
where it likes.  What is said of a name which is missing is fixed beforehand.
-/

namespace Dossier

namespace Document

variable {α β : Type} {names : List String} {document : Document}

/-- What a document has under each of some names. -/
inductive Fields (names : List String) : Document → (String → Option Document) → Prop where
  | mapping {members : List (String × Document)}
      (once : ∀ name ∈ names, (members.map (·.1)).count name ≤ 1) :
      Fields names (.mapping members) fun name => members.lookup name
  | list {items : List Document} (short : items.length ≤ names.length) :
      Fields names (.list items) fun name => items[names.idxOf name]?

/-- What is meant by a value which may be missing. -/
inductive Means (told : Document → α → Prop) (default : α) : Option Document → α → Prop where
  | missing : Means told default none default
  | given {document : Document} {value : α} (said : told document value) :
      Means told default (some document) value

/-- A list says what its items say, in their order. -/
inductive Lists (told : Document → α → Prop) : Document → List α → Prop where
  | list {items : List Document} {values : List α} (each : List.Forall₂ told items values) :
      Lists told (.list items) values

inductive Flag : Document → Bool → Prop where
  | flag (word : Option String) (value : Bool) : Flag (.plain word (some (.bool value))) value

/-- A text, or null, which says as much as nothing at all. -/
inductive Locator : Document → Option String → Prop where
  | null (word : Option String) : Locator (.plain word (some .null)) none
  | text {document : Document} {text : String} (spelled : document.text? = some text)
      (given : ∀ word, document ≠ .plain word (some .null)) : Locator document (some text)

theorem mapM_eq_some {read : β → Option α} {items : List β} {values : List α} :
    items.mapM read = some values ↔
      List.Forall₂ (fun item value => read item = some value) items values := by
  induction items generalizing values with
  | nil => cases values <;> simp
  | cons item rest ih =>
      rw [List.mapM_cons]
      cases values with
      | nil => simp [Option.bind_eq_some_iff]
      | cons value values => simp [Option.bind_eq_some_iff, ih]

theorem list?_eq_some {read : Document → Option α} {values : List α} :
    list? read document = some values ↔
      Lists (fun item value => read item = some value) document values := by
  constructor
  · intro found
    cases document with
    | list items => exact .list (mapM_eq_some.mp found)
    | quoted _ | plain _ _ | mapping _ => contradiction
  · rintro ⟨each⟩
    exact mapM_eq_some.mpr each

theorem flag?_eq_some {value : Bool} : document.flag? = some value ↔ Flag document value := by
  constructor
  · intro found
    unfold flag? at found
    split at found
    · cases found
      exact .flag _ _
    · contradiction
  · rintro ⟨⟩
    rfl

theorem isNull_iff : document.isNull = true ↔ ∃ word, document = .plain word (some .null) := by
  constructor
  · intro null
    unfold isNull at null
    split at null
    · exact ⟨_, rfl⟩
    · contradiction
  · rintro ⟨word, rfl⟩
    rfl

theorem nullable?_text?_eq_some {locator : Option String} :
    nullable? text? document = some locator ↔ Locator document locator := by
  unfold nullable?
  constructor
  · intro found
    split at found
    · rename_i null
      obtain ⟨word, rfl⟩ := isNull_iff.mp null
      cases found
      exact .null word
    · rename_i given
      obtain ⟨text, spelled, rfl⟩ := Option.map_eq_some_iff.mp found
      exact .text spelled fun word null => given (isNull_iff.mpr ⟨word, null⟩)
  · intro said
    cases said with
    | null word => rfl
    | text spelled given =>
        rw [if_neg fun null => (isNull_iff.mp null).elim given, spelled, Option.map_some]

theorem defaulted_eq_some {members : List (String × Document)} {name : String}
    {read : Document → Option α} {told : Document → α → Prop} {default value : α}
    (agree : ∀ document value, read document = some value ↔ told document value) :
    defaulted members name read default = some value ↔
      Means told default (members.lookup name) value := by
  unfold defaulted
  cases members.lookup name with
  | none =>
      constructor
      · intro same
        cases same
        exact .missing
      · rintro ⟨⟩
        rfl
  | some document =>
      constructor
      · exact fun found => .given ((agree document value).mp found)
      · intro means
        cases means with
        | given said => exact (agree document value).mpr said

theorem lookup_zip (names : List String) (items : List α) (name : String) :
    (names.zip items).lookup name = if name ∈ names then items[names.idxOf name]? else none := by
  induction names generalizing items with
  | nil => rfl
  | cons first rest ih =>
      cases items with
      | nil => simp
      | cons item items =>
          rw [List.zip_cons_cons, List.lookup_cons, List.idxOf_cons]
          by_cases same : name = first
          · simp [same]
          · have apart : (name == first) = false := beq_false_of_ne same
            have behind : (first == name) = false := beq_false_of_ne (Ne.symm same)
            simp [apart, behind, same, ih]

theorem lookup_known {members : List (String × Document)} {name : String} (known : name ∈ names) :
    (members.filter fun member => names.contains member.1).lookup name = members.lookup name := by
  induction members with
  | nil => rfl
  | cons member rest ih =>
      rw [List.filter_cons, List.lookup_cons]
      split
      · rw [List.lookup_cons, ih]
      · rename_i other
        have apart : (name == member.1) = false :=
          beq_false_of_ne fun same => other (by simpa [← same] using known)
        rw [apart, ih]

theorem nodup_known {members : List (String × Document)} :
    ((members.filter fun member => names.contains member.1).map (·.1)).Nodup ↔
      ∀ name ∈ names, (members.map (·.1)).count name ≤ 1 := by
  have same : (members.filter fun member => names.contains member.1).map (·.1) =
      (members.map (·.1)).filter names.contains := by
    rw [List.filter_map]
    rfl
  rw [same, List.nodup_iff_count_le_one]
  constructor
  · intro once name listed
    have counted := once name
    rwa [List.count_filter (List.contains_iff_mem.mpr listed)] at counted
  · intro once name
    by_cases listed : name ∈ names
    · rw [List.count_filter (List.contains_iff_mem.mpr listed)]
      exact once name listed
    · have absent : name ∉ (members.map (·.1)).filter names.contains := fun member =>
        listed (List.contains_iff_mem.mp (List.mem_filter.mp member).2)
      rw [List.count_eq_zero_of_not_mem absent]
      exact Nat.zero_le 1

/-- A structure is read by what the document has under its names. -/
theorem structure?_bind_eq_some {read : List (String × Document) → Option α}
    {told : (String → Option Document) → α → Prop} {value : α}
    (agree : ∀ members field, (∀ name ∈ names, members.lookup name = field name) →
      (read members = some value ↔ told field value)) :
    (document.structure? names .allowed >>= read) = some value ↔
      ∃ field, Fields names document field ∧ told field value := by
  rw [Option.bind_eq_bind, Option.bind_eq_some_iff]
  constructor
  · rintro ⟨members, found, reads⟩
    cases document with
    | mapping written =>
        simp only [structure?, reduceCtorEq, false_and, if_false] at found
        split at found
        · rename_i once
          cases found
          exact ⟨_, .mapping (nodup_known.mp once), (agree _ _ fun name => lookup_known).mp reads⟩
        · contradiction
    | list items =>
        simp only [structure?] at found
        split at found
        · rename_i short
          cases found
          refine ⟨_, .list short, (agree _ _ fun name listed => ?_).mp reads⟩
          rw [lookup_zip, if_pos listed]
        · contradiction
    | quoted _ | plain _ _ => contradiction
  · rintro ⟨field, fields, said⟩
    cases fields with
    | mapping once =>
        refine ⟨_, ?_, (agree _ _ fun name => lookup_known).mpr said⟩
        simp only [structure?, reduceCtorEq, false_and, if_false]
        rw [if_pos (nodup_known.mpr once)]
    | list short =>
        refine ⟨_, if_pos short, (agree _ _ fun name listed => ?_).mpr said⟩
        rw [lookup_zip, if_pos listed]

end Document

open Document (Fields Means Lists Flag Locator)

namespace ApiError

/-- An error has the texts which are said of it, and empty ones where nothing is. -/
structure Says (field : String → Option Document) (error : ApiError) : Prop where
  errorCode : Means (fun value text => value.text? = some text) "" (field "errorCode")
    error.errorCode
  message : Means (fun value text => value.text? = some text) "" (field "message") error.message

theorem ofDocument?_eq_some {document : Document} {error : ApiError} :
    ofDocument? document = some error ↔
      ∃ field, Fields ["errorCode", "message"] document field ∧ error.Says field := by
  refine Document.structure?_bind_eq_some fun members field same => ?_
  have said : ∀ name ∈ ["errorCode", "message"], ∀ text,
      Document.defaulted members name Document.text? "" = some text ↔
        Means (fun value text => value.text? = some text) "" (field name) text := by
    intro name listed text
    rw [← same name listed]
    exact Document.defaulted_eq_some fun _ _ => Iff.rfl
  have coded := said "errorCode" (by simp)
  have worded := said "message" (by simp)
  simp only [Option.bind_eq_bind, Option.bind_eq_some_iff]
  constructor
  · rintro ⟨_, first, _, second, whole⟩
    cases whole
    exact ⟨(coded _).mp first, (worded _).mp second⟩
  · intro told
    exact ⟨_, (coded _).mpr told.errorCode, _, (worded _).mpr told.message, rfl⟩

end ApiError

namespace Remote

namespace Page

/-- A page has the rows, the end and the locator which are said of it; without them it is an empty
one, it is not the last one, and it points nowhere. -/
structure Says (field : String → Option Document) (page : Page) : Prop where
  rows : Means (Lists fun item row => item.toJson? = some row) [] (field "records") page.rows
  done : Means Flag false (field "done") page.isDone
  locator : Means Locator none (field "nextRecordsUrl") page.locator

theorem ofDocument?_eq_some {document : Document} {page : Page} :
    ofDocument? document = some page ↔
      ∃ field, Fields ["records", "done", "nextRecordsUrl"] document field ∧ page.Says field := by
  refine Document.structure?_bind_eq_some fun members field same => ?_
  have rows : ∀ rows, Document.defaulted members "records" (Document.list? Document.toJson?) [] =
      some rows ↔ Means (Lists fun item row => item.toJson? = some row) [] (field "records") rows := by
    intro rows
    rw [← same "records" (by simp)]
    exact Document.defaulted_eq_some fun _ _ => Document.list?_eq_some
  have done : ∀ done, Document.defaulted members "done" Document.flag? false = some done ↔
      Means Flag false (field "done") done := by
    intro done
    rw [← same "done" (by simp)]
    exact Document.defaulted_eq_some fun _ _ => Document.flag?_eq_some
  have locator : ∀ locator, Document.defaulted members "nextRecordsUrl"
      (Document.nullable? Document.text?) none = some locator ↔
        Means Locator none (field "nextRecordsUrl") locator := by
    intro locator
    rw [← same "nextRecordsUrl" (by simp)]
    exact Document.defaulted_eq_some fun _ _ => Document.nullable?_text?_eq_some
  simp only [Option.bind_eq_bind, Option.bind_eq_some_iff]
  constructor
  · rintro ⟨_, first, _, second, _, third, whole⟩
    cases whole
    exact ⟨(rows _).mp first, (done _).mp second, (locator _).mp third⟩
  · intro said
    exact ⟨_, (rows _).mpr said.rows, _, (done _).mpr said.done, _, (locator _).mpr said.locator, rfl⟩

end Page

namespace Response

variable {response : Response}

/-- The response is read as the page. -/
def Tells (response : Response) (page : Page) : Prop :=
  ∃ document field, Document.read? .json response.content = some document ∧
    Fields ["records", "done", "nextRecordsUrl"] document field ∧ page.Says field

/-- The response is read as a list of these errors. -/
def Blames (response : Response) (errors : List ApiError) : Prop :=
  ∃ document, Document.read? .json response.content = some document ∧
    Lists (fun item error => ∃ field, Fields ["errorCode", "message"] item field ∧ error.Says field)
      document errors

theorem page_iff {page : Page} :
    (Document.read? .json response.content >>= Page.ofDocument?) = some page ↔
      response.Tells page := by
  rw [Option.bind_eq_bind, Option.bind_eq_some_iff]
  constructor
  · rintro ⟨document, read, page⟩
    obtain ⟨field, fields, said⟩ := Page.ofDocument?_eq_some.mp page
    exact ⟨document, field, read, fields, said⟩
  · rintro ⟨document, field, read, fields, said⟩
    exact ⟨document, read, Page.ofDocument?_eq_some.mpr ⟨field, fields, said⟩⟩

theorem errors_iff {errors : List ApiError} :
    (Document.read? .json response.content >>= Document.list? ApiError.ofDocument?) = some errors ↔
      response.Blames errors := by
  rw [Option.bind_eq_bind, Option.bind_eq_some_iff]
  refine exists_congr fun document => and_congr_right fun _ => ?_
  simp only [Document.list?_eq_some, ApiError.ofDocument?_eq_some]

end Response

end Remote

end Dossier
