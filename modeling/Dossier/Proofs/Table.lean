import Mathlib.Data.List.Induction
import Mathlib.Data.List.Nodup
import Dossier.Table

/-!
What tables hold.

`distinct` keeps the members of a list and repeats none.  A table which is filled by appending to
the items of a key gives every key the items which came with it, keys in order of first appearance.
Indices, groups of duplicates and gathered filters are all tables of this form.
-/

namespace Dossier

section Distinct

variable {α : Type} [BEq α]

theorem distinct_concat (items : List α) (item : α) :
    distinct (items ++ [item]) =
      if (distinct items).contains item then distinct items else distinct items ++ [item] := by
  rw [distinct, List.foldl_append]
  rfl

theorem distinct_grows (items more : List α) : distinct items <+: distinct (items ++ more) := by
  induction more using List.reverseRecOn with
  | nil => simp
  | append_singleton more last ih =>
      rw [← List.append_assoc, distinct_concat]
      split
      · exact ih
      · exact ih.trans (List.prefix_append _ _)

theorem head?_distinct (first : α) (rest : List α) :
    (distinct (first :: rest)).head? = some first := by
  obtain ⟨more, started⟩ : [first] <+: distinct (first :: rest) := distinct_grows [first] rest
  rw [← started]
  rfl

theorem distinct_of_apart {items : List α}
    (apart : items.Pairwise fun earlier later => (later == earlier) = false) :
    distinct items = items := by
  induction items using List.reverseRecOn with
  | nil => rfl
  | append_singleton items last ih =>
      obtain ⟨others, -, new⟩ := List.pairwise_append.mp apart
      have absent : items.contains last = false := by
        rw [List.contains_eq_any_beq, List.any_eq_false]
        intro item member
        exact Bool.eq_false_iff.mp (new item member last List.mem_cons_self)
      rw [distinct_concat, ih others, absent]
      rfl

/-- Every item is there, or one which is equal to it came before. -/
theorem contains_distinct [ReflBEq α] {items : List α} {item : α} (member : item ∈ items) :
    (distinct items).contains item = true := by
  induction items using List.reverseRecOn with
  | nil => contradiction
  | append_singleton items last ih =>
      rw [distinct_concat]
      rcases List.mem_append.mp member with earlier | same
      · split
        · exact ih earlier
        · rw [List.contains_append, ih earlier, Bool.true_or]
      · rw [List.mem_singleton.mp same]
        split
        · assumption
        · simp

variable [LawfulBEq α]

@[simp] theorem mem_distinct {items : List α} {item : α} :
    item ∈ distinct items ↔ item ∈ items := by
  induction items using List.reverseRecOn with
  | nil => rfl
  | append_singleton items last ih =>
      rw [distinct_concat]
      split
      · rename_i present
        have member : last ∈ distinct items := List.contains_iff_mem.mp present
        constructor
        · intro found
          exact List.mem_append_left _ (ih.mp found)
        · intro found
          rcases List.mem_append.mp found with earlier | same
          · exact ih.mpr earlier
          · rw [List.mem_singleton.mp same]
            exact member
      · simp only [List.mem_append, ih]

theorem nodup_distinct (items : List α) : (distinct items).Nodup := by
  induction items using List.reverseRecOn with
  | nil => exact .nil
  | append_singleton items last ih =>
      rw [distinct_concat]
      split
      · exact ih
      · rename_i absent
        have new : last ∉ distinct items := fun member => absent (List.contains_iff_mem.mpr member)
        rw [← List.concat_eq_append]
        exact List.Nodup.concat new ih

theorem distinct_of_nodup {items : List α} (unique : items.Nodup) : distinct items = items :=
  distinct_of_apart (unique.imp fun different => beq_false_of_ne (Ne.symm different))

theorem distinct_filter (items : List α) (keep : α → Bool) :
    distinct (items.filter keep) = (distinct items).filter keep := by
  induction items using List.reverseRecOn with
  | nil => rfl
  | append_singleton items last ih =>
      rw [List.filter_append, List.filter_singleton, distinct_concat]
      cases kept : keep last with
      | true =>
          have same : ((distinct items).filter keep).contains last =
              (distinct items).contains last := by
            rw [Bool.eq_iff_iff, List.contains_iff_mem, List.contains_iff_mem, List.mem_filter]
            exact and_iff_left kept
          rw [cond_true, distinct_concat, ih, same]
          split
          · rfl
          · rw [List.filter_append, List.filter_singleton, kept, cond_true]
      | false =>
          rw [cond_false, List.append_nil, ih]
          split
          · rfl
          · rw [List.filter_append, List.filter_singleton, kept, cond_false, List.append_nil]

theorem two_le_length_distinct {items : List α} :
    2 ≤ (distinct items).length ↔ ∃ first ∈ items, ∃ second ∈ items, first ≠ second := by
  have unique := nodup_distinct items
  have kept (item : α) : item ∈ items ↔ item ∈ distinct items := mem_distinct.symm
  simp only [kept]
  cases shape : distinct items with
  | nil => simp
  | cons first rest =>
      cases rest with
      | nil => simp
      | cons second others =>
          rw [shape, List.nodup_cons] at unique
          have different : first ≠ second := fun same => unique.1 (same ▸ List.mem_cons_self)
          refine iff_of_true (by simp) ⟨first, List.mem_cons_self, second, ?_, different⟩
          exact List.mem_cons_of_mem _ List.mem_cons_self

theorem distinct_append_constant {γ : Type} {items : List α} {item : α} (new : item ∉ items)
    (block : List γ) :
    distinct (items ++ block.map fun _ => item) =
      distinct items ++ if block.isEmpty then [] else [item] := by
  induction block using List.reverseRecOn with
  | nil => simp
  | append_singleton block last ih =>
      rw [List.map_append, ← List.append_assoc, List.map_singleton, distinct_concat, ih]
      cases block <;> simp [new]

/-- Of more items, all different, those are left which are new. -/
theorem distinct_append {items more : List α} (unique : more.Nodup) :
    distinct (items ++ more) = distinct items ++ more.filter fun item => !items.contains item := by
  induction more using List.reverseRecOn with
  | nil => simp
  | append_singleton more last ih =>
      rw [← List.concat_eq_append, List.nodup_concat] at unique
      rw [← List.append_assoc, distinct_concat, ih unique.2, List.filter_append]
      by_cases known : last ∈ items <;> simp [known, unique.1]

/-- Of items which come in blocks of their own, one is left of each block which is not empty. -/
theorem distinct_blocks {β γ : Type} (key : β → α) (block : β → List γ) {items : List β}
    (unique : (items.map key).Nodup) :
    distinct (items.flatMap fun item => (block item).map fun _ => key item) =
      (items.filter fun item => !(block item).isEmpty).map key := by
  induction items using List.reverseRecOn with
  | nil => rfl
  | append_singleton items last ih =>
      rw [List.map_append, List.map_singleton, ← List.concat_eq_append, List.nodup_concat] at unique
      have new : key last ∉ items.flatMap fun item => (block item).map fun _ => key item := by
        intro member
        obtain ⟨item, inside, same⟩ := List.mem_flatMap.mp member
        obtain ⟨_, _, same⟩ := List.mem_map.mp same
        exact unique.1 (same ▸ List.mem_map_of_mem inside)
      rw [List.flatMap_append, List.flatMap_singleton, distinct_append_constant new,
        ih unique.2, List.filter_append, List.map_append, List.filter_singleton]
      cases (block last).isEmpty <;> rfl

end Distinct

namespace Table

section Lookup

variable {κ α : Type} [BEq κ] [LawfulBEq κ]

theorem mem_of_lookup {table : List (κ × α)} {key : κ} {value : α}
    (found : table.lookup key = some value) : (key, value) ∈ table := by
  induction table with
  | nil => simp at found
  | cons entry rest ih =>
      obtain ⟨other, prior⟩ := entry
      rw [List.lookup_cons] at found
      split at found
      · rename_i same
        rw [eq_of_beq same, ← Option.some.inj found]
        exact List.mem_cons_self
      · exact List.mem_cons_of_mem _ (ih found)

theorem lookup_eq_none {table : List (κ × α)} {key : κ}
    (absent : key ∉ table.map (·.1)) : table.lookup key = none := by
  cases found : table.lookup key with
  | none => rfl
  | some value => exact absurd (List.mem_map_of_mem (mem_of_lookup found)) absent

theorem lookup_of_mem {table : List (κ × α)} (unique : (table.map (·.1)).Nodup) {key : κ} {value : α}
    (member : (key, value) ∈ table) : table.lookup key = some value := by
  induction table with
  | nil => simp at member
  | cons entry rest ih =>
      obtain ⟨other, prior⟩ := entry
      have ⟨fresh, unique⟩ := List.nodup_cons.mp unique
      rw [List.lookup_cons]
      rcases List.mem_cons.mp member with same | later
      · cases same
        simp
      · have different : (key == other) = false := by
          refine beq_false_of_ne fun equal => fresh ?_
          rw [← equal]
          exact List.mem_map_of_mem (f := (·.1)) later
        rw [different]
        exact ih unique later

theorem lookup_map_snd {β : Type} (table : List (κ × α)) (f : κ → α → β) (key : κ) :
    (table.map fun entry => (entry.1, f entry.1 entry.2)).lookup key =
      (table.lookup key).map (f key) := by
  induction table with
  | nil => rfl
  | cons entry rest ih =>
      rw [List.map_cons, List.lookup_cons, List.lookup_cons, ih]
      cases same : key == entry.1 with
      | true =>
          rw [eq_of_beq same]
          rfl
      | false => rfl

theorem lookup_map (keys : List κ) (value : κ → α) (key : κ) :
    (keys.map fun key => (key, value key)).lookup key =
      if keys.contains key then some (value key) else none := by
  induction keys with
  | nil => rfl
  | cons first rest ih =>
      rw [List.map_cons, List.lookup_cons, List.contains_cons, ih]
      cases same : key == first with
      | true => simp [eq_of_beq same]
      | false => simp

/-- A value which no other value shares its key with is the one which is found. -/
theorem lookup_of_only {table : List (κ × α)} {key : κ} {value : α} (member : (key, value) ∈ table)
    (only : ∀ other, (key, other) ∈ table → other = value) : table.lookup key = some value := by
  cases found : table.lookup key with
  | none =>
      have absent := List.lookup_eq_none_iff.mp found (key, value) member
      simp at absent
  | some other => rw [only other (mem_of_lookup found)]

theorem lookup_filter_ne (table : List (κ × α)) {key removed : κ} (other : key ≠ removed) :
    (table.filter (·.1 != removed)).lookup key = table.lookup key := by
  induction table with
  | nil => rfl
  | cons entry rest ih =>
      obtain ⟨found, value⟩ := entry
      by_cases own : found = removed
      · have apart : (key == found) = false := by simpa [own] using other
        rw [List.filter_cons_of_neg (by simp [own]), List.lookup_cons, apart, ih]
      · rw [List.filter_cons_of_pos (by simp [own]), List.lookup_cons, List.lookup_cons, ih]

/-- Tables which have the same entries but those of one key. -/
theorem lookup_of_filter_eq {table changed : List (κ × α)} {key removed : κ}
    (same : changed.filter (·.1 != removed) = table.filter (·.1 != removed)) (other : key ≠ removed) :
    changed.lookup key = table.lookup key := by
  rw [← lookup_filter_ne changed other, same, lookup_filter_ne table other]

/-- What comes of items is the same but for one key, if it is so of each item. -/
theorem filter_filterMap_congr {β γ : Type} {key : β → κ} {name : γ → κ} {entry changed : γ → Option β}
    {removed : κ} (same : ∀ item, name item ≠ removed → changed item = entry item)
    (named : ∀ item value, entry item = some value → key value = name item)
    (changedNamed : ∀ item value, changed item = some value → key value = name item)
    (items : List γ) :
    (items.filterMap changed).filter (key · != removed) =
      (items.filterMap entry).filter (key · != removed) := by
  rw [List.filter_filterMap, List.filter_filterMap]
  refine List.filterMap_congr fun item _ => ?_
  by_cases own : name item = removed
  · have hidden : (entry item).filter (key · != removed) = none :=
      Option.filter_eq_none_iff.mpr fun value given => by simp [named item value given, own]
    have changedHidden : (changed item).filter (key · != removed) = none :=
      Option.filter_eq_none_iff.mpr fun value given => by simp [changedNamed item value given, own]
    rw [changedHidden, hidden]
  · rw [same item own]

omit [LawfulBEq κ] in
theorem put_new {table : List (κ × α)} {key : κ} (new : ∀ entry ∈ table, (entry.1 == key) = false)
    (value : α) : put key value table = table ++ [(key, value)] := by
  induction table with
  | nil => rfl
  | cons entry rest ih =>
      obtain ⟨different, others⟩ := List.forall_mem_cons.mp new
      simp only [put, different, Bool.false_eq_true, if_false, ih others, List.cons_append]

theorem lookup_put (table : List (κ × α)) (key : κ) (value : α) (wanted : κ) :
    (put key value table).lookup wanted =
      if wanted == key then some value else table.lookup wanted := by
  induction table with
  | nil =>
      rw [put, List.lookup_cons]
      cases wanted == key <;> rfl
  | cons entry rest ih =>
      obtain ⟨other, prior⟩ := entry
      rw [put]
      by_cases own : other = key
      · simp only [own, BEq.rfl, if_true, List.lookup_cons]
        cases wanted == key <;> rfl
      · simp only [beq_iff_eq, own, if_false, List.lookup_cons, ih]
        by_cases same : wanted = other
        · simp [same, own]
        · simp only [beq_false_of_ne same]

theorem foldl_put {entries table : List (κ × α)}
    (unique : ((table ++ entries).map (·.1)).Nodup) :
    entries.foldl (fun table entry => put entry.1 entry.2 table) table = table ++ entries := by
  induction entries generalizing table with
  | nil => rw [List.foldl_nil, List.append_nil]
  | cons entry rest ih =>
      have new : ∀ prior ∈ table, (prior.1 == entry.1) = false := by
        intro prior member
        rw [List.map_append, List.nodup_append] at unique
        exact beq_false_of_ne
          (unique.2.2 prior.1 (List.mem_map_of_mem member) entry.1 List.mem_cons_self)
      rw [List.foldl_cons, put_new new, ih (by simpa using unique), List.append_assoc]
      rfl

end Lookup

section Sorting

variable {α : Type}

theorem mem_addSorted {name other : String} {names : List String} :
    name ∈ addSorted other names ↔ name = other ∨ name ∈ names := by
  induction names with
  | nil => simp [addSorted]
  | cons first rest ih =>
      rw [addSorted]
      split
      · rename_i same
        simp [eq_of_beq same]
      · split
        · exact List.mem_cons
        · rw [List.mem_cons, ih, List.mem_cons, or_left_comm]

theorem mem_sortNames {name : String} {names : List String} :
    name ∈ sortNames names ↔ name ∈ names := by
  induction names using List.reverseRecOn with
  | nil => rfl
  | append_singleton names last ih =>
      rw [sortNames] at ih ⊢
      rw [List.foldl_append, List.foldl_cons, List.foldl_nil, mem_addSorted, ih, List.mem_append,
        List.mem_singleton, or_comm]

theorem lookup_putSorted (name : String) (value : α) (table : List (String × α)) (wanted : String) :
    (putSorted name value table).lookup wanted =
      if wanted == name then some value else table.lookup wanted := by
  induction table with
  | nil =>
      rw [putSorted, List.lookup_cons]
      cases wanted == name <;> rfl
  | cons entry rest ih =>
      obtain ⟨other, prior⟩ := entry
      rw [putSorted]
      split
      · rename_i same
        rw [List.lookup_cons, List.lookup_cons, eq_of_beq same]
        cases wanted == other <;> rfl
      · rename_i different
        split
        · rw [List.lookup_cons]
          cases wanted == name <;> rfl
        · rw [List.lookup_cons, List.lookup_cons, ih]
          cases isOther : wanted == other with
          | false => rfl
          | true =>
              have apart : (wanted == name) = false := by
                refine beq_false_of_ne fun isName => different ?_
                rw [← isName, eq_of_beq isOther]
                exact BEq.rfl
              rw [apart]
              rfl

theorem sort_concat (entries : List (String × α)) (entry : String × α) :
    sort (entries ++ [entry]) = putSorted entry.1 entry.2 (sort entries) := by
  rw [sort, List.foldl_append]
  rfl

theorem mem_putSorted_names {name other : String} {value : α} {table : List (String × α)}
    (member : other ∈ (putSorted name value table).map (·.1)) :
    other = name ∨ other ∈ table.map (·.1) := by
  induction table with
  | nil => exact .inl (List.mem_singleton.mp member)
  | cons entry rest ih =>
      rw [putSorted] at member
      split at member
      · exact (List.mem_cons.mp member).imp_right (List.mem_cons_of_mem _)
      · split at member
        · exact List.mem_cons.mp member
        · rcases List.mem_cons.mp member with same | later
          · exact .inr (same ▸ List.mem_cons_self)
          · exact (ih later).imp_right (List.mem_cons_of_mem _)

theorem putSorted_ascending {table : List (String × α)}
    (ascending : (table.map (·.1)).Pairwise (· < ·)) (name : String) (value : α) :
    ((putSorted name value table).map (·.1)).Pairwise (· < ·) := by
  induction table with
  | nil => exact List.pairwise_singleton _ _
  | cons entry rest ih =>
      obtain ⟨below, others⟩ := List.pairwise_cons.mp ascending
      rw [putSorted]
      split
      · rename_i same
        rw [eq_of_beq same]
        exact ascending
      · rename_i different
        split
        · rename_i smaller
          refine List.pairwise_cons.mpr ⟨fun later member => ?_, ascending⟩
          rcases List.mem_cons.mp member with first | later
          · exact first ▸ smaller
          · exact String.lt_trans smaller (below _ later)
        · rename_i larger
          have above : entry.1 < name :=
            Std.lt_of_le_of_ne (String.not_lt.mp larger) fun same => different (by simp [same])
          refine List.pairwise_cons.mpr ⟨fun later member => ?_, ih others⟩
          rcases mem_putSorted_names member with same | later
          · exact same ▸ above
          · exact below _ later

/-- Sorted entries have names of their own. -/
theorem sort_unique (entries : List (String × α)) : ((sort entries).map (·.1)).Nodup := by
  have ascending : ((sort entries).map (·.1)).Pairwise (· < ·) := by
    induction entries using List.reverseRecOn with
    | nil => exact .nil
    | append_singleton entries last ih =>
        rw [sort_concat]
        exact putSorted_ascending ih last.1 last.2
  exact ascending.imp String.ne_of_lt

/-- The last entry of a name counts. -/
theorem lookup_sort_reverse (entries : List (String × α)) (wanted : String) :
    (sort entries).lookup wanted = entries.reverse.lookup wanted := by
  induction entries using List.reverseRecOn with
  | nil => rfl
  | append_singleton entries last ih =>
      rw [sort_concat, lookup_putSorted, ih, List.reverse_append, List.reverse_singleton,
        List.singleton_append, List.lookup_cons]
      cases wanted == last.1 <;> rfl

theorem lookup_sort (names : List String) (value : String → Option α) (wanted : String) :
    (sort (names.filterMap fun name => (value name).map (name, ·))).lookup wanted =
      if wanted ∈ names then value wanted else none := by
  induction names using List.reverseRecOn with
  | nil => rfl
  | append_singleton names last ih =>
      rw [List.filterMap_append]
      cases given : value last with
      | none =>
          have nothing : [last].filterMap (fun name => (value name).map (name, ·)) = [] := by
            simp [given]
          rw [nothing, List.append_nil, ih]
          by_cases same : wanted = last
          · simp [same, given]
          · simp [same]
      | some whole =>
          have single : [last].filterMap (fun name => (value name).map (name, ·)) =
              [(last, whole)] := by simp [given]
          rw [single, sort_concat, lookup_putSorted, ih]
          by_cases same : wanted = last
          · simp [same, given]
          · simp [same]

end Sorting

section Gather

variable {κ α γ : Type} [BEq κ]

/-- Every entry of a list appends its items to those of its key. -/
def gather (key : γ → κ) (items : γ → List α) (entries : List γ) : List (κ × List α) :=
  entries.foldl (fun table entry =>
    put (key entry) ((table.lookup (key entry)).getD [] ++ items entry) table) []

/-- The items of one key. -/
def itemsOf (key : γ → κ) (items : γ → List α) (entries : List γ) (wanted : κ) : List α :=
  (entries.filter (key · == wanted)).flatMap items

theorem itemsOf_concat (key : γ → κ) (items : γ → List α) (entries : List γ) (entry : γ)
    (wanted : κ) :
    itemsOf key items (entries ++ [entry]) wanted =
      itemsOf key items entries wanted ++ if key entry == wanted then items entry else [] := by
  simp only [itemsOf, List.filter_append, List.flatMap_append, List.filter_cons, List.filter_nil]
  split <;> simp

theorem group_eq_gather (keyed : List (κ × α)) :
    group keyed = gather (fun entry => entry.1) (fun entry => [entry.2]) keyed := rfl

variable [LawfulBEq κ]

theorem put_map (keys : List κ) (unique : keys.Nodup) (value : κ → α) (key : κ) (new : α) :
    put key new (keys.map fun key => (key, value key)) =
      if keys.contains key then
        keys.map fun other => (other, if other == key then new else value other)
      else (keys.map fun key => (key, value key)) ++ [(key, new)] := by
  induction keys with
  | nil => rfl
  | cons first rest ih =>
      have ⟨fresh, unique⟩ := List.nodup_cons.mp unique
      rw [List.map_cons, put, List.contains_cons]
      by_cases same : first = key
      · subst same
        have others : ∀ other ∈ rest, (other == first) = false := by
          intro other member
          exact beq_false_of_ne fun equal => fresh (equal ▸ member)
        simp only [BEq.rfl, if_true, Bool.true_or, List.map_cons, List.cons.injEq, true_and]
        exact List.map_congr_left fun other member => by simp [others other member]
      · have different : (first == key) = false := beq_false_of_ne same
        have reversed : (key == first) = false := beq_false_of_ne (Ne.symm same)
        simp only [different, reversed, Bool.false_or, Bool.false_eq_true, if_false, ih unique]
        split <;> simp [different]

theorem itemsOf_eq_nil {key : γ → κ} {items : γ → List α} {entries : List γ} {wanted : κ}
    (absent : wanted ∉ entries.map key) : itemsOf key items entries wanted = [] := by
  have nothing : entries.filter (key · == wanted) = [] := by
    refine List.filter_eq_nil_iff.mpr fun entry member same => absent ?_
    rw [← eq_of_beq same]
    exact List.mem_map_of_mem member
  rw [itemsOf, nothing, List.flatMap_nil]

theorem gather_eq (key : γ → κ) (items : γ → List α) (entries : List γ) :
    gather key items entries =
      (distinct (entries.map key)).map fun wanted => (wanted, itemsOf key items entries wanted) := by
  induction entries using List.reverseRecOn with
  | nil => rfl
  | append_singleton entries last ih =>
      have step : gather key items (entries ++ [last]) =
          put (key last) (((gather key items entries).lookup (key last)).getD [] ++ items last)
            (gather key items entries) := by
        rw [gather, List.foldl_append]
        rfl
      rw [step, ih, lookup_map, put_map _ (nodup_distinct _), List.map_append, List.map_singleton,
        distinct_concat]
      split
      · refine List.map_congr_left fun wanted member => ?_
        rw [itemsOf_concat]
        by_cases same : key last = wanted
        · simp [same]
        · have reversed : wanted ≠ key last := Ne.symm same
          simp [same, reversed]
      · rename_i absent
        have new : key last ∉ entries.map key := fun member =>
          absent (List.contains_iff_mem.mpr (mem_distinct.mpr member))
        rw [List.map_append, List.map_singleton, itemsOf_concat, itemsOf_eq_nil new]
        congr 1
        · refine List.map_congr_left fun wanted member => ?_
          have different : (key last == wanted) = false :=
            beq_false_of_ne fun equal => new (equal ▸ mem_distinct.mp member)
          simp [itemsOf_concat, different]
        · simp

theorem lookup_gather (key : γ → κ) (items : γ → List α) (entries : List γ) (wanted : κ) :
    ((gather key items entries).lookup wanted).getD [] = itemsOf key items entries wanted := by
  rw [gather_eq, lookup_map]
  split
  · rfl
  · rename_i absent
    have new : wanted ∉ entries.map key := fun member =>
      absent (List.contains_iff_mem.mpr (mem_distinct.mpr member))
    rw [itemsOf_eq_nil new]
    rfl

theorem lookup_group (keyed : List (κ × α)) (wanted : κ) :
    ((group keyed).lookup wanted).getD [] =
      (keyed.filter (·.1 == wanted)).map (·.2) := by
  rw [group_eq_gather, lookup_gather, itemsOf, List.map_eq_flatMap]

/-- What is in the table are the groups which are not empty. -/
theorem mem_group {keyed : List (κ × α)} {key : κ} {items : List α} :
    (key, items) ∈ group keyed ↔
      items ≠ [] ∧ items = (keyed.filter (·.1 == key)).map (·.2) := by
  have same : itemsOf (fun entry : κ × α => entry.1) (fun entry => [entry.2]) keyed key =
      (keyed.filter (·.1 == key)).map (·.2) := List.map_eq_flatMap.symm
  rw [group_eq_gather, gather_eq, List.mem_map]
  constructor
  · rintro ⟨wanted, there, found⟩
    obtain ⟨rfl, rfl⟩ := Prod.mk.inj found
    refine ⟨?_, same⟩
    obtain ⟨entry, member, named⟩ := List.mem_map.mp (mem_distinct.mp there)
    rw [same]
    refine List.ne_nil_of_mem (List.mem_map_of_mem (List.mem_filter.mpr ⟨member, ?_⟩))
    exact beq_of_eq named
  · rintro ⟨filled, rfl⟩
    obtain ⟨item, member⟩ := List.exists_mem_of_ne_nil _ filled
    obtain ⟨entry, kept, -⟩ := List.mem_map.mp member
    obtain ⟨inside, named⟩ := List.mem_filter.mp kept
    refine ⟨key, mem_distinct.mpr ?_, by rw [same]⟩
    exact List.mem_map.mpr ⟨entry, inside, eq_of_beq named⟩

/-- A group of keyed items has the values of those which have its key. -/
theorem lookup_group_filterMap (entries : List γ) (key? : γ → Option κ) (value : γ → α)
    (wanted : κ) :
    ((group (entries.filterMap fun entry => (key? entry).map (·, value entry))).lookup
      wanted).getD [] = (entries.filter fun entry => key? entry == some wanted).map value := by
  rw [lookup_group]
  induction entries with
  | nil => rfl
  | cons entry rest ih =>
      rw [List.filterMap_cons, List.filter_cons]
      cases given : key? entry with
      | none => simpa using ih
      | some key =>
          by_cases same : key = wanted
          · simpa [same] using ih
          · simpa [same] using ih

end Gather

/-- The items at the places of those which meet a condition. -/
theorem filterMap_getElem?_zipIdx {α : Type} (items : List α) (keep : α → Bool) :
    ((items.zipIdx.filter fun entry => keep entry.1).map (·.2)).filterMap (items[·]?) =
      items.filter keep := by
  have there : ∀ entry ∈ items.zipIdx.filter fun entry => keep entry.1,
      items[entry.2]? = some entry.1 := by
    intro entry kept
    exact List.mem_zipIdx_iff_getElem?.mp (List.mem_filter.mp kept).1
  calc ((items.zipIdx.filter fun entry => keep entry.1).map (·.2)).filterMap (items[·]?)
    _ = (items.zipIdx.filter fun entry => keep entry.1).filterMap (items[·.2]?) :=
        List.filterMap_map
    _ = (items.zipIdx.filter fun entry => keep entry.1).filterMap fun entry => some entry.1 :=
        List.filterMap_congr there
    _ = (items.zipIdx.map (·.1)).filter keep := by
        rw [List.filterMap_eq_map', List.filter_map]
        rfl
    _ = items.filter keep := by
        rw [List.zipIdx_map_fst]

end Table

end Dossier
