import Dossier.Proofs.Alert.Merging

/-!
Messages of merged matches.

Messages are joined by a separator, and whether a message has been told is read off the joined text
by taking it apart again.  Of messages which do not contain the separator the parts are the messages
that were joined: neither an empty message nor one which ends like the separator begins is mistaken
for another.
-/

namespace Dossier

namespace Text

/-- What stands between joined messages. -/
def separator : String := "; "

/-- A text in which the separator does not occur. -/
def Unseparated (text : String) : Prop :=
  ¬separator.toList <:+: text.toList

end Text

namespace Match

/-- Messages in one text, if there are any. -/
def joined (messages : List String) : Option String :=
  if messages.isEmpty then none else some (Text.separator.intercalate messages)

/-- Where no separator begins, the character belongs to the part which follows. -/
theorem messageParts_cons {c : Char} {rest part : List Char} {parts : List (List Char)}
    (whole : ¬(c = ';' ∧ rest.head? = some ' ')) (cut : messageParts rest = part :: parts) :
    messageParts (c :: rest) = (c :: part) :: parts := by
  rw [messageParts, cut]
  rintro others rfl rfl
  exact whole ⟨rfl, rfl⟩

theorem head_unseparated {c : Char} {rest : List Char}
    (whole : ¬Text.separator.toList <:+: c :: rest) : ¬(c = ';' ∧ rest.head? = some ' ') := by
  rintro ⟨rfl, next⟩
  obtain ⟨others, rfl⟩ := List.head?_eq_some_iff.mp next
  exact whole ⟨[], others, rfl⟩

theorem messageParts_whole {text : List Char} (whole : ¬Text.separator.toList <:+: text) :
    messageParts text = [text] := by
  induction text with
  | nil => rfl
  | cons c rest ih =>
      exact messageParts_cons (head_unseparated whole)
        (ih fun inside => whole (List.infix_cons inside))

theorem messageParts_append {part : List Char} (whole : ¬Text.separator.toList <:+: part)
    (others : List Char) :
    messageParts (part ++ Text.separator.toList ++ others) = part :: messageParts others := by
  induction part with
  | nil => rfl
  | cons c rest ih =>
      refine messageParts_cons ?_ (ih fun inside => whole (List.infix_cons inside))
      cases rest with
      | nil =>
          -- The part ends here, and the separator which follows starts with no space.
          rintro ⟨-, next⟩
          exact absurd (Option.some.inj next) (by decide)
      | cons next rest => exact fun begins => head_unseparated whole begins

theorem messageParts_intercalate {parts : List (List Char)} (filled : parts ≠ [])
    (whole : ∀ part ∈ parts, ¬Text.separator.toList <:+: part) :
    messageParts (Text.separator.toList.intercalate parts) = parts := by
  induction parts with
  | nil => contradiction
  | cons part rest ih =>
      obtain ⟨first, others⟩ := List.forall_mem_cons.mp whole
      cases rest with
      | nil => rw [List.intercalate_singleton, messageParts_whole first]
      | cons next rest =>
          rw [List.intercalate_cons_cons, messageParts_append first,
            ih (List.cons_ne_nil next rest) others]

/-- A message is told by a joined text if it is one of those which were joined. -/
theorem contains_messageParts {messages : List String} (filled : messages ≠ [])
    (whole : ∀ message ∈ messages, Text.Unseparated message) (message : String) :
    (messageParts (Text.separator.intercalate messages).toList).contains message.toList =
      messages.contains message := by
  rw [String.toList_intercalate, messageParts_intercalate (by simpa using filled)
    (List.forall_mem_map.mpr whole), Bool.eq_iff_iff, List.contains_iff_mem, List.contains_iff_mem,
    List.mem_map_of_injective fun _ _ => String.toList_inj.mp]

theorem joinMessages_joined {messages : List String}
    (whole : ∀ message ∈ messages, Text.Unseparated message) (message : String) :
    joinMessages (joined messages) (some message) =
      joined (if messages.contains message then messages else messages ++ [message]) := by
  cases messages with
  | nil =>
      change some message = some (Text.separator.intercalate [message])
      rw [String.intercalate_singleton]
  | cons first rest =>
      have filled : first :: rest ≠ [] := List.cons_ne_nil first rest
      change (if (messageParts (Text.separator.intercalate (first :: rest)).toList).contains
          message.toList then some (Text.separator.intercalate (first :: rest))
        else some (Text.separator.intercalate (first :: rest) ++ Text.separator ++ message)) = _
      rw [contains_messageParts filled whole]
      split
      · rfl
      · rw [joined, String.intercalate_append_of_ne_nil filled (List.cons_ne_nil message []),
          String.intercalate_singleton]
        rfl

end Match

end Dossier
