import SegmentBench.Config.Decode
import SegmentBench.Proofs.Document.Tables

/-!
# Fields of decoded tables

The entries of a table enter the fields of a section one after the other.  A change of
what is known that the other fields do not see can be made before them as well as after
them, so that an entry can be taken out of the table or exchanged.
-/

namespace SegmentBench.Decode

open Document (Value Ordered keys)

variable {α : Type} {shape : Shape α} {known result : α} {key : String} {value : Value}
  {first second : List (String × Value)} {change : α → α}

/-! ## Entries one after the other -/

def Shape.field? (shape : Shape α) (name : String) : Option (Field α) :=
  shape.fields.find? fun field => field.name = name

theorem Shape.field?_eq_some {field : Field α} (hfield : shape.field? key = some field) :
    field ∈ shape.fields ∧ field.name = key := by
  refine ⟨List.mem_of_find?_eq_some hfield, ?_⟩
  simpa using List.find?_some hfield

theorem entries_unknown (hfield : shape.field? key = none) (known : α) :
    entries shape known ((key, value) :: second) = .error (.unknownField key shape.names) := by
  rw [Shape.field?] at hfield
  rw [entries, hfield]

theorem entries_cons {field : Field α} (hfield : shape.field? key = some field) (known : α) :
    entries shape known ((key, value) :: second) =
      field.read value known >>= fun next => entries shape next second := by
  rw [Shape.field?] at hfield
  rw [entries, hfield]

theorem entries_append (shape : Shape α) (known : α) (first second : List (String × Value)) :
    entries shape known (first ++ second) =
      entries shape known first >>= fun next => entries shape next second := by
  induction first generalizing known with
  | nil => rfl
  | cons entry first ih =>
      rw [List.cons_append]
      cases hfield : shape.field? entry.1 with
      | none => rw [entries_unknown hfield, entries_unknown hfield, error_bind]
      | some field =>
          rw [entries_cons hfield, entries_cons hfield]
          cases field.read entry.2 known with
          | error fault => rfl
          | ok next => exact ih next

theorem exists_field (hread : entries shape known (first ++ (key, value) :: second) = .ok result) :
    ∃ field middle next, shape.field? key = some field ∧ entries shape known first = .ok middle ∧
      field.read value middle = .ok next ∧ entries shape next second = .ok result := by
  rw [entries_append] at hread
  obtain ⟨middle, hfirst, hread⟩ := bind_eq_ok hread
  cases hfield : shape.field? key with
  | none =>
      rw [entries_unknown hfield] at hread
      cases hread
  | some field =>
      rw [entries_cons hfield] at hread
      obtain ⟨next, hnext, hread⟩ := bind_eq_ok hread
      exact ⟨field, middle, next, rfl, hfirst, hnext, hread⟩

/-! ## Changes that other fields do not see -/

/-- The fields of other names read the same before and after the change. -/
def Keeps (shape : Shape α) (name : String) (change : α → α) : Prop :=
  ∀ field ∈ shape.fields, field.name ≠ name →
    ∀ value known, field.read value (change known) = (field.read value known).map change

theorem bind_ok_map {β : Type} {read : Except Mismatch β} {before after : β → α}
    (hchange : ∀ content, before content = change (after content)) :
    (read >>= fun content => .ok (before content)) =
      (read >>= fun content => .ok (after content)).map change := by
  cases read with
  | error fault => rfl
  | ok content => exact congrArg Except.ok (hchange content)

theorem Keeps.entries (hkeeps : Keeps shape key change) {pairs : List (String × Value)}
    (hfresh : key ∉ keys pairs) (known : α) :
    entries shape (change known) pairs = (entries shape known pairs).map change := by
  induction pairs generalizing known with
  | nil => rfl
  | cons entry pairs ih =>
      obtain ⟨hne, hrest⟩ := not_or.mp (mt List.mem_cons.mpr hfresh)
      cases hfield : shape.field? entry.1 with
      | none => rw [entries_unknown hfield, entries_unknown hfield, Except.map]
      | some field =>
          obtain ⟨hmem, hname⟩ := Shape.field?_eq_some hfield
          rw [entries_cons hfield, entries_cons hfield,
            hkeeps field hmem (fun heq => hne (heq ▸ hname))]
          cases field.read entry.2 known with
          | error fault => rfl
          | ok next => exact ih hrest next

def Forgets (shape : Shape α) (name : String) (change : α → α) : Prop :=
  ∀ field ∈ shape.fields, field.name = name →
    ∀ value known next, field.read value known = .ok next → change next = change known

theorem change_eq_of_bind_ok {β : Type} {read : Except Mismatch β} {enter : β → α}
    (change : α → α) (hchange : ∀ content, change (enter content) = change known)
    (hread : (read >>= fun content => .ok (enter content)) = .ok result) :
    change result = change known := by
  obtain ⟨content, -, hresult⟩ := bind_eq_ok hread
  exact Except.ok.inj hresult ▸ hchange content

theorem entries_erase (hkeeps : Keeps shape key change) (hforgets : Forgets shape key change)
    (hfirst : key ∉ keys first) (hsecond : key ∉ keys second) (hknown : change known = known)
    (hread : entries shape known (first ++ (key, value) :: second) = .ok result) :
    entries shape known (first ++ second) = .ok (change result) := by
  obtain ⟨field, middle, next, hfield, hmiddle, hnext, hresult⟩ := exists_field hread
  obtain ⟨hmem, hname⟩ := Shape.field?_eq_some hfield
  have hsame : change middle = middle := by
    have hkept := hkeeps.entries hfirst known
    rw [hknown, hmiddle] at hkept
    exact (Except.ok.inj hkept).symm
  rw [entries_append, hmiddle, ok_bind, ← hsame, ← hforgets field hmem hname _ _ _ hnext,
    hkeeps.entries hsecond, hresult, Except.map]

theorem keeps_only {field : Field α} (hfields : shape.fields = [field]) (change : α → α) :
    Keeps shape field.name change := by
  intro other hother hne
  rw [hfields, List.mem_singleton] at hother
  exact absurd (congrArg Field.name hother) hne

theorem forgets_const (shape : Shape α) (name : String) (known : α) :
    Forgets shape name fun _ => known :=
  fun _ _ _ _ _ _ _ => rfl

theorem fields_erase (hkeeps : Keeps shape key change) (hforgets : Forgets shape key change)
    (hknown : change known = known) (hordered : Ordered (first ++ (key, value) :: second))
    (hread : fields shape known (.table (first ++ (key, value) :: second)) = .ok result) :
    fields shape known (.table (first ++ second)) = .ok (change result) :=
  entries_erase hkeeps hforgets hordered.notMem_keys.1 hordered.notMem_keys.2 hknown hread

theorem fields_erase_only (shape : Shape α) {field : Field α} (hfields : shape.fields = [field])
    (hordered : Ordered (first ++ (field.name, value) :: second))
    (hread : fields shape known (.table (first ++ (field.name, value) :: second)) = .ok result) :
    fields shape known (.table (first ++ second)) = .ok known :=
  fields_erase (keeps_only hfields _) (forgets_const shape field.name known) rfl hordered hread

/-! ## Another value for an entry -/

theorem entries_replace {other : Value} (hkeeps : Keeps shape key change)
    (hsecond : key ∉ keys second)
    (hread : entries shape known (first ++ (key, value) :: second) = .ok result)
    (hother : ∀ field ∈ shape.fields, field.name = key → ∀ middle next,
      field.read value middle = .ok next → field.read other middle = .ok (change next)) :
    entries shape known (first ++ (key, other) :: second) = .ok (change result) := by
  obtain ⟨field, middle, next, hfield, hmiddle, hnext, hresult⟩ := exists_field hread
  obtain ⟨hmem, hname⟩ := Shape.field?_eq_some hfield
  rw [entries_append, hmiddle, ok_bind, entries_cons hfield,
    hother field hmem hname _ _ hnext, ok_bind, hkeeps.entries hsecond, hresult, Except.map]

theorem entries_replace_error {other : Value} {fault : Mismatch}
    (hread : entries shape known (first ++ (key, value) :: second) = .ok result)
    (hother : ∀ field ∈ shape.fields, field.name = key → ∀ middle next,
      field.read value middle = .ok next → field.read other middle = .error fault) :
    entries shape known (first ++ (key, other) :: second) = .error fault := by
  obtain ⟨field, middle, next, hfield, hmiddle, hnext, -⟩ := exists_field hread
  obtain ⟨hmem, hname⟩ := Shape.field?_eq_some hfield
  rw [entries_append, hmiddle, ok_bind, entries_cons hfield,
    hother field hmem hname _ _ hnext, error_bind]

/-! ## What an entry tells -/

section

variable {β : Type} {look : α → β} {reads : Value → β → Prop} {pairs : List (String × Value)}

/-- What is looked at is told by the entry of the name, and no other changes it. -/
def Tells (shape : Shape α) (name : String) (look : α → β) (reads : Value → β → Prop) : Prop :=
  ∀ field ∈ shape.fields, ∀ value known next, field.read value known = .ok next →
    if field.name = name then reads value (look next) else look next = look known

theorem Tells.unchanged (htells : Tells shape key look reads) (hfresh : key ∉ keys pairs)
    (hread : entries shape known pairs = .ok result) : look result = look known := by
  induction pairs generalizing known with
  | nil =>
      cases hread
      rfl
  | cons entry pairs ih =>
      obtain ⟨hne, hrest⟩ := not_or.mp (mt List.mem_cons.mpr hfresh)
      cases hfield : shape.field? entry.1 with
      | none =>
          rw [entries_unknown hfield] at hread
          cases hread
      | some field =>
          obtain ⟨hmem, hname⟩ := Shape.field?_eq_some hfield
          rw [entries_cons hfield] at hread
          obtain ⟨next, hnext, hread⟩ := bind_eq_ok hread
          have hkept := htells field hmem _ _ _ hnext
          have hother : field.name ≠ key := fun heq => hne (heq ▸ hname)
          rw [if_neg hother] at hkept
          rw [ih hrest hread, hkept]

theorem Tells.lookup_cases (htells : Tells shape key look reads) (hordered : Ordered pairs)
    (hread : entries shape known pairs = .ok result) :
    pairs.lookup key = none ∧ look result = look known ∨
      ∃ value, pairs.lookup key = some value ∧ reads value (look result) := by
  cases hlookup : pairs.lookup key with
  | none =>
      have hfresh : key ∉ keys pairs := by
        rw [← Document.isSome_lookup_iff, hlookup]
        exact Bool.false_ne_true
      exact .inl ⟨rfl, htells.unchanged hfresh hread⟩
  | some value =>
      obtain ⟨first, second, rfl, -⟩ := List.lookup_eq_some_iff.mp hlookup
      obtain ⟨field, middle, next, hfield, -, hnext, hresult⟩ := exists_field hread
      obtain ⟨hmem, hname⟩ := Shape.field?_eq_some hfield
      have htold := htells field hmem _ _ _ hnext
      rw [if_pos hname] at htold
      rw [htells.unchanged hordered.notMem_keys.2 hresult]
      exact .inr ⟨value, rfl, htold⟩

theorem Tells.rel {look : α → Option β}
    (htells : Tells shape key look fun value content =>
      ∃ given, content = some given ∧ reads value given)
    (hordered : Ordered pairs) (hknown : look known = none)
    (hread : entries shape known pairs = .ok result) :
    Option.Rel reads (pairs.lookup key) (look result) := by
  obtain ⟨hnone, hsame⟩ | ⟨value, hvalue, given, hgiven, htold⟩ :=
    htells.lookup_cases hordered hread
  · rw [hnone, hsame, hknown]
    exact .none
  · rw [hvalue, hgiven]
    exact .some htold

end

/-! ## Tables that are accepted -/

def Fits (shape : Shape α) (entry : String × Value) : Prop :=
  ∃ field, shape.field? entry.1 = some field ∧
    ∀ known, ∃ next, field.read entry.2 known = .ok next

theorem exists_entries {pairs : List (String × Value)} (hfits : ∀ entry ∈ pairs, Fits shape entry)
    (known : α) : ∃ result, entries shape known pairs = .ok result := by
  induction pairs generalizing known with
  | nil => exact ⟨known, rfl⟩
  | cons entry pairs ih =>
      obtain ⟨⟨field, hfield, hread⟩, hrest⟩ := List.forall_mem_cons.mp hfits
      obtain ⟨next, hnext⟩ := hread known
      rw [entries_cons hfield, hnext, ok_bind]
      exact ih hrest next

end SegmentBench.Decode
