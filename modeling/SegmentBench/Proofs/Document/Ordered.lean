import SegmentBench.Proofs.Document.Tables

/-!
# Documents in the order of their keys

In whatever order a document gives its keys, and whether by headers, dots or inline tables,
each table of its value is ordered by its keys.  So no key stands in a table twice, at any
depth.
-/

namespace SegmentBench.Document

/-! ## Ordered values -/

def Value.isScalar : Value → Bool
  | .array _ | .table _ => false
  | .string _ | .integer _ | .float _ | .boolean _ | .moment | .oversized => true

inductive Value.IsOrdered : Value → Prop where
  | scalar {value : Value} (single : value.isScalar = true) : IsOrdered value
  | array {items : List Value} (values : ∀ item ∈ items, IsOrdered item) :
      IsOrdered (.array items)
  | table {entries : List (String × Value)} (ordered : Ordered entries)
      (values : ∀ entry ∈ entries, IsOrdered entry.2) : IsOrdered (.table entries)

theorem Value.IsOrdered.of_table {entries : List (String × Value)}
    (hvalue : (Value.table entries).IsOrdered) :
    Ordered entries ∧ ∀ entry ∈ entries, entry.2.IsOrdered := by
  cases hvalue with
  | scalar hsingle => cases hsingle
  | table hordered hvalues => exact ⟨hordered, hvalues⟩

inductive Node.IsOrdered : Node → Prop where
  | leaf {value : Value} (inner : value.IsOrdered) : IsOrdered (.leaf value)
  | table {origin : Origin} {entries : List (String × Node)} (ordered : Ordered entries)
      (nodes : ∀ entry ∈ entries, IsOrdered entry.2) : IsOrdered (.table origin entries)
  | tables {items : List (List (String × Node))} (ordered : ∀ entries ∈ items, Ordered entries)
      (nodes : ∀ entries ∈ items, ∀ entry ∈ entries, IsOrdered entry.2) :
      IsOrdered (.tables items)

theorem mem_of_lookup {α : Type} {key : String} {content : α} {table : List (String × α)}
    (hlookup : table.lookup key = some content) : (key, content) ∈ table := by
  obtain ⟨first, second, rfl, -⟩ := List.lookup_eq_some_iff.mp hlookup
  exact List.mem_append_right _ List.mem_cons_self

theorem Ordered.lookup_eq {α : Type} {key : String} {content : α} {table : List (String × α)}
    (hordered : Ordered table) (hmem : (key, content) ∈ table) :
    table.lookup key = some content := by
  obtain ⟨first, second, rfl⟩ := List.append_of_mem hmem
  have hfresh : first.lookup key = none :=
    Option.not_isSome_iff_eq_none.mp (mt isSome_lookup_iff.mp hordered.notMem_keys.1)
  rw [List.lookup_append, hfresh, Option.none_or, List.lookup_cons_self]

/-! ## Entering a tree of tables -/

structure SoundEntries (entries : Entries) : Prop where
  ordered : Ordered entries
  nodes : ∀ entry ∈ entries, entry.2.IsOrdered

namespace SoundEntries

variable {entries result : Entries} {key : String} {node : Node}

theorem nil : SoundEntries [] := ⟨.nil, fun _ hmem => absurd hmem List.not_mem_nil⟩

theorem table (hentries : SoundEntries entries) (origin : Origin) :
    (Node.table origin entries).IsOrdered :=
  .table hentries.ordered hentries.nodes

theorem tables {items : List Entries} (hitems : ∀ entries ∈ items, SoundEntries entries) :
    (Node.tables items).IsOrdered :=
  .tables (fun entries hmem => (hitems entries hmem).ordered)
    fun entries hmem => (hitems entries hmem).nodes

theorem put (hentries : SoundEntries entries) (hnode : node.IsOrdered) :
    SoundEntries (put key node entries) := by
  rw [put_eq_insert]
  refine ⟨ordered_insert hentries.ordered, fun entry hmem => ?_⟩
  obtain rfl | hmem := mem_insert hmem
  · exact hnode
  · exact hentries.nodes entry hmem

theorem lookup (hentries : SoundEntries entries) (hlookup : entries.lookup key = some node) :
    node.IsOrdered :=
  hentries.nodes _ (mem_of_lookup hlookup)

theorem of_table {origin : Origin} (hentries : SoundEntries entries)
    (hlookup : entries.lookup key = some (.table origin result)) : SoundEntries result := by
  cases hentries.lookup hlookup with
  | table hordered hnodes => exact ⟨hordered, hnodes⟩

theorem of_tables {items : List Entries} (hentries : SoundEntries entries)
    (hlookup : entries.lookup key = some (.tables items)) :
    ∀ entries ∈ items, SoundEntries entries := by
  cases hentries.lookup hlookup with
  | tables hordered hnodes => exact fun entries hmem => ⟨hordered entries hmem, hnodes entries hmem⟩

/-- What a change at the end of a path keeps is kept by the tables on the way. -/
theorem descend {made origin : Origin} {path : List String}
    {change : Origin → Entries → Except Fault Entries}
    (hchange : ∀ origin {entries result : Entries}, SoundEntries entries →
      change origin entries = .ok result → SoundEntries result)
    (hentries : SoundEntries entries)
    (hread : descend made change origin entries path = .ok result) : SoundEntries result := by
  induction path generalizing origin entries result with
  | nil => exact hchange origin hentries hread
  | cons key path ih =>
      rw [Document.descend] at hread
      split at hread
      · obtain ⟨inner, hinner, hresult⟩ := bind_eq_ok hread
        cases hresult
        exact hentries.put ((ih nil hinner).table made)
      · rename_i found inner hlookup
        split at hread
        · cases hread
        obtain ⟨inner, hinner, hresult⟩ := bind_eq_ok hread
        cases hresult
        exact hentries.put ((ih (hentries.of_table hlookup) hinner).table found)
      · rename_i last earlier hlookup
        obtain ⟨hlast, hearlier⟩ := List.forall_mem_cons.mp (hentries.of_tables hlookup)
        obtain ⟨last, hinner, hresult⟩ := bind_eq_ok hread
        cases hresult
        exact hentries.put (tables (List.forall_mem_cons.mpr ⟨ih hlast hinner, hearlier⟩))
      · cases hread

theorem assign {assignment : Assignment} (hentries : SoundEntries entries)
    (hvalue : assignment.value.IsOrdered) (hread : assign entries assignment = .ok result) :
    SoundEntries result := by
  refine descend (fun origin entries result hentries hread => ?_) hentries hread
  split at hread
  · cases hread
  · cases hread
    exact hentries.put (.leaf hvalue)

theorem fill {body : List Assignment} (hentries : SoundEntries entries)
    (hbody : ∀ assignment ∈ body, assignment.value.IsOrdered)
    (hread : fill entries body = .ok result) : SoundEntries result := by
  induction body generalizing entries with
  | nil =>
      cases hread
      exact hentries
  | cons assignment body ih =>
      obtain ⟨hfirst, hrest⟩ := List.forall_mem_cons.mp hbody
      rw [Document.fill, List.foldlM_cons] at hread
      obtain ⟨next, hnext, hread⟩ := bind_eq_ok hread
      exact ih (hentries.assign hfirst hnext) hrest hread

section

variable {name : String} {body : List Assignment}

theorem openTable (hentries : SoundEntries entries)
    (hbody : ∀ assignment ∈ body, assignment.value.IsOrdered)
    (hread : openTable name body entries = .ok result) : SoundEntries result := by
  unfold Document.openTable at hread
  split at hread
  · obtain ⟨inner, hinner, hresult⟩ := bind_eq_ok hread
    cases hresult
    exact hentries.put ((nil.fill hbody hinner).table .header)
  · rename_i hlookup
    obtain ⟨inner, hinner, hresult⟩ := bind_eq_ok hread
    cases hresult
    exact hentries.put (((hentries.of_table hlookup).fill hbody hinner).table .header)
  · cases hread

theorem addTable (hentries : SoundEntries entries)
    (hbody : ∀ assignment ∈ body, assignment.value.IsOrdered)
    (hread : addTable name body entries = .ok result) : SoundEntries result := by
  unfold Document.addTable at hread
  split at hread
  · obtain ⟨inner, hinner, hresult⟩ := bind_eq_ok hread
    cases hresult
    exact hentries.put (tables (List.forall_mem_singleton.mpr (nil.fill hbody hinner)))
  · rename_i hlookup
    obtain ⟨inner, hinner, hresult⟩ := bind_eq_ok hread
    cases hresult
    have hitems := hentries.of_tables hlookup
    exact hentries.put (tables (List.forall_mem_cons.mpr ⟨nil.fill hbody hinner, hitems⟩))
  · cases hread

end

theorem enter {part : Section} (hentries : SoundEntries entries)
    (hbody : ∀ assignment ∈ part.body, assignment.value.IsOrdered)
    (hread : enter entries part = .ok result) : SoundEntries result := by
  refine descend (fun origin entries result hentries hread => ?_) hentries hread
  split at hread
  · exact hentries.addTable hbody hread
  · exact hentries.openTable hbody hread

theorem enterAll {parts : List Section} (hentries : SoundEntries entries)
    (hparts : ∀ part ∈ parts, ∀ assignment ∈ part.body, assignment.value.IsOrdered)
    (hread : parts.foldlM Document.enter entries = .ok result) : SoundEntries result := by
  induction parts generalizing entries with
  | nil =>
      cases hread
      exact hentries
  | cons part parts ih =>
      obtain ⟨hfirst, hrest⟩ := List.forall_mem_cons.mp hparts
      rw [List.foldlM_cons] at hread
      obtain ⟨next, hnext, hread⟩ := bind_eq_ok hread
      exact ih (hentries.enter hfirst hnext) hrest hread

end SoundEntries

/-! ## The value of a tree -/

theorem mem_tableValues {items : List Entries} {done : List Value} {value : Value}
    (hmem : value ∈ tableValues items done) :
    value ∈ done ∨ ∃ entries ∈ items, value = .table (entryValues entries) := by
  induction items generalizing done with
  | nil => exact .inl hmem
  | cons entries items ih =>
      obtain hdone | ⟨others, hothers, rfl⟩ := ih hmem
      · obtain rfl | hdone := List.mem_cons.mp hdone
        · exact .inr ⟨entries, List.mem_cons_self, rfl⟩
        · exact .inl hdone
      · exact .inr ⟨others, List.mem_cons_of_mem _ hothers, rfl⟩

theorem isOrdered_entryValues {entries : Entries} (hordered : Ordered entries)
    (hvalues : ∀ entry ∈ entries, entry.2.value.IsOrdered) :
    (Value.table (entryValues entries)).IsOrdered := by
  rw [entryValues_eq]
  refine .table ((ordered_mapValues_iff _).mpr hordered) ?_
  exact List.forall_mem_map.mpr hvalues

theorem Node.IsOrdered.value {node : Node} (hnode : node.IsOrdered) : node.value.IsOrdered := by
  induction hnode with
  | leaf hvalue => exact hvalue
  | table hordered _ ih => exact isOrdered_entryValues hordered ih
  | tables hordered _ ih =>
      refine .array fun value hmem => ?_
      obtain hdone | ⟨entries, hentries, rfl⟩ := mem_tableValues hmem
      · exact absurd hdone List.not_mem_nil
      · exact isOrdered_entryValues (hordered entries hentries) (ih entries hentries)

theorem SoundEntries.value {entries : Entries} (hentries : SoundEntries entries) :
    (Value.table (entryValues entries)).IsOrdered :=
  (hentries.table .header).value

/-! ## Reading values -/

def Gives {α : Type} (holds : α → Prop) (read : Except Fault (α × List Char)) : Prop :=
  ∀ content rest, read = .ok (content, rest) → holds content

namespace Gives

variable {α β : Type} {holds : α → Prop} {holds' : β → Prop}

theorem error {fault : Fault} : Gives holds (.error fault) := by
  rintro content rest ⟨⟩

theorem ok {content : α} {rest : List Char} (hcontent : holds content) :
    Gives holds (.ok (content, rest)) := by
  rintro _ _ ⟨⟩
  exact hcontent

theorem bind {read : Except Fault (α × List Char)}
    {next : α × List Char → Except Fault (β × List Char)} (hread : Gives holds read)
    (hnext : ∀ content rest, holds content → Gives holds' (next (content, rest))) :
    Gives holds' (read >>= next) := by
  intro content rest hok
  obtain ⟨first, hfirst, hok⟩ := bind_eq_ok hok
  exact hnext _ _ (hread _ _ hfirst) _ _ hok

theorem lift {read : Except Fault α} {next : α → Except Fault (β × List Char)}
    (hnext : ∀ content, read = .ok content → Gives holds' (next content)) :
    Gives holds' (read >>= next) := by
  intro content rest hok
  obtain ⟨first, hfirst, hok⟩ := bind_eq_ok hok
  exact hnext first hfirst _ _ hok

theorem map {read : Except Fault (α × List Char)} {f : α → β} (hread : Gives holds read)
    (hmap : ∀ content, holds content → holds' (f content)) :
    Gives holds' (read.map fun (content, rest) => (f content, rest)) := by
  intro content rest hok
  cases hresult : read with
  | error fault =>
      rw [hresult] at hok
      cases hok
  | ok first =>
      rw [hresult] at hok
      cases hok
      exact hmap _ (hread _ _ hresult)

end Gives

theorem isScalar_integer (number : Int) : (integer number).isScalar = true := by
  unfold integer
  split <;> rfl

theorem isScalar_number? {text : List Char} {value : Value} (hread : number? text = some value) :
    value.isScalar = true := by
  unfold number? wholeNumber float at hread
  grind [Value.isScalar, isScalar_integer]

theorem isScalar_signedWord {text : List Char} {value : Value}
    (hread : signedWord text = .ok value) : value.isScalar = true := by
  unfold signedWord at hread
  grind [Value.isScalar, isScalar_number?]

theorem isScalar_basedInteger {base : Nat} {text : List Char} {value : Value}
    (hread : basedInteger base text = .ok value) : value.isScalar = true := by
  unfold basedInteger at hread
  grind [Value.isScalar, isScalar_integer]

theorem isScalar_word {text : List Char} {value : Value} (hread : word text = .ok value) :
    value.isScalar = true := by
  unfold word at hread
  grind [Value.isScalar, isScalar_signedWord, isScalar_basedInteger]

theorem gives_scalar (text : List Char) : Gives Value.IsOrdered (scalar text) := by
  unfold scalar
  cases string? text with
  | some read =>
      have hread : Gives (fun _ => True) read := fun _ _ _ => trivial
      refine hread.map fun content _ => (?_ : (Value.string (String.ofList content)).IsOrdered)
      exact .scalar rfl
  | none =>
      dsimp only
      split
      · exact .error
      · exact .lift fun content hword => .ok (.scalar (isScalar_word hword))

theorem isOrdered_inlineTable {body : List Assignment} {value : Value}
    (hbody : ∀ assignment ∈ body, assignment.value.IsOrdered)
    (hread : inlineTable body = .ok value) : value.IsOrdered := by
  obtain ⟨entries, hentries, hread⟩ := bind_eq_ok hread
  cases hread
  exact (SoundEntries.nil.fill hbody hentries).value

theorem forall_mem_reverse {α : Type} {holds : α → Prop} {done : List α}
    (hdone : ∀ element ∈ done, holds element) : ∀ element ∈ done.reverse, holds element :=
  fun element hmem => hdone element (List.mem_reverse.mp hmem)

theorem gives_values (fuel : Nat) :
    (∀ depth text, Gives Value.IsOrdered (value depth fuel text)) ∧
    (∀ depth done text, (∀ item ∈ done, item.IsOrdered) →
      Gives Value.IsOrdered (items depth done fuel text)) ∧
    (∀ depth done text, (∀ assignment ∈ done, assignment.value.IsOrdered) →
      Gives Value.IsOrdered (members depth done fuel text)) ∧
    ∀ inline depth text,
      Gives (fun read => read.value.IsOrdered) (assignment inline depth fuel text) := by
  -- the four readers call one another, each with less fuel
  induction fuel with
  | zero =>
      exact ⟨fun _ _ => .error, fun _ _ _ _ => .error, fun _ _ _ _ => .error, fun _ _ _ => .error⟩
  | succ fuel ih =>
      obtain ⟨hvalue, hitems, hmembers, hassignment⟩ := ih
      refine ⟨?_, ?_, ?_, ?_⟩
      · intro depth text
        match text with
        | [] => exact .error
        | c :: rest =>
            by_cases hbracket : c = '['
            · subst hbracket
              cases depth with
              | zero => exact .error
              | succ depth => exact hitems depth [] rest (by simp)
            by_cases hbrace : c = '\x7b'
            · subst hbrace
              cases depth with
              | zero => exact .error
              | succ depth => exact hmembers depth [] rest (by simp)
            · rw [value_scalar hbracket hbrace]
              exact gives_scalar (c :: rest)
      · intro depth done text hdone
        rw [items]
        refine .lift fun rest _ => ?_
        split
        · exact .ok (.array (forall_mem_reverse hdone))
        refine Gives.bind (hvalue _ _) fun item rest hitem => .lift fun rest _ => ?_
        have hall := List.forall_mem_cons.mpr ⟨hitem, hdone⟩
        split
        · exact hitems _ _ _ hall
        · exact .ok (.array (forall_mem_reverse hall))
        · exact .error
        · exact .error
      · intro depth done text hdone
        rw [members]
        refine .lift fun rest _ => ?_
        split
        · refine .lift fun content htable => .ok (isOrdered_inlineTable ?_ htable)
          exact forall_mem_reverse hdone
        refine Gives.bind (hassignment _ _ _) fun read rest hread => .lift fun rest _ => ?_
        have hall : ∀ assignment ∈ read :: done, assignment.value.IsOrdered :=
          List.forall_mem_cons.mpr ⟨hread, hdone⟩
        split
        · exact hmembers _ _ _ hall
        · refine .lift fun content htable => .ok (isOrdered_inlineTable ?_ htable)
          exact forall_mem_reverse hall
        · exact .error
        · exact .error
      · intro inline depth text
        rw [assignment]
        refine .lift fun read _ => .lift fun rest _ => ?_
        split
        · refine .lift fun rest _ => Gives.bind (hvalue _ _) fun content rest hcontent => ?_
          exact .ok hcontent
        · exact .error

/-! ## Reading documents -/

inductive Item.IsOrdered : Item → Prop where
  | header (header : Header) : IsOrdered (.header header)
  | assignment {assignment : Assignment} (inner : assignment.value.IsOrdered) :
      IsOrdered (.assignment assignment)

theorem gives_item (fuel : Nat) (c : Char) (rest : List Char) :
    Gives Item.IsOrdered (item fuel (c :: rest)) := by
  have hany (read : Except Fault (Header × List Char)) : Gives (fun _ => True) read :=
    fun _ _ _ => trivial
  obtain ⟨more, hmore⟩ | ⟨rfl, hsingle⟩ | hbracket := statement_cases c rest
  · rw [hmore]
    exact (hany _).map fun header _ => .header header
  · rw [item_header hsingle]
    exact (hany _).map fun header _ => .header header
  · rw [item_assignment hbracket]
    exact ((gives_values fuel).2.2.2 _ _ _).map fun _ hvalue => .assignment hvalue

theorem isOrdered_scan {fuel : Nat} {text : List Char} {items : List Item}
    (hread : scan fuel text = .ok items) : ∀ item ∈ items, item.IsOrdered := by
  induction fuel generalizing text items with
  | zero => cases hread
  | succ fuel ih =>
      rw [scan_succ] at hread
      obtain ⟨rest, -, hread⟩ := bind_eq_ok hread
      match rest with
      | [] =>
          cases hread
          exact fun item hmem => absurd hmem List.not_mem_nil
      | c :: rest =>
          obtain ⟨content, behind, next, others, hitem, -, hothers, rfl⟩ := scanFrom_eq_ok hread
          exact List.forall_mem_cons.mpr ⟨gives_item fuel c rest _ _ hitem, ih hothers⟩

structure Outline.IsOrdered (outline : Outline) : Prop where
  top : ∀ assignment ∈ outline.top, assignment.value.IsOrdered
  sections : ∀ part ∈ outline.sections, ∀ assignment ∈ part.body, assignment.value.IsOrdered

theorem Outline.isOrdered_ofItems {items : List Item} (hitems : ∀ item ∈ items, item.IsOrdered) :
    (ofItems items).IsOrdered := by
  induction items with
  | nil => exact ⟨by simp [ofItems], by simp [ofItems]⟩
  | cons item items ih =>
      obtain ⟨hitem, hrest⟩ := List.forall_mem_cons.mp hitems
      obtain ⟨htop, hsections⟩ := ih hrest
      cases hitem with
      | assignment hvalue => exact ⟨List.forall_mem_cons.mpr ⟨hvalue, htop⟩, hsections⟩
      | header header => exact ⟨by simp [ofItems], List.forall_mem_cons.mpr ⟨htop, hsections⟩⟩

theorem Outline.IsOrdered.value {outline : Outline} (houtline : outline.IsOrdered)
    {content : Value} (hread : outline.value = .ok content) :
    ∃ root, content = .table root ∧ content.IsOrdered := by
  obtain ⟨top, htop, hread⟩ := bind_eq_ok hread
  obtain ⟨entries, hentries, hread⟩ := bind_eq_ok hread
  cases hread
  have hsound := SoundEntries.nil.fill houtline.top htop
  exact ⟨_, rfl, (hsound.enterAll houtline.sections hentries).value⟩

theorem isOrdered_outline {text : List Char} {result : Outline}
    (hread : outline text = .ok result) : result.IsOrdered := by
  rw [outline, lines_eq_scan] at hread
  cases hscan : scan (4 * (skipMark text).length + 4) (skipMark text) with
  | error fault =>
      rw [hscan] at hread
      cases hread
  | ok items =>
      rw [hscan] at hread
      cases hread
      rw [Reading.outlineOf_eq]
      exact Outline.isOrdered_ofItems (isOrdered_scan hscan)

/-- A document is a table, and all of it is ordered by its keys. -/
theorem isOrdered_read {text : List Char} {content : Value} (hread : read text = .ok content) :
    ∃ root, content = .table root ∧ content.IsOrdered := by
  obtain ⟨result, hresult, hread⟩ := bind_eq_ok hread
  exact (isOrdered_outline hresult).value hread

end SegmentBench.Document
