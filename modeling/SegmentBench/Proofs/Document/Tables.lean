import Mathlib.Data.List.Nodup
import Mathlib.Data.String.Basic
import SegmentBench.Proofs.Document.Statements

/-!
# The tables of plain documents

A document is plain when its headers and keys are single names.  Its value is then the
table of its sections, each sorted by its keys, and it has one exactly when no name
stands twice in one place.
-/

namespace SegmentBench.Document

/-! ## Sorted tables -/

section

variable {α β : Type}

def insert (key : String) (content : α) : List (String × α) → List (String × α)
  | [] => [(key, content)]
  | (other, old) :: rest =>
      if key < other then (key, content) :: (other, old) :: rest
      else if key = other then (key, content) :: rest
      else (other, old) :: insert key content rest

def insertAll (table pairs : List (String × α)) : List (String × α) :=
  pairs.foldl (fun table pair => insert pair.1 pair.2 table) table

def sorted (pairs : List (String × α)) : List (String × α) := insertAll [] pairs

def keys (pairs : List (String × α)) : List String := pairs.map Prod.fst

def mapValues (f : α → β) (pairs : List (String × α)) : List (String × β) :=
  pairs.map fun pair => (pair.1, f pair.2)

variable {key : String} {content : α} {table pairs : List (String × α)}

theorem insert_perm (hfresh : key ∉ keys table) :
    (insert key content table).Perm ((key, content) :: table) := by
  induction table with
  | nil => exact .refl _
  | cons pair rest ih =>
      obtain ⟨hne, hrest⟩ := not_or.mp (mt List.mem_cons.mpr hfresh)
      rw [insert, if_neg hne]
      split
      · exact .refl _
      · exact ((ih hrest).cons pair).trans (.swap _ _ _)

theorem nodup_insert_iff (first : List String) (content : α) (hfresh : key ∉ keys table) :
    (first ++ keys (insert key content table)).Nodup ↔ (key :: first ++ keys table).Nodup := by
  have hkeys : (keys (insert key content table)).Perm (key :: keys table) :=
    (insert_perm hfresh).map Prod.fst
  exact ((hkeys.append_left first).trans List.perm_middle).nodup_iff

theorem insertAll_perm (hdistinct : (keys pairs ++ keys table).Nodup) :
    (insertAll table pairs).Perm (pairs ++ table) := by
  induction pairs generalizing table with
  | nil => exact .refl _
  | cons pair pairs ih =>
      have hfresh : pair.1 ∉ keys table := by
        have hhead := (List.nodup_cons.mp hdistinct).1
        exact mt (List.mem_append_right _) hhead
      have hrest := ih ((nodup_insert_iff _ pair.2 hfresh).mpr hdistinct)
      exact hrest.trans (((insert_perm hfresh).append_left pairs).trans List.perm_middle)

theorem sorted_perm (hdistinct : (keys pairs).Nodup) : (sorted pairs).Perm pairs := by
  have hperm : (insertAll [] pairs).Perm (pairs ++ []) :=
    insertAll_perm (by simpa [keys] using hdistinct)
  rwa [List.append_nil] at hperm

def Ordered (table : List (String × α)) : Prop :=
  table.Pairwise fun first second => first.1 < second.1

theorem mem_insert {pair : String × α} (hmem : pair ∈ insert key content table) :
    pair = (key, content) ∨ pair ∈ table := by
  induction table with
  | nil => simpa [insert] using hmem
  | cons other rest ih =>
      rw [insert] at hmem
      split at hmem
      · exact List.mem_cons.mp hmem
      split at hmem
      · exact (List.mem_cons.mp hmem).imp_right (List.mem_cons_of_mem _)
      · obtain rfl | hrest := List.mem_cons.mp hmem
        · exact .inr List.mem_cons_self
        · exact (ih hrest).imp_right (List.mem_cons_of_mem _)

theorem ordered_insert (hordered : Ordered table) : Ordered (insert key content table) := by
  induction table with
  | nil => exact List.pairwise_singleton ..
  | cons other rest ih =>
      obtain ⟨hother, hrest⟩ := List.pairwise_cons.mp hordered
      rw [insert]
      split
      · rename_i hlt
        refine List.pairwise_cons.mpr ⟨List.forall_mem_cons.mpr ⟨hlt, ?_⟩, hordered⟩
        exact fun pair hpair => hlt.trans (hother pair hpair)
      split
      · rename_i heq
        refine List.pairwise_cons.mpr ⟨fun pair hpair => ?_, hrest⟩
        exact heq ▸ hother pair hpair
      · rename_i hnlt hne
        refine List.pairwise_cons.mpr ⟨fun pair hpair => ?_, ih hrest⟩
        obtain rfl | hpair := mem_insert hpair
        · exact lt_of_le_of_ne (not_lt.mp hnlt) (Ne.symm hne)
        · exact hother pair hpair

theorem ordered_insertAll (hordered : Ordered table) : Ordered (insertAll table pairs) := by
  induction pairs generalizing table with
  | nil => exact hordered
  | cons pair pairs ih => exact ih (ordered_insert hordered)

theorem ordered_sorted : Ordered (sorted pairs) := ordered_insertAll .nil

theorem Ordered.eq_of_perm (htable : Ordered table) (hpairs : Ordered pairs)
    (hperm : table.Perm pairs) : table = pairs :=
  hperm.eq_of_pairwise (fun _ _ _ _ hlt hgt => absurd hgt hlt.asymm) htable hpairs

theorem ordered_iff : Ordered table ↔ (keys table).Pairwise (· < ·) := List.pairwise_map.symm

theorem Ordered.nodup (hordered : Ordered table) : (keys table).Nodup :=
  (ordered_iff.mp hordered).imp fun hlt => hlt.ne

theorem Ordered.notMem_keys {first second : List (String × α)}
    (hordered : Ordered (first ++ (key, content) :: second)) :
    key ∉ keys first ∧ key ∉ keys second := by
  have hperm : (keys (first ++ (key, content) :: second)).Perm (key :: keys (first ++ second)) :=
    List.perm_middle.map Prod.fst
  have hfresh := (List.nodup_cons.mp (hperm.nodup_iff.mp hordered.nodup)).1
  rw [keys, List.map_append, List.mem_append] at hfresh
  exact not_or.mp hfresh

theorem sorted_eq (hordered : Ordered table) (hperm : pairs.Perm table) :
    sorted pairs = table := by
  have hdistinct : (keys pairs).Nodup := (hperm.map Prod.fst).nodup_iff.mpr hordered.nodup
  exact ordered_sorted.eq_of_perm hordered ((sorted_perm hdistinct).trans hperm)

theorem sorted_of_ordered (hordered : Ordered table) : sorted table = table :=
  sorted_eq hordered (.refl _)

theorem sorted_congr (hperm : pairs.Perm table) (hdistinct : (keys table).Nodup) :
    sorted pairs = sorted table :=
  sorted_eq ordered_sorted (hperm.trans (sorted_perm hdistinct).symm)

/-- Sorting puts an entry somewhere, and that place depends on its key only. -/
theorem exists_sorted_split {first second : List (String × α)}
    (hdistinct : (keys (first ++ (key, content) :: second)).Nodup) :
    ∃ before after, Ordered (before ++ (key, content) :: after) ∧
      sorted (first ++ second) = before ++ after ∧
        ∀ other, sorted (first ++ (key, other) :: second) = before ++ (key, other) :: after := by
  have hperm := sorted_perm hdistinct
  have hordered : Ordered (sorted (first ++ (key, content) :: second)) := ordered_sorted
  obtain ⟨before, after, hsplit⟩ :=
    List.append_of_mem (hperm.mem_iff.mpr (List.mem_append_right _ List.mem_cons_self))
  rw [hsplit] at hperm hordered
  have hrest : (first ++ second).Perm (before ++ after) :=
    ((List.perm_middle.symm.trans hperm.symm).trans List.perm_middle).cons_inv
  refine ⟨before, after, hordered, sorted_eq ?_ hrest, fun other => sorted_eq ?_ ?_⟩
  · exact hordered.sublist (List.Sublist.append_left (List.sublist_cons_self ..) _)
  · rw [ordered_iff] at hordered ⊢
    simpa [keys] using hordered
  · exact List.perm_middle.trans ((hrest.cons _).trans List.perm_middle.symm)

theorem mapValues_insert (f : α → β) (key : String) (content : α)
    (table : List (String × α)) :
    mapValues f (insert key content table) = insert key (f content) (mapValues f table) := by
  induction table with
  | nil => rfl
  | cons pair rest ih =>
      simp only [insert, mapValues, List.map_cons]
      split
      · rfl
      split
      · rfl
      · exact congrArg _ ih

theorem mapValues_insertAll (f : α → β) (table pairs : List (String × α)) :
    mapValues f (insertAll table pairs) = insertAll (mapValues f table) (mapValues f pairs) := by
  induction pairs generalizing table with
  | nil => rfl
  | cons pair pairs ih =>
      have hrest := ih (insert pair.1 pair.2 table)
      rw [mapValues_insert] at hrest
      exact hrest

theorem keys_mapValues (f : α → β) (pairs : List (String × α)) :
    keys (mapValues f pairs) = keys pairs := by
  simp [keys, mapValues]

theorem ordered_mapValues_iff (f : α → β) : Ordered (mapValues f table) ↔ Ordered table := by
  rw [ordered_iff, keys_mapValues, ← ordered_iff]

theorem isSome_lookup_iff : (table.lookup key).isSome = true ↔ key ∈ keys table := by
  simp [List.lookup_isSome_iff, keys]

end

/-! ## Filling tables -/

theorem put_eq_insert (key : String) (node : Node) (entries : Entries) :
    put key node entries = insert key node entries := by
  induction entries with
  | nil => rfl
  | cons pair rest ih => rw [put, insert, ih]

theorem entryValues_eq (entries : Entries) :
    entryValues entries = mapValues Node.value entries := by
  induction entries with
  | nil => rfl
  | cons entry rest ih =>
      rw [entryValues, ih]
      rfl

/-- A step that puts something new into a table, or fails. -/
def Adds {α : Type} (sound : Entries → Prop) (fine : α → Prop) (pair : α → String × Node)
    (step : Entries → α → Except Fault Entries) : Prop :=
  ∀ entries a, sound entries →
    (∀ result, step entries a = .ok result ↔
      (pair a).1 ∉ keys entries ∧ fine a ∧ result = insert (pair a).1 (pair a).2 entries) ∧
    sound (insert (pair a).1 (pair a).2 entries)

theorem Adds.foldlM_eq_ok_iff {α : Type} {sound : Entries → Prop} {fine : α → Prop}
    {pair : α → String × Node} {step : Entries → α → Except Fault Entries}
    (hadds : Adds sound fine pair step) {all : List α} {entries result : Entries}
    (hsound : sound entries) (hentries : (keys entries).Nodup) :
    all.foldlM step entries = .ok result ↔
      (keys (all.map pair) ++ keys entries).Nodup ∧ (∀ a ∈ all, fine a) ∧
        result = insertAll entries (all.map pair) := by
  induction all generalizing entries with
  | nil =>
      have hok : ([] : List α).foldlM step entries = .ok entries := rfl
      rw [hok, Except.ok.injEq]
      exact ⟨fun heq => ⟨hentries, by simp, heq.symm⟩, fun h => h.2.2.symm⟩
  | cons a all ih =>
      obtain ⟨hstep, hnext⟩ := hadds entries a hsound
      rw [List.foldlM_cons]
      constructor
      · intro hread
        obtain ⟨next, hfirst, hrest⟩ := bind_eq_ok hread
        obtain ⟨hfresh, hfine, rfl⟩ := (hstep next).mp hfirst
        have hinserted := (nodup_insert_iff [] (pair a).2 hfresh).mpr
          (List.nodup_cons.mpr ⟨hfresh, hentries⟩)
        obtain ⟨hdistinct, hall, rfl⟩ := (ih hnext hinserted).mp hrest
        exact ⟨(nodup_insert_iff _ _ hfresh).mp hdistinct,
          List.forall_mem_cons.mpr ⟨hfine, hall⟩, rfl⟩
      · rintro ⟨hdistinct, hfine, rfl⟩
        obtain ⟨hfirst, hall⟩ := List.forall_mem_cons.mp hfine
        have hfresh : (pair a).1 ∉ keys entries :=
          mt (List.mem_append_right _) (List.nodup_cons.mp hdistinct).1
        have hinserted := (nodup_insert_iff [] (pair a).2 hfresh).mpr
          (List.nodup_cons.mpr ⟨hfresh, hentries⟩)
        rw [(hstep _).mpr ⟨hfresh, hfirst, rfl⟩, ok_bind]
        exact (ih hnext hinserted).mpr ⟨(nodup_insert_iff _ _ hfresh).mpr hdistinct, hall, rfl⟩

/-! ## Plain documents -/

def plainAssignment (entry : String × Value) : Assignment := ⟨⟨[], entry.1⟩, entry.2⟩

def plainSection (part : String × List (String × Value)) : Section :=
  ⟨⟨⟨[], part.1⟩, false⟩, part.2.map plainAssignment⟩

theorem assign_adds :
    Adds (fun _ => True) (fun _ => True) (fun entry : String × Value => (entry.1, .leaf entry.2))
      fun entries entry => assign entries (plainAssignment entry) := by
  intro entries entry _
  have horigin : ¬(Origin.header = .dots ↔ True) := by decide
  refine ⟨fun result => ?_, trivial⟩
  simp only [assign, plainAssignment, descend, put_eq_insert]
  by_cases htaken : entry.1 ∈ keys entries
  · rw [if_pos (.inr (isSome_lookup_iff.mpr htaken))]
    simp [htaken]
  · rw [if_neg (not_or.mpr ⟨horigin, mt isSome_lookup_iff.mp htaken⟩)]
    simp [htaken, eq_comm]

theorem fill_plain_iff {body : List (String × Value)} {result : Entries} :
    fill [] (body.map plainAssignment) = .ok result ↔
      (keys body).Nodup ∧ result = sorted (mapValues Node.leaf body) := by
  have hkeys : keys (body.map fun entry => (entry.1, Node.leaf entry.2)) = keys body :=
    keys_mapValues Node.leaf body
  rw [fill, List.foldlM_map, assign_adds.foldlM_eq_ok_iff trivial (by simp [keys]), hkeys]
  simp [keys, sorted, mapValues]

theorem lookup_insert {α : Type} (key name : String) (content : α)
    (table : List (String × α)) :
    (insert key content table).lookup name =
      if name = key then some content else table.lookup name := by
  induction table with
  | nil =>
      by_cases heq : name = key
      · simp [insert, heq]
      · simp [insert, List.lookup_cons, heq, beq_false_of_ne heq]
  | cons pair rest ih =>
      by_cases heq : name = key
      · subst heq
        rw [insert]
        split
        · simp
        split
        · simp
        · rename_i hne
          rw [List.lookup_cons, beq_false_of_ne hne, ih, if_pos rfl, if_pos rfl]
      · have hbeq := beq_false_of_ne heq
        rw [if_neg heq] at ih ⊢
        rw [insert]
        split
        · rw [List.lookup_cons, hbeq]
        split
        · rename_i hsame
          rw [List.lookup_cons, List.lookup_cons, ← hsame, hbeq]
        · rw [List.lookup_cons, List.lookup_cons, ih]

/-- No table that a header could take over. -/
def Closed (entries : Entries) : Prop :=
  ∀ name inner, entries.lookup name ≠ some (.table .path inner)

theorem Closed.insert {entries : Entries} (hclosed : Closed entries) (key : String) {node : Node}
    (hnode : ∀ inner, node ≠ .table .path inner) : Closed (insert key node entries) := by
  intro name inner hpath
  rw [lookup_insert] at hpath
  split at hpath
  · exact hnode inner (Option.some.inj hpath)
  · exact hclosed name inner hpath

theorem closed_insertAll_leaf {entries : Entries} (hclosed : Closed entries)
    (pairs : List (String × Value)) : Closed (insertAll entries (mapValues Node.leaf pairs)) := by
  induction pairs generalizing entries with
  | nil => exact hclosed
  | cons pair pairs ih => exact ih (hclosed.insert pair.1 (by simp))

theorem openTable_of_closed {entries : Entries} (hclosed : Closed entries) {name : String}
    (hused : name ∈ keys entries) (body : List Assignment) :
    ∃ fault, openTable name body entries = .error fault := by
  obtain ⟨node, hnode⟩ := Option.isSome_iff_exists.mp (isSome_lookup_iff.mpr hused)
  rw [openTable]
  split
  · simp_all
  · rename_i hpath
    exact absurd hpath (hclosed _ _)
  · exact ⟨_, rfl⟩

theorem openTable_fresh {entries : Entries} {name : String} (hfresh : name ∉ keys entries)
    (body : List Assignment) :
    openTable name body entries =
      fill [] body >>= fun inner => .ok (insert name (.table .header inner) entries) := by
  have hnone : entries.lookup name = none :=
    Option.not_isSome_iff_eq_none.mp (mt isSome_lookup_iff.mp hfresh)
  simp only [openTable, hnone, put_eq_insert]

theorem enter_plain (entries : Entries) (part : String × List (String × Value)) :
    enter entries (plainSection part) =
      openTable part.1 (part.2.map plainAssignment) entries := rfl

def sectionNode (body : List (String × Value)) : Node :=
  .table .header (sorted (mapValues Node.leaf body))

theorem enter_adds :
    Adds Closed (fun part : String × List (String × Value) => (keys part.2).Nodup)
      (fun part => (part.1, sectionNode part.2))
      fun entries part => enter entries (plainSection part) := by
  intro entries part hclosed
  refine ⟨fun result => ?_, hclosed.insert _ (by simp [sectionNode])⟩
  · simp only [enter_plain]
    by_cases hused : part.1 ∈ keys entries
    · obtain ⟨fault, hfault⟩ := openTable_of_closed hclosed hused (part.2.map plainAssignment)
      simp [hfault, hused]
    · rw [openTable_fresh hused]
      constructor
      · intro hread
        obtain ⟨inner, hinner, hresult⟩ := bind_eq_ok hread
        obtain ⟨hdistinct, rfl⟩ := fill_plain_iff.mp hinner
        cases hresult
        exact ⟨hused, hdistinct, rfl⟩
      · rintro ⟨-, hdistinct, rfl⟩
        rw [fill_plain_iff.mpr ⟨hdistinct, rfl⟩, ok_bind, sectionNode]

/-! ## Their values -/

/-- No name stands twice at the top of a plain document, nor in one of its sections. -/
def Distinct (top : List (String × Value)) (sections : List (String × List (String × Value))) :
    Prop :=
  (keys sections ++ keys top).Nodup ∧ ∀ part ∈ sections, (keys part.2).Nodup

def plainOutline (top : List (String × Value))
    (sections : List (String × List (String × Value))) : Outline :=
  ⟨top.map plainAssignment, sections.map plainSection⟩

def tables (sections : List (String × List (String × Value))) : List (String × Value) :=
  mapValues (fun body => .table (sorted body)) sections

theorem mapValues_mapValues {α β γ : Type} (f : α → β) (g : β → γ) (pairs : List (String × α)) :
    mapValues g (mapValues f pairs) = mapValues (fun content => g (f content)) pairs := by
  simp [mapValues]

theorem entryValues_leaves (pairs : List (String × Value)) :
    entryValues (mapValues Node.leaf pairs) = pairs := by
  rw [entryValues_eq, mapValues_mapValues]
  simp [mapValues, Node.value]

theorem entryValues_append (first second : Entries) :
    entryValues (first ++ second) = entryValues first ++ entryValues second := by
  simp [entryValues_eq, mapValues]

theorem entryValues_insertAll (table pairs : Entries) :
    entryValues (insertAll table pairs) = insertAll (entryValues table) (entryValues pairs) := by
  simp only [entryValues_eq, mapValues_insertAll]

theorem entryValues_sorted (pairs : Entries) :
    entryValues (sorted pairs) = sorted (entryValues pairs) :=
  entryValues_insertAll [] pairs

theorem sorted_append {α : Type} (first second : List (String × α)) :
    sorted (first ++ second) = insertAll (sorted first) second :=
  List.foldl_append

theorem entryValues_sectionNodes (sections : List (String × List (String × Value))) :
    entryValues (mapValues sectionNode sections) = tables sections := by
  rw [entryValues_eq, mapValues_mapValues]
  simp [sectionNode, Node.value, tables, entryValues_sorted, entryValues_leaves]

theorem enterAll_iff {top : List (String × Value)}
    {sections : List (String × List (String × Value))} {result : Entries}
    (htop : (keys top).Nodup) :
    (sections.map plainSection).foldlM enter (sorted (mapValues Node.leaf top)) = .ok result ↔
      Distinct top sections ∧
        result = sorted (mapValues Node.leaf top ++ mapValues sectionNode sections) := by
  have hleaves : (keys (mapValues Node.leaf top)).Nodup := by rwa [keys_mapValues]
  have hsorted : (keys (sorted (mapValues Node.leaf top))).Perm (keys top) := by
    have hsame := (sorted_perm hleaves).map Prod.fst
    rwa [← keys, ← keys, keys_mapValues] at hsame
  have hclosed : Closed (sorted (mapValues Node.leaf top)) :=
    closed_insertAll_leaf (fun _ _ hpath => by cases hpath) top
  have hnames : (keys (mapValues sectionNode sections) ++
      keys (sorted (mapValues Node.leaf top))).Nodup ↔ (keys sections ++ keys top).Nodup := by
    rw [keys_mapValues, (hsorted.append_left _).nodup_iff]
  rw [List.foldlM_map, enter_adds.foldlM_eq_ok_iff hclosed (hsorted.nodup_iff.mpr htop),
    ← mapValues, hnames, ← sorted_append, Distinct, and_assoc]

theorem value_plain_iff {top : List (String × Value)}
    {sections : List (String × List (String × Value))} {value : Value} :
    (plainOutline top sections).value = .ok value ↔
      Distinct top sections ∧ value = .table (sorted (top ++ tables sections)) := by
  constructor
  · intro hread
    obtain ⟨filled, hfill, hread⟩ := bind_eq_ok hread
    obtain ⟨htop, rfl⟩ := fill_plain_iff.mp hfill
    obtain ⟨entered, henter, hread⟩ := bind_eq_ok hread
    obtain ⟨hdistinct, rfl⟩ := (enterAll_iff htop).mp henter
    cases hread
    rw [entryValues_sorted, entryValues_append, entryValues_leaves, entryValues_sectionNodes]
    exact ⟨hdistinct, rfl⟩
  · rintro ⟨hdistinct, rfl⟩
    have htop : (keys top).Nodup := (List.nodup_append.mp hdistinct.1).2.1
    rw [Outline.value, plainOutline, fill_plain_iff.mpr ⟨htop, rfl⟩, ok_bind,
      (enterAll_iff htop).mpr ⟨hdistinct, rfl⟩, ok_bind, entryValues_sorted,
      entryValues_append, entryValues_leaves, entryValues_sectionNodes]

end SegmentBench.Document
