import SegmentBench.Proofs.Document.Tables

/-!
# Plain documents by their lines

Each line of a plain document is blank, the header of a section, or an entry of the
section above it.  Taking an entry's line out of a document takes that entry out of its
table and leaves everything else in place.
-/

namespace SegmentBench.Document

/-! ## What the lines say -/

inductive Line where
  | blank
  | header (name : String)
  | entry (key : String) (value : Value)

def Line.items : Line → List Item
  | .blank => []
  | .header name => [.header ⟨⟨[], name⟩, false⟩]
  | .entry key value => [.assignment (plainAssignment (key, value))]

/-- A text that may take up several lines, as the strings and arrays in it do, counts as
one line. -/
def Says (text : List Char) (line : Line) : Prop := States text line.items

def entriesAbove : List Line → List (String × Value)
  | [] => []
  | .blank :: lines => entriesAbove lines
  | .header _ :: _ => []
  | .entry key value :: lines => (key, value) :: entriesAbove lines

def sectionsOf : List Line → List (String × List (String × Value))
  | [] => []
  | .header name :: lines => (name, entriesAbove lines) :: sectionsOf lines
  | .blank :: lines | .entry _ _ :: lines => sectionsOf lines

def lastHeader? : List Line → Option String
  | [] => none
  | .header name :: lines => (lastHeader? lines).or (some name)
  | .blank :: lines | .entry _ _ :: lines => lastHeader? lines

theorem ofItems_lines (lines : List Line) :
    Outline.ofItems (lines.flatMap Line.items) =
      plainOutline (entriesAbove lines) (sectionsOf lines) := by
  induction lines with
  | nil => rfl
  | cons line lines ih =>
      rw [List.flatMap_cons]
      cases line with
      | blank => exact ih
      | header name =>
          rw [Line.items, List.singleton_append, Outline.ofItems, ih]
          rfl
      | entry key value =>
          rw [Line.items, List.singleton_append, Outline.ofItems, ih]
          rfl

theorem entriesAbove_blanks (blanks : List (List Char)) (lines : List Line) :
    entriesAbove (blanks.map (fun _ => .blank) ++ lines) = entriesAbove lines := by
  induction blanks with
  | nil => rfl
  | cons blank blanks ih => exact ih

theorem sectionsOf_blanks (blanks : List (List Char)) (lines : List Line) :
    sectionsOf (blanks.map (fun _ => .blank) ++ lines) = sectionsOf lines := by
  induction blanks with
  | nil => rfl
  | cons blank blanks ih => exact ih

section

variable {mark : List Char} {texts : List (List Char)} {lines : List Line} {content : Value}

theorem read_lines_iff (hmark : IsLineBreak mark) (hlines : List.Forall₂ Says texts lines) :
    read (mark.intercalate texts) = .ok content ↔
      Distinct (entriesAbove lines) (sectionsOf lines) ∧
        content = .table (sorted (entriesAbove lines ++ tables (sectionsOf lines))) := by
  have hstates : List.Forall₂ States texts (lines.map Line.items) :=
    List.forall₂_map_right_iff.mpr hlines
  rw [(States.intercalate hmark hstates).read_eq, ← List.flatMap_def, ofItems_lines,
    value_plain_iff]

end

/-! ## A line less -/

section

variable {lines : List Line} {index : Nat} {name key : String} {value : Value}

theorem exists_entriesAbove_split (hline : lines[index]? = some (.entry key value))
    (habove : lastHeader? (lines.take index) = none) :
    ∃ before after, entriesAbove lines = before ++ (key, value) :: after ∧
      entriesAbove (lines.eraseIdx index) = before ++ after ∧
        sectionsOf (lines.eraseIdx index) = sectionsOf lines := by
  induction lines generalizing index with
  | nil => simp at hline
  | cons line lines ih =>
      cases index with
      | zero =>
          cases hline
          exact ⟨[], _, rfl, rfl, rfl⟩
      | succ index =>
          cases line with
          | blank => exact ih hline habove
          | header other => simp [lastHeader?] at habove
          | entry other content =>
              obtain ⟨before, after, hwhole, hrest, hsections⟩ := ih hline habove
              exact ⟨(other, content) :: before, after,
                congrArg (List.cons (other, content)) hwhole,
                congrArg (List.cons (other, content)) hrest, hsections⟩

theorem exists_sectionsOf_split (hline : lines[index]? = some (.entry key value))
    (hheader : lastHeader? (lines.take index) = some name) :
    ∃ first second before after,
      sectionsOf lines = first ++ (name, before ++ (key, value) :: after) :: second ∧
        sectionsOf (lines.eraseIdx index) = first ++ (name, before ++ after) :: second ∧
          entriesAbove (lines.eraseIdx index) = entriesAbove lines := by
  induction lines generalizing index with
  | nil => simp at hline
  | cons line lines ih =>
      cases index with
      | zero => cases hheader
      | succ index =>
          cases line with
          | blank => exact ih hline hheader
          | entry other content =>
              obtain ⟨first, second, before, after, hwhole, hrest, hentries⟩ := ih hline hheader
              exact ⟨first, second, before, after, hwhole, hrest,
                congrArg (List.cons (other, content)) hentries⟩
          | header other =>
              rw [List.getElem?_cons_succ] at hline
              rw [List.take_succ_cons, lastHeader?] at hheader
              cases hinner : lastHeader? (lines.take index) with
              | none =>
                  rw [hinner] at hheader
                  cases hheader
                  obtain ⟨before, after, hwhole, hrest, hsections⟩ :=
                    exists_entriesAbove_split hline hinner
                  refine ⟨[], sectionsOf lines, before, after, ?_, ?_, rfl⟩
                  · rw [sectionsOf, hwhole, List.nil_append]
                  · rw [List.eraseIdx_cons_succ, sectionsOf, hrest, hsections, List.nil_append]
              | some inner =>
                  rw [hinner] at hheader
                  cases hheader
                  obtain ⟨first, second, before, after, hwhole, hrest, hentries⟩ := ih hline hinner
                  refine ⟨(other, entriesAbove lines) :: first, second, before, after, ?_, ?_, rfl⟩
                  · rw [sectionsOf, hwhole, List.cons_append]
                  · rw [List.eraseIdx_cons_succ, sectionsOf, hrest, hentries, List.cons_append]

theorem Distinct.nodup {top : List (String × Value)}
    {sections : List (String × List (String × Value))} (hdistinct : Distinct top sections) :
    (keys (top ++ tables sections)).Nodup := by
  have hkeys : keys (top ++ tables sections) = keys top ++ keys sections := by
    rw [keys, List.map_append, ← keys, ← keys, tables, keys_mapValues]
  rw [hkeys]
  exact List.perm_append_comm.nodup_iff.mp hdistinct.1

theorem Distinct.erase {top : List (String × Value)}
    {first second : List (String × List (String × Value))} {before after : List (String × Value)}
    (hdistinct : Distinct top (first ++ (name, before ++ (key, value) :: after) :: second)) :
    Distinct top (first ++ (name, before ++ after) :: second) := by
  obtain ⟨hnames, hbodies⟩ := hdistinct
  refine ⟨by simpa [keys] using hnames, fun part hpart => ?_⟩
  obtain hpart | hpart := List.mem_append.mp hpart
  · exact hbodies part (List.mem_append_left _ hpart)
  obtain rfl | hpart := List.mem_cons.mp hpart
  · have hbody := hbodies _ (List.mem_append_right _ List.mem_cons_self)
    exact hbody.sublist (((List.sublist_cons_self ..).append_left before).map Prod.fst)
  · exact hbodies part (List.mem_append_right _ (List.mem_cons_of_mem _ hpart))

theorem exists_read_split {mark : List Char} {texts : List (List Char)} {content : Value}
    (hmark : IsLineBreak mark) (hlines : List.Forall₂ Says texts lines)
    (hline : lines[index]? = some (.entry key value))
    (hheader : lastHeader? (lines.take index) = some name)
    (hread : read (mark.intercalate texts) = .ok content) :
    ∃ front back before after,
      Ordered (front ++ (name, .table (before ++ (key, value) :: after)) :: back) ∧
        Ordered (before ++ (key, value) :: after) ∧
        content = .table (front ++ (name, .table (before ++ (key, value) :: after)) :: back) ∧
        ∀ others, List.Forall₂ Says others (lines.eraseIdx index) →
          read (mark.intercalate others) =
            .ok (.table (front ++ (name, .table (before ++ after)) :: back)) := by
  obtain ⟨hdistinct, rfl⟩ := (read_lines_iff hmark hlines).mp hread
  obtain ⟨first, second, body, rest, hwhole, herased, hentries⟩ :=
    exists_sectionsOf_split hline hheader
  rw [hwhole] at hdistinct
  have hbody : (keys (body ++ (key, value) :: rest)).Nodup :=
    hdistinct.2 _ (List.mem_append_right _ List.mem_cons_self)
  obtain ⟨before, after, hinner, hshorter, hsame⟩ := exists_sorted_split hbody
  have htables (inner : List (String × Value)) :
      entriesAbove lines ++ tables (first ++ (name, inner) :: second) =
        (entriesAbove lines ++ tables first) ++
          (name, .table (sorted inner)) :: tables second := by
    simp [tables, mapValues]
  have hnodup := hdistinct.nodup
  rw [htables] at hnodup
  obtain ⟨front, back, houter, -, hplace⟩ := exists_sorted_split hnodup
  rw [hsame value] at houter
  refine ⟨front, back, before, after, houter, hinner, ?_, fun others hothers => ?_⟩
  · rw [hwhole, htables, hplace, hsame]
  · rw [read_lines_iff hmark hothers, hentries, herased, htables, hplace, hshorter]
    exact ⟨hdistinct.erase, rfl⟩

end

end SegmentBench.Document
