import Mathlib.Data.List.TakeWhile
import SegmentBench.Config.Placeholder

/-!
# Placeholders in their surroundings

A placeholder begins at the first opening behind the one before it, and its name goes on
to the next closing brace.  So the pieces of a text are those of its two parts wherever
the first part leaves no placeholder open.  A part that does takes everything up to the
next closing brace into the name, a whole placeholder included.
-/

namespace SegmentBench.Placeholder

variable {text name rest first second before start : List Char} {environment : Environment}

/-! ## Names -/

structure IsWritable (name : List Char) : Prop where
  nonempty : name ≠ []
  closed : '\x7d' ∉ name

theorem all_isName_iff : (∀ c ∈ name, isName c = true) ↔ '\x7d' ∉ name := by
  simp only [isName, decide_eq_true_eq]
  exact List.forall_mem_ne'

theorem takeWhile_isName (hclosed : '\x7d' ∉ name) (rest : List Char) :
    (name ++ '\x7d' :: rest).takeWhile isName = name := by
  rw [List.takeWhile_append_of_pos (all_isName_iff.mpr hclosed)]
  simp [isName]

theorem dropWhile_isName (hclosed : '\x7d' ∉ name) (rest : List Char) :
    (name ++ '\x7d' :: rest).dropWhile isName = '\x7d' :: rest := by
  rw [List.dropWhile_append_of_pos (all_isName_iff.mpr hclosed)]
  simp [isName]

theorem name?_written (hname : IsWritable name) (rest : List Char) :
    name? (name ++ '\x7d' :: rest) = some (name, rest) := by
  simp only [name?, takeWhile_isName hname.closed, dropWhile_isName hname.closed,
    if_neg hname.nonempty]

theorem name?_eq_none_of_unclosed (hunclosed : '\x7d' ∉ text) : name? text = none := by
  have hdrop : text.dropWhile isName = [] :=
    List.dropWhile_eq_nil_iff.mpr (all_isName_iff.mpr hunclosed)
  simp only [name?, hdrop]

theorem unclosed_or_split (text : List Char) :
    '\x7d' ∉ text ∨ ∃ name rest, '\x7d' ∉ name ∧ text = name ++ '\x7d' :: rest := by
  by_cases hmem : '\x7d' ∈ text
  · obtain ⟨name, rest, rfl, hfirst⟩ := List.eq_append_cons_of_mem hmem
    exact .inr ⟨name, rest, hfirst, rfl⟩
  · exact .inl hmem

theorem name?_cases (text : List Char) :
    ('\x7d' ∉ text ∧ name? text = none) ∨
      (∃ rest, text = '\x7d' :: rest ∧ name? text = none) ∨
        ∃ name rest, IsWritable name ∧ text = name ++ '\x7d' :: rest ∧
          name? text = some (name, rest) := by
  obtain hunclosed | ⟨name, rest, hclosed, rfl⟩ := unclosed_or_split text
  · exact .inl ⟨hunclosed, name?_eq_none_of_unclosed hunclosed⟩
  by_cases hempty : name = []
  · subst hempty
    exact .inr (.inl ⟨rest, rfl, rfl⟩)
  · have hname : IsWritable name := ⟨hempty, hclosed⟩
    exact .inr (.inr ⟨name, rest, hname, rfl, name?_written hname rest⟩)

/-! ## Pieces -/

theorem pieces_written (hname : IsWritable name) (rest : List Char) :
    pieces (written name ++ rest) = .named name :: pieces rest := by
  have hfound := name?_written hname rest
  simp only [written, List.cons_append, List.append_assoc, List.nil_append]
  rw [pieces]
  split
  · rename_i found
    rw [hfound] at found
    cases found
    rfl
  · rename_i found
    rw [hfound] at found
    cases found

theorem pieces_opening (hnone : name? rest = none) :
    pieces ('$' :: '\x7b' :: rest) = .plain '$' :: pieces ('\x7b' :: rest) := by
  rw [pieces]
  split
  · rename_i found
    rw [hnone] at found
    cases found
  · rfl

theorem pieces_cons {c : Char} (hplain : ¬(c = '$' ∧ rest.head? = some '\x7b')) :
    pieces (c :: rest) = .plain c :: pieces rest := by
  rw [pieces]
  rintro behind rfl rfl
  exact hplain ⟨rfl, rfl⟩

/-- A placeholder begins in the text that no closing brace follows. -/
def LeavesOpen (text : List Char) : Prop :=
  ∃ before start, text = before ++ '$' :: '\x7b' :: start ∧ '\x7d' ∉ start

theorem LeavesOpen.append_left (hopen : LeavesOpen second) (first : List Char) :
    LeavesOpen (first ++ second) := by
  obtain ⟨before, start, rfl, hstart⟩ := hopen
  exact ⟨first ++ before, start, (List.append_assoc ..).symm, hstart⟩

theorem LeavesOpen.cons {c : Char} (hopen : LeavesOpen rest) : LeavesOpen (c :: rest) :=
  hopen.append_left [c]

theorem not_leavesOpen_of_plain (hplain : '$' ∉ text) : ¬LeavesOpen text := by
  rintro ⟨before, start, rfl, -⟩
  exact hplain (by simp)

theorem leavesOpen_append_close : LeavesOpen (first ++ '\x7d' :: second) ↔ LeavesOpen second := by
  refine ⟨?_, fun hopen => hopen.cons.append_left first⟩
  rintro ⟨before, start, hsplit, hstart⟩
  obtain ⟨gap, rfl, hrest⟩ | ⟨gap, rfl, hrest⟩ := List.append_eq_append_iff.mp hsplit
  · match gap, hrest with
    | [], hrest => exact absurd (List.cons.inj hrest).1 (by decide)
    | c :: gap, hrest => exact ⟨gap, start, (List.cons.inj hrest).2, hstart⟩
  · have hmem : '\x7d' ∈ '$' :: '\x7b' :: start := by simp [hrest]
    exact absurd hmem (by simp [hstart])

theorem pieces_append (hclosed : ¬LeavesOpen first) (hhead : second.head? ≠ some '\x7b') :
    pieces (first ++ second) = pieces first ++ pieces second := by
  fun_induction pieces first with
  | case1 rest name behind found ih =>
      obtain ⟨-, hnone⟩ | ⟨_, -, hnone⟩ | ⟨name', behind', hname, rfl, hfound⟩ := name?_cases rest
      · rw [hnone] at found
        cases found
      · rw [hnone] at found
        cases found
      rw [hfound] at found
      cases found
      have hbehind : ¬LeavesOpen behind := fun hopen => by
        refine hclosed ?_
        simpa using hopen.append_left ('$' :: '\x7b' :: (name ++ ['\x7d']))
      have hpieces := pieces_written hname (behind ++ second)
      simpa [written, ih hbehind] using hpieces
  | case2 rest found ih =>
      obtain ⟨hunclosed, -⟩ | ⟨behind, rfl, -⟩ | ⟨_, _, _, _, hfound⟩ := name?_cases rest
      · exact absurd ⟨[], rest, rfl, hunclosed⟩ hclosed
      · rw [List.cons_append, List.cons_append, List.cons_append, pieces_opening rfl]
        exact congrArg _ (ih (mt LeavesOpen.cons hclosed))
      · rw [hfound] at found
        cases found
  | case3 c rest hplain ih =>
      have hcons : ¬(c = '$' ∧ (rest ++ second).head? = some '\x7b') := by
        rintro ⟨rfl, hbrace⟩
        cases rest with
        | nil => exact hhead hbrace
        | cons d behind =>
            cases hbrace
            exact hplain behind rfl rfl
      rw [List.cons_append, pieces_cons hcons, ih (mt LeavesOpen.cons hclosed), List.cons_append]
  | case4 => rfl

theorem pieces_of_unclosed (hunclosed : '\x7d' ∉ text) : pieces text = text.map .plain := by
  induction text with
  | nil => rw [pieces, List.map_nil]
  | cons c rest ih =>
      obtain ⟨-, hrest⟩ := not_or.mp (mt List.mem_cons.mpr hunclosed)
      rw [List.map_cons, ← ih hrest]
      by_cases hopening : c = '$' ∧ rest.head? = some '\x7b'
      · obtain ⟨rfl, hbrace⟩ := hopening
        obtain ⟨behind, rfl⟩ := List.head?_eq_some_iff.mp hbrace
        have hbehind : '\x7d' ∉ behind := mt (List.mem_cons_of_mem _) hrest
        exact pieces_opening (name?_eq_none_of_unclosed hbehind)
      · exact pieces_cons hopening

theorem pieces_of_plain (hplain : '$' ∉ text) : pieces text = text.map .plain := by
  induction text with
  | nil => rw [pieces, List.map_nil]
  | cons c rest ih =>
      obtain ⟨hne, hrest⟩ := not_or.mp (mt List.mem_cons.mpr hplain)
      rw [pieces_cons fun hopening => hne hopening.1.symm, ih hrest, List.map_cons]

/-! ## Replacing them -/

theorem substitute_append (hclosed : ¬LeavesOpen first) (hhead : second.head? ≠ some '\x7b') :
    substitute environment (first ++ second) =
      substitute environment first ++ substitute environment second := by
  simp only [substitute, pieces_append hclosed hhead, List.flatMap_append]

theorem substitute_written (hname : IsWritable name) (rest : List Char) :
    substitute environment (written name ++ rest) =
      value environment name ++ substitute environment rest := by
  simp only [substitute, pieces_written hname, List.flatMap_cons, Piece.value]

theorem substitute_of_unclosed (hunclosed : '\x7d' ∉ text) :
    substitute environment text = text := by
  simp [substitute, pieces_of_unclosed hunclosed, List.flatMap_map, Piece.value]

theorem substitute_of_plain (hplain : '$' ∉ text) : substitute environment text = text := by
  simp [substitute, pieces_of_plain hplain, List.flatMap_map, Piece.value]

/-! ## Openings that are left -/

/-- The first opening of a text that is never closed, between what stands before it and
what would begin its name. -/
structure LeftOpen (text before start : List Char) : Prop where
  split : text = before ++ '$' :: '\x7b' :: start
  unclosed : '\x7d' ∉ start
  first : ¬LeavesOpen before

theorem LeavesOpen.exists_leftOpen (hopen : LeavesOpen text) :
    ∃ before start, LeftOpen text before start := by
  obtain ⟨before, start, rfl, hstart⟩ := hopen
  -- an earlier opening that is left makes the text before it shorter
  induction hlength : before.length using Nat.strong_induction_on generalizing before start with
  | h length ih =>
      by_cases hbefore : LeavesOpen before
      · obtain ⟨earlier, more, rfl, hmore⟩ := hbefore
        have hboth : '\x7d' ∉ more ++ '$' :: '\x7b' :: start := by simp [hmore, hstart]
        have hshorter : earlier.length < length := by
          simp at hlength
          omega
        have hearlier := ih _ hshorter earlier _ hboth rfl
        simpa using hearlier
      · exact ⟨before, start, rfl, hstart, hbefore⟩

theorem LeftOpen.append (hopen : LeftOpen text before start) (hunclosed : '\x7d' ∉ second) :
    LeftOpen (text ++ second) before (start ++ second) :=
  ⟨by simp [hopen.split], by simp [hopen.unclosed, hunclosed], hopen.first⟩

theorem LeftOpen.substitute_eq (hopen : LeftOpen text before start) :
    substitute environment text = substitute environment before ++ '$' :: '\x7b' :: start := by
  have hunclosed : '\x7d' ∉ '$' :: '\x7b' :: start := by simp [hopen.unclosed]
  rw [hopen.split, substitute_append hopen.first (by simp), substitute_of_unclosed hunclosed]

theorem LeftOpen.substitute_append_written (hopen : LeftOpen text before start)
    (hname : IsWritable name) (back : List Char) :
    substitute environment (text ++ written name ++ back) =
      substitute environment before ++ value environment (start ++ '$' :: '\x7b' :: name) ++
        substitute environment back := by
  have hswallowing : IsWritable (start ++ '$' :: '\x7b' :: name) :=
    ⟨by simp, by simp [hopen.unclosed, hname.closed]⟩
  have hshift : text ++ written name ++ back =
      before ++ (written (start ++ '$' :: '\x7b' :: name) ++ back) := by
    simp [hopen.split, written]
  rw [hshift, substitute_append hopen.first (by simp [written]),
    substitute_written hswallowing, List.append_assoc]

/-- A placeholder of a known name is replaced unless the text before it leaves one open,
whose name then takes the placeholder in. -/
theorem substitute_append_written_iff {known : String} (hname : IsWritable name)
    (hknown : environment (String.ofList name) = some known) (front back : List Char) :
    (substitute environment (front ++ written name ++ back) =
        substitute environment front ++ known.toList ++ substitute environment back ↔
      ∀ before start, LeftOpen front before start →
        value environment (start ++ '$' :: '\x7b' :: name) =
          '$' :: '\x7b' :: start ++ known.toList) ∧
      ∀ before start, LeftOpen front before start →
        substitute environment (front ++ written name ++ back) =
          substitute environment before ++
            value environment (start ++ '$' :: '\x7b' :: name) ++
              substitute environment back := by
  refine ⟨⟨fun hlaw before start hopen => ?_, fun hvalue => ?_⟩,
    fun before start hopen => hopen.substitute_append_written hname back⟩
  · rw [hopen.substitute_append_written hname, hopen.substitute_eq, List.append_left_inj,
      List.append_assoc, List.append_right_inj] at hlaw
    exact hlaw
  · by_cases hfront : LeavesOpen front
    · obtain ⟨before, start, hopen⟩ := hfront.exists_leftOpen
      rw [hopen.substitute_append_written hname, hopen.substitute_eq, hvalue before start hopen]
      simp
    · have hvalue : value environment name = known.toList := by rw [value, hknown]
      rw [List.append_assoc, substitute_append hfront (by simp [written]),
        substitute_written hname, hvalue, List.append_assoc]

theorem substitute_append_written_dollar :
    let environment : Environment := fun name => if name = "X" then some "1" else none
    IsWritable ['X'] ∧ environment (String.ofList ['X']) = some "1" ∧
      substitute environment (['$'] ++ written ['X'] ++ ['\x7d']) =
        substitute environment ['$'] ++ ['1'] ++ substitute environment ['\x7d'] := by
  intro environment
  have hname : IsWritable ['X'] := ⟨by decide, by decide⟩
  have hknown : environment (String.ofList ['X']) = some "1" := rfl
  refine ⟨hname, hknown, ?_⟩
  refine (substitute_append_written_iff hname hknown ['$'] ['\x7d']).1.mpr ?_
  intro before start hopen
  have hlength := congrArg List.length hopen.split
  simp at hlength
  omega

/-- A comment with a lone opening keeps the placeholder below it from being replaced. -/
theorem substitute_below_opening :
    let environment : Environment := fun name => if name = "X" then some "1" else none
    let front := "#$\x7b\n[input]\npath = \"".toList
    IsWritable ['X'] ∧ environment (String.ofList ['X']) = some "1" ∧
      substitute environment (front ++ written ['X'] ++ ['"']) =
        front ++ written ['X'] ++ ['"'] ∧
      substitute environment front ++ ['1'] ++ substitute environment ['"'] =
        front ++ ['1'] ++ ['"'] := by
  intro environment front
  have hname : IsWritable ['X'] := ⟨by decide, by decide⟩
  have hbefore : ¬LeavesOpen ['#'] := by
    rintro ⟨before, start, hsplit, -⟩
    have hlength := congrArg List.length hsplit
    simp at hlength
    omega
  have hopen : LeftOpen front ['#'] "\n[input]\npath = \"".toList :=
    ⟨by decide, by decide, hbefore⟩
  refine ⟨hname, rfl, ?_, ?_⟩
  · rw [hopen.substitute_append_written hname, substitute_of_unclosed (by decide),
      substitute_of_unclosed (by decide)]
    decide
  · rw [substitute_of_unclosed (by decide), substitute_of_unclosed (by decide)]

end SegmentBench.Placeholder
