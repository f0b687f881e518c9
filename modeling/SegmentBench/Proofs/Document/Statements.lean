import Mathlib.Data.List.Forall2
import SegmentBench.Proofs.Document.Values

/-!
# The statements of a document

A document is a sequence of headers and assignments.  Those of a text of several parts,
each between line breaks, are those of its parts one after the other, where a part is
read on its own.
-/

namespace SegmentBench.Document

variable {tail : List Char}

/-! ## Statements -/

inductive Item where
  | header (header : Header)
  | assignment (assignment : Assignment)

def Reading.take (reading : Reading) : Item → Reading
  | .header header => reading.begin header
  | .assignment assignment => reading.assign assignment

def item (fuel : Nat) : List Char → Except Fault (Item × List Char)
  | '[' :: '[' :: rest =>
      (header (fuel + 1) true rest).map fun (header, rest) => (.header header, rest)
  | '[' :: rest =>
      (header (fuel + 1) false rest).map fun (header, rest) => (.header header, rest)
  | rest =>
      (assignment false deepest fuel rest).map fun (assignment, rest) =>
        (.assignment assignment, rest)

section

variable {fuel : Nat} {c : Char} {rest : List Char}

theorem item_header (hsingle : rest.head? ≠ some '[') :
    item fuel ('[' :: rest) =
      (header (fuel + 1) false rest).map fun (header, rest) => (.header header, rest) := by
  rw [item]
  rintro more rfl
  exact hsingle rfl

theorem item_assignment (hbracket : c ≠ '[') :
    item fuel (c :: rest) =
      (assignment false deepest fuel (c :: rest)).map fun (assignment, rest) =>
        (.assignment assignment, rest) := by
  rw [item]
  · rintro more ⟨⟩
    exact hbracket rfl
  · rintro more ⟨⟩
    exact hbracket rfl

theorem statement_cases (c : Char) (rest : List Char) :
    (∃ more, c :: rest = '[' :: '[' :: more) ∨ (c = '[' ∧ rest.head? ≠ some '[') ∨ c ≠ '[' := by
  by_cases hbracket : c = '['
  · subst hbracket
    by_cases hrepeated : rest.head? = some '['
    · obtain ⟨more, rfl⟩ := List.head?_eq_some_iff.mp hrepeated
      exact .inl ⟨more, rfl⟩
    · exact .inr (.inl ⟨rfl, hrepeated⟩)
  · exact .inr (.inr hbracket)

end

/-- What a document states, one line after the other. -/
def scan : Nat → List Char → Except Fault (List Item)
  | 0, _ => .error .unfinished
  | fuel + 1, text => do
      match ← skipLines (fuel + 1) text with
      | [] => .ok []
      | rest => do
          let (item, rest) ← item fuel rest
          let items ← scan fuel (← lineEnd rest)
          .ok (item :: items)

def Reading.outlineOf (reading : Reading) (items : List Item) : Outline :=
  (items.foldl Reading.take reading).outline

theorem lines_eq_scan (reading : Reading) (fuel : Nat) (text : List Char) :
    lines reading fuel text = (scan fuel text).map reading.outlineOf := by
  induction fuel generalizing reading text with
  | zero => rfl
  | succ fuel ih =>
      have hstep : ∀ {α : Type} (first : Except Fault (α × List Char)) (wrap : α → Item),
          (first >>= fun read => lineEnd read.2 >>= fun next =>
            lines (reading.take (wrap read.1)) fuel next) =
          ((first.map fun read => (wrap read.1, read.2)) >>= fun read =>
            lineEnd read.2 >>= fun next => scan fuel next >>= fun items =>
              .ok (read.1 :: items)).map reading.outlineOf := by
        intro α first wrap
        rcases first with fault | ⟨content, rest⟩
        · rfl
        rw [Except.map, ok_bind, ok_bind]
        cases lineEnd rest with
        | error fault => rfl
        | ok next =>
            simp only [ok_bind, ih]
            cases scan fuel next <;> rfl
      rw [lines, scan]
      cases skipLines (fuel + 1) text with
      | error fault => rfl
      | ok rest =>
          rw [ok_bind, ok_bind]
          cases rest with
          | nil => rfl
          | cons c rest =>
              obtain ⟨more, hmore⟩ | ⟨rfl, hsingle⟩ | hbracket := statement_cases c rest
              · rw [hmore]
                exact hstep (header (fuel + 1) true more) .header
              · have hheader := hstep (header (fuel + 1) false rest) .header
                rw [← item_header hsingle] at hheader
                refine Eq.trans ?_ hheader
                split
                · cases ‹ '[' :: rest = []›
                · cases ‹ '[' :: rest = '[' :: '[' :: _›
                  exact absurd rfl hsingle
                · cases ‹ '[' :: rest = '[' :: _›
                  rfl
                · rename_i hother
                  exact absurd rfl (hother rest)
              · have hassignment := hstep (assignment false deepest fuel (c :: rest)) .assignment
                rw [← item_assignment hbracket] at hassignment
                refine Eq.trans ?_ hassignment
                split
                · cases ‹c :: rest = []›
                · exact absurd (List.cons.inj ‹c :: rest = '[' :: '[' :: _›).1 hbracket
                · exact absurd (List.cons.inj ‹c :: rest = '[' :: _›).1 hbracket
                · rfl

/-! ## Reading statements in front of others -/

theorem closeHeader_append {repeated : Bool} {text next : List Char}
    (hclose : closeHeader repeated text = .ok next) (tail : List Char) :
    closeHeader repeated (text ++ tail) = .ok (next ++ tail) := by
  unfold closeHeader at hclose
  split at hclose
  · cases repeated with
    | false =>
        cases hclose
        rfl
    | true =>
        simp only [if_true] at hclose
        split at hclose
        · cases hclose
          rfl
        · cases hclose
  · cases hclose

theorem readsOn_header (hend : AtLineEnd tail) (extra fuel : Nat) (repeated : Bool)
    (text : List Char) :
    ReadsOn tail (header fuel repeated text) (header (fuel + extra) repeated (text ++ tail)) := by
  refine ReadsOn.bind (readsOn_keyFrom hend extra [] fuel text) fun key rest => ?_
  intro content next hok
  simp only at hok ⊢
  cases hclose : closeHeader repeated rest with
  | error fault =>
      rw [hclose] at hok
      cases hok
  | ok behind =>
      rw [hclose] at hok
      rw [closeHeader_append hclose]
      cases hok
      rfl

theorem readsOn_item (hend : AtLineEnd tail) (extra fuel : Nat) (c : Char) (rest : List Char) :
    ReadsOn tail (item fuel (c :: rest)) (item (fuel + extra) (c :: rest ++ tail)) := by
  have hfuel := Nat.add_right_comm fuel extra 1
  obtain ⟨more, hmore⟩ | ⟨rfl, hsingle⟩ | hbracket := statement_cases c rest
  · rw [hmore]
    have hheader := readsOn_header hend extra (fuel + 1) true more
    rw [← hfuel] at hheader
    exact hheader.map Item.header
  · match rest with
    | [] => exact .of_error ⟨.missingKey, rfl⟩
    | d :: more =>
        have hheader := readsOn_header hend extra (fuel + 1) false (d :: more)
        rw [← hfuel] at hheader
        rw [List.cons_append, item_header hsingle, item_header (by simpa using hsingle)]
        exact hheader.map Item.header
  · rw [List.cons_append, item_assignment hbracket, item_assignment hbracket]
    exact ((readsOn_values hend extra fuel).2.2.2 _ _ _).map Item.assignment

/-! ### The end of a line -/

def passComment (text : List Char) : Except Fault (List Char) :=
  match skipSpaces text with
  | '#' :: rest => skipComment rest
  | rest => .ok rest

def passBreak : List Char → Except Fault (List Char)
  | [] => .ok []
  | c :: rest =>
      match lineBreak? (c :: rest) with
      | some next => .ok next
      | none => .error .missingLineEnd

theorem lineEnd_eq (text : List Char) : lineEnd text = passComment text >>= passBreak := by
  have hbreak : passBreak = fun rest =>
      match rest with
      | [] => .ok []
      | _ =>
          match lineBreak? rest with
          | some next => .ok next
          | none => .error .missingLineEnd := by
    funext rest
    cases rest <;> rfl
  rw [hbreak, lineEnd, passComment]
  match skipSpaces text with
  | [] => rfl
  | c :: more =>
      by_cases hcomment : c = '#'
      · rw [hcomment]
        rfl
      · cases hnext : lineBreak? (c :: more) <;> simp [hcomment, hnext, ok_bind]

theorem passComment_append {text rest : List Char} (hend : AtLineEnd tail)
    (hread : passComment text = .ok rest) : passComment (text ++ tail) = .ok (rest ++ tail) := by
  have hsharp : ∀ more, tail ≠ '#' :: more := by
    rintro more rfl
    simpa using hend.head_cases '#' rfl
  unfold passComment at hread ⊢
  rw [skipSpaces_append hend]
  match hspaces : skipSpaces text with
  | [] =>
      rw [hspaces] at hread
      cases hread
      split
      · exact absurd ‹_› (hsharp _)
      · rfl
  | c :: behind =>
      rw [hspaces] at hread
      by_cases hcomment : c = '#'
      · subst hcomment
        exact skipComment_append hend hread
      · split at hread
        · exact absurd (List.cons.inj ‹_›).1 hcomment
        cases hread
        split
        · exact absurd (List.cons.inj ‹_›).1 hcomment
        · rfl

theorem passBreak_append {text next more : List Char} (hbreak : lineBreak? tail = some more)
    (hread : passBreak text = .ok next) :
    passBreak (text ++ tail) = .ok (next ++ tail) ∨
      next = [] ∧ passBreak (text ++ tail) = .ok more := by
  match text with
  | [] =>
      cases hread
      refine .inr ⟨rfl, ?_⟩
      cases tail with
      | nil => cases hbreak
      | cons c rest => simp only [List.nil_append, passBreak, hbreak]
  | c :: rest =>
      rw [passBreak] at hread
      split at hread
      · rename_i hnext
        cases hread
        have hinFront := lineBreak?_append hnext tail
        rw [List.cons_append] at hinFront
        exact .inl (by simp only [List.cons_append, passBreak, hinFront])
      · cases hread

theorem atLineEnd_of_lineBreak? {more : List Char} (hbreak : lineBreak? tail = some more) :
    AtLineEnd tail :=
  .inr (by rw [breaks, hbreak]; rfl)

/-- A line ends with its own break, or with the one that the tail begins with. -/
theorem lineEnd_append {text next more : List Char} (hbreak : lineBreak? tail = some more)
    (hread : lineEnd text = .ok next) :
    lineEnd (text ++ tail) = .ok (next ++ tail) ∨
      next = [] ∧ lineEnd (text ++ tail) = .ok more := by
  rw [lineEnd_eq] at hread ⊢
  cases hcomment : passComment text with
  | error fault =>
      rw [hcomment] at hread
      cases hread
  | ok rest =>
      rw [hcomment] at hread
      rw [passComment_append (atLineEnd_of_lineBreak? hbreak) hcomment]
      exact passBreak_append hbreak hread

/-! ## Statements in front of others -/

def scanFrom (fuel : Nat) : List Char → Except Fault (List Item)
  | [] => .ok []
  | c :: rest => do
      let (item, rest) ← item fuel (c :: rest)
      let items ← scan fuel (← lineEnd rest)
      .ok (item :: items)

theorem scan_succ (fuel : Nat) (text : List Char) :
    scan (fuel + 1) text = skipLines (fuel + 1) text >>= scanFrom fuel := by
  rw [scan]
  congr
  funext rest
  cases rest <;> rfl

theorem skipLines_mono {fuel : Nat} {text rest : List Char} (extra : Nat)
    (hread : skipLines fuel text = .ok rest) : skipLines (fuel + extra) text = .ok rest := by
  induction fuel generalizing text with
  | zero => cases hread
  | succ fuel ih =>
      rw [Nat.add_right_comm]
      obtain ⟨behind, hcomment⟩ | ⟨next, hbreak⟩ | ⟨hcomment, hbreak⟩ := skipLines_cases text
      · rw [skipLines_comment hcomment] at hread ⊢
        cases hskip : skipComment behind with
        | error fault =>
            rw [hskip] at hread
            cases hread
        | ok more =>
            rw [hskip] at hread
            exact ih hread
      · rw [skipLines_break hbreak] at hread ⊢
        exact ih hread
      · rw [skipLines_stop hcomment hbreak] at hread ⊢
        exact hread

theorem skipLines_append_break {fuel extra : Nat} {text more rest : List Char}
    (hbreak : lineBreak? tail = some more) (hread : skipLines fuel text = .ok [])
    (hmore : skipLines extra more = .ok rest) :
    skipLines (fuel + extra) (text ++ tail) = .ok rest := by
  have hend := atLineEnd_of_lineBreak? hbreak
  induction fuel generalizing text with
  | zero => cases hread
  | succ fuel ih =>
      have hspaces := skipSpaces_append hend text
      rw [Nat.add_right_comm]
      obtain ⟨behind, hcomment⟩ | ⟨next, hnext⟩ | ⟨hcomment, hnone⟩ := skipLines_cases text
      · rw [skipLines_comment hcomment] at hread
        rw [hcomment, List.cons_append] at hspaces
        rw [skipLines_comment hspaces]
        cases hskip : skipComment behind with
        | error fault =>
            rw [hskip] at hread
            cases hread
        | ok after =>
            rw [hskip] at hread
            rw [skipComment_append hend hskip]
            exact ih hread
      · rw [skipLines_break hnext] at hread
        have hinFront := lineBreak?_append hnext tail
        rw [← hspaces] at hinFront
        rw [skipLines_break hinFront]
        exact ih hread
      · rw [skipLines_stop hcomment hnone] at hread
        rw [Except.ok.inj hread, List.nil_append] at hspaces
        rw [← hspaces] at hbreak
        rw [skipLines_break hbreak, Nat.add_comm]
        exact skipLines_mono fuel hmore

theorem scanFrom_eq_ok {fuel : Nat} {c : Char} {rest : List Char} {items : List Item}
    (hread : scanFrom fuel (c :: rest) = .ok items) :
    ∃ content behind next others, item fuel (c :: rest) = .ok (content, behind) ∧
      lineEnd behind = .ok next ∧ scan fuel next = .ok others ∧ items = content :: others := by
  obtain ⟨⟨content, behind⟩, hitem, hread⟩ := bind_eq_ok hread
  obtain ⟨next, hnext, hread⟩ := bind_eq_ok hread
  obtain ⟨others, hothers, hread⟩ := bind_eq_ok hread
  cases hread
  exact ⟨content, behind, next, others, hitem, hnext, hothers, rfl⟩

theorem scanFrom_cons {fuel : Nat} {c : Char} {rest behind next : List Char} {content : Item}
    {others : List Item} (hitem : item fuel (c :: rest) = .ok (content, behind))
    (hnext : lineEnd behind = .ok next) (hothers : scan fuel next = .ok others) :
    scanFrom fuel (c :: rest) = .ok (content :: others) := by
  rw [scanFrom, hitem, ok_bind]
  simp only [hnext, ok_bind, hothers]

theorem scanFrom_mono {fuel : Nat} {rest : List Char} {items : List Item} (extra : Nat)
    (hscan : ∀ next others, scan fuel next = .ok others → scan (fuel + extra) next = .ok others)
    (hread : scanFrom fuel rest = .ok items) : scanFrom (fuel + extra) rest = .ok items := by
  match rest with
  | [] => exact hread
  | c :: rest =>
      obtain ⟨content, behind, next, others, hitem, hnext, hothers, rfl⟩ := scanFrom_eq_ok hread
      have hmore := readsOn_item (.inl rfl) extra fuel c rest content behind hitem
      rw [List.append_nil, List.append_nil] at hmore
      exact scanFrom_cons hmore hnext (hscan next others hothers)

theorem scan_mono {fuel : Nat} {text : List Char} {items : List Item} (extra : Nat)
    (hread : scan fuel text = .ok items) : scan (fuel + extra) text = .ok items := by
  induction fuel generalizing text items with
  | zero => cases hread
  | succ fuel ih =>
      rw [scan_succ] at hread
      obtain ⟨rest, hskip, hread⟩ := bind_eq_ok hread
      have hmore := skipLines_mono extra hskip
      rw [Nat.add_right_comm] at hmore ⊢
      rw [scan_succ, hmore, ok_bind]
      exact scanFrom_mono extra (fun _ _ => ih) hread

theorem scan_append {fuel extra : Nat} {text more : List Char} {items others : List Item}
    (hbreak : lineBreak? tail = some more) (hread : scan fuel text = .ok items)
    (hmore : scan extra more = .ok others) :
    scan (fuel + extra) (text ++ tail) = .ok (items ++ others) := by
  have hend := atLineEnd_of_lineBreak? hbreak
  induction fuel generalizing text items with
  | zero => cases hread
  | succ fuel ih =>
      rw [scan_succ] at hread
      obtain ⟨rest, hskip, hread⟩ := bind_eq_ok hread
      match rest with
      | [] =>
          -- the text says nothing more, so the document goes on in the tail
          cases hread
          obtain ⟨extra, rfl⟩ : ∃ n, extra = n + 1 := by
            cases extra with
            | zero => cases hmore
            | succ extra => exact ⟨extra, rfl⟩
          rw [scan_succ] at hmore
          obtain ⟨after, hafter, hmore⟩ := bind_eq_ok hmore
          rw [← Nat.add_assoc, scan_succ, Nat.add_assoc,
            skipLines_append_break hbreak hskip hafter, ok_bind, Nat.add_comm]
          exact scanFrom_mono (fuel + 1) (fun _ _ => scan_mono _) hmore
      | c :: rest =>
          obtain ⟨content, behind, next, items, hitem, hnext, hitems, rfl⟩ := scanFrom_eq_ok hread
          have hreturn : c ≠ '\r' := by
            rintro rfl
            obtain ⟨fault, hfault⟩ := (assignment_needsText false deepest fuel).carriage rest
            rw [item_assignment (by decide), hfault] at hitem
            cases hitem
          have hmoreSkip := skipLines_append hend extra hskip hreturn
          have hmoreItem := readsOn_item hend extra fuel c rest content behind hitem
          rw [Nat.add_right_comm] at hmoreSkip ⊢
          rw [scan_succ, hmoreSkip, ok_bind]
          obtain hline | ⟨rfl, hline⟩ := lineEnd_append hbreak hnext
          · exact scanFrom_cons hmoreItem hline (ih hitems)
          · -- the line ends where the tail begins
            have hempty : items = [] := by
              cases fuel with
              | zero => cases hitems
              | succ fuel =>
                  cases hitems
                  rfl
            subst hempty
            have hrest := scan_mono fuel hmore
            rw [Nat.add_comm] at hrest
            exact scanFrom_cons hmoreItem hline hrest

/-! ## Outlines from statements -/

def Section.items (part : Section) : List Item :=
  .header part.header :: part.body.map .assignment

def Outline.items (outline : Outline) : List Item :=
  outline.top.map .assignment ++ outline.sections.flatMap Section.items

/-- Assignments in front of the first header are at the top, and the others belong to the
header in front of them. -/
def Outline.ofItems : List Item → Outline
  | [] => ⟨[], []⟩
  | .assignment assignment :: items =>
      { ofItems items with top := assignment :: (ofItems items).top }
  | .header header :: items => ⟨[], ⟨header, (ofItems items).top⟩ :: (ofItems items).sections⟩

theorem Outline.ofItems_assignments (body : List Assignment) (items : List Item) :
    ofItems (body.map .assignment ++ items) =
      { ofItems items with top := body ++ (ofItems items).top } := by
  induction body with
  | nil => rfl
  | cons assignment body ih => rw [List.map_cons, List.cons_append, ofItems, ih, List.cons_append]

theorem Outline.ofItems_items (outline : Outline) : ofItems outline.items = outline := by
  obtain ⟨top, sections⟩ := outline
  have hsections : ofItems (sections.flatMap Section.items) = ⟨[], sections⟩ := by
    induction sections with
    | nil => rfl
    | cons part sections ih =>
        rw [List.flatMap_cons, Section.items, List.cons_append, ofItems,
          ofItems_assignments, ih, List.append_nil]
  rw [items, ofItems_assignments, hsections, List.append_nil]

theorem Reading.items_take (reading : Reading) (item : Item) :
    (reading.take item).outline.items = reading.outline.items ++ [item] := by
  obtain ⟨top, sections⟩ := reading
  cases item with
  | header header => simp [take, begin, outline, Outline.items, Section.items]
  | assignment assignment =>
      cases sections with
      | nil => simp [take, assign, outline, Outline.items]
      | cons last earlier => simp [take, assign, outline, Outline.items, Section.items]

theorem Reading.items_outlineOf (reading : Reading) (items : List Item) :
    (reading.outlineOf items).items = reading.outline.items ++ items := by
  induction items generalizing reading with
  | nil => exact (List.append_nil _).symm
  | cons item items ih =>
      have hrest := ih (reading.take item)
      rw [reading.items_take, List.append_assoc] at hrest
      exact hrest

theorem Reading.outlineOf_eq (items : List Item) :
    (⟨[], []⟩ : Reading).outlineOf items = .ofItems items := by
  rw [← Outline.ofItems_items (Reading.outlineOf _ items), items_outlineOf]
  rfl

/-! ## Texts and what they state -/

def States (text : List Char) (items : List Item) : Prop :=
  scan (4 * text.length + 4) text = .ok items

def IsLineBreak (mark : List Char) : Prop := mark = ['\n'] ∨ mark = ['\r', '\n']

namespace States

variable {text first second mark : List Char} {items others : List Item}

theorem nil : States [] [] := rfl

theorem append (hmark : IsLineBreak mark) (hfirst : States first items)
    (hsecond : States second others) : States (first ++ (mark ++ second)) (items ++ others) := by
  have hbreak : lineBreak? (mark ++ second) = some second := by
    obtain rfl | rfl := hmark <;> rfl
  have hlength : 1 ≤ mark.length := by
    obtain rfl | rfl := hmark <;> decide
  have hfuel : 4 * (first ++ (mark ++ second)).length + 4 =
      4 * first.length + 4 + (4 * second.length + 4) + 4 * (mark.length - 1) := by
    simp only [List.length_append]
    omega
  unfold States at hfirst hsecond ⊢
  rw [hfuel]
  exact scan_mono _ (scan_append hbreak hfirst hsecond)

theorem intercalate {texts : List (List Char)} {itemss : List (List Item)}
    (hmark : IsLineBreak mark) (hstates : List.Forall₂ States texts itemss) :
    States (mark.intercalate texts) itemss.flatten := by
  induction hstates with
  | nil => exact nil
  | @cons text items texts itemss hfirst hrest ih =>
      cases texts with
      | nil =>
          cases hrest
          simpa using hfirst
      | cons next texts =>
          rw [List.intercalate_cons_of_ne_nil (by simp), List.append_assoc]
          exact hfirst.append hmark ih

theorem skipMark_eq (hstates : States text items) : skipMark text = text := by
  match text with
  | [] => rfl
  | c :: rest =>
      rw [skipMark, if_neg]
      intro horder
      obtain rfl : c = '\uFEFF' := by
        rw [← Char.ofNat_toNat c, horder]
      have hfault : scan (4 * ('\uFEFF' :: rest).length + 4) ('\uFEFF' :: rest) =
          .error .missingKey := rfl
      rw [States, hfault] at hstates
      cases hstates

theorem outline_eq (hstates : States text items) : outline text = .ok (.ofItems items) := by
  have hscan : scan (4 * text.length + 4) text = .ok items := hstates
  rw [outline, hstates.skipMark_eq, lines_eq_scan, hscan, Except.map, Reading.outlineOf_eq]

theorem read_eq (hstates : States text items) :
    Document.read text = (Outline.ofItems items).value := by
  rw [Document.read, hstates.outline_eq, ok_bind]

end States

end SegmentBench.Document
