import SegmentBench.Proofs.Config.Optional
import SegmentBench.Proofs.Settings.Checks
import SegmentBench.Proofs.Text.Lines

/-!
# The path of the input by a variable

The path may be written as the placeholder of a variable between double quotes.  It is
then what the variable holds, to the character: what is put in is not searched again, and
a text that needs no escapes is read as it is.  Only the checks look at it, and refuse an
empty path and one in which a placeholder begins.
-/

namespace SegmentBench

open Document (IsLineBreak IsBare IsPlain Says headerLine entryLine)
open Placeholder (IsWritable LeavesOpen substitute written)

/-! ## Replacing the placeholder -/

namespace Placeholder

variable {environment : Environment} {name : List Char} {known : String}

theorem substitute_between (hname : IsWritable name)
    (hknown : environment (String.ofList name) = some known) {front back : List Char}
    (hfront : '$' ∉ front) (hback : '$' ∉ back) :
    substitute environment (front ++ (written name ++ back)) = front ++ (known.toList ++ back) := by
  rw [substitute_append (not_leavesOpen_of_plain hfront) (by simp [written]),
    substitute_of_plain hfront, substitute_written hname, substitute_of_plain hback, value, hknown]

theorem not_leavesOpen_between (name : List Char) {front back : List Char} (hback : '$' ∉ back) :
    ¬LeavesOpen (front ++ (written name ++ back)) := by
  have hshift : front ++ (written name ++ back) =
      (front ++ '$' :: '\x7b' :: name) ++ '\x7d' :: back := by
    simp [written]
  rw [hshift, leavesOpen_append_close]
  exact not_leavesOpen_of_plain hback

end Placeholder

/-! ## Paths that are texts -/

namespace Path

theorem usable_ofString_iff {text : String} (hnul : '\x00' ∉ text.toList) :
    (ofString text).Usable ↔ text ≠ "" := by
  have hempty : (ofString text).bytes = [] ↔ text = "" :=
    encode_eq_nil_iff.trans String.toList_eq_nil_iff
  refine ⟨fun husable => mt hempty.mpr husable.nonempty, fun hne => ⟨mt hempty.mp hne, ?_⟩⟩
  exact mt (Utf8.mem_of_mem_encode (by decide) (by decide)) hnul

theorem opensPlaceholder_ofString_iff (text : String) :
    (ofString text).OpensPlaceholder ↔ ['$', '\x7b'] <:+: text.toList := by
  rw [← placeholder_infix_shown_iff, shown, ofString, Utf8.decodeLossy_encode]

end Path

namespace Config

/-- A line that says nothing and in which nothing is replaced. -/
structure IsIdle (text : List Char) : Prop where
  blank : Says text .blank
  plain : '$' ∉ text

def pathLines (before between behind : List (List Char)) (text : List Char) : List (List Char) :=
  before ++ headerLine "input" ::
    (between ++ entryLine "path" ('"' :: (text ++ ['"'])) :: behind)

variable {environment : Environment} {mark name : List Char} {known : String}
  {before between behind : List (List Char)}

theorem isIdle_nil : IsIdle [] := ⟨Document.States.nil, List.not_mem_nil⟩

theorem entryLine_path (text : List Char) :
    entryLine "path" ('"' :: text) = ("path".toList ++ [' ', '=', ' ', '"']) ++ text := by
  simp [entryLine]

theorem map_substitute_idle {texts : List (List Char)} (hidle : ∀ text ∈ texts, IsIdle text) :
    texts.map (substitute environment) = texts :=
  (List.map_congr_left fun text hmem =>
    Placeholder.substitute_of_plain (hidle text hmem).plain).trans texts.map_id

theorem not_leavesOpen_pathLines (name : List Char) (hbefore : ∀ text ∈ before, IsIdle text)
    (hbetween : ∀ text ∈ between, IsIdle text) (hbehind : ∀ text ∈ behind, IsIdle text) :
    ∀ text ∈ pathLines before between behind (written name), ¬LeavesOpen text := by
  have hidle {texts : List (List Char)} (hidle : ∀ text ∈ texts, IsIdle text) :
      ∀ text ∈ texts, ¬LeavesOpen text :=
    fun text hmem => Placeholder.not_leavesOpen_of_plain (hidle text hmem).plain
  have hentry : ¬LeavesOpen (entryLine "path" ('"' :: (written name ++ ['"']))) := by
    rw [entryLine_path]
    exact Placeholder.not_leavesOpen_between name (by decide)
  rw [pathLines, List.forall_mem_append, List.forall_mem_cons, List.forall_mem_append,
    List.forall_mem_cons]
  exact ⟨hidle hbefore, Placeholder.not_leavesOpen_of_plain (by decide), hidle hbetween, hentry,
    hidle hbehind⟩

theorem substitute_pathLines (hmark : IsLineBreak mark) (hname : IsWritable name)
    (hknown : environment (String.ofList name) = some known)
    (hbefore : ∀ text ∈ before, IsIdle text) (hbetween : ∀ text ∈ between, IsIdle text)
    (hbehind : ∀ text ∈ behind, IsIdle text) :
    substitute environment (mark.intercalate (pathLines before between behind (written name))) =
      mark.intercalate (pathLines before between behind known.toList) := by
  have hclosed := not_leavesOpen_pathLines name hbefore hbetween hbehind
  have hlinewise := Placeholder.linewise environment hmark
    (List.pairwise_of_forall_mem_list fun text hmem _ _ hopen => absurd hopen (hclosed text hmem))
  have hheader : substitute environment (headerLine "input") = headerLine "input" :=
    Placeholder.substitute_of_plain (by decide)
  have hentry : substitute environment (entryLine "path" ('"' :: (written name ++ ['"']))) =
      entryLine "path" ('"' :: (known.toList ++ ['"'])) := by
    rw [entryLine_path, entryLine_path,
      Placeholder.substitute_between hname hknown (by decide) (by decide)]
  rw [hlinewise, pathLines, List.map_append, List.map_cons, List.map_append, List.map_cons,
    map_substitute_idle hbefore, map_substitute_idle hbetween, map_substitute_idle hbehind,
    hheader, hentry, pathLines]

/-- The path is what the variable holds, even where that looks like a placeholder, and the
configuration has nothing else. -/
theorem ofText_variable (hmark : IsLineBreak mark) (hname : IsWritable name)
    (hknown : environment (String.ofList name) = some known) (hplain : IsPlain known.toList)
    (hbefore : ∀ text ∈ before, IsIdle text) (hbetween : ∀ text ∈ between, IsIdle text)
    (hbehind : ∀ text ∈ behind, IsIdle text) :
    let config : Config := ⟨⟨none, none, none⟩, some ⟨some (Path.ofString known)⟩, none, none⟩
    ofText environment (mark.intercalate (pathLines before between behind (written name))) =
        .ok config ∧
      (config.validate = .ok () ↔ known ≠ "" ∧ ¬['$', '\x7b'] <:+: known.toList) := by
  intro config
  have hread := Document.read_single hmark (⟨by decide, by decide⟩ : IsBare "input".toList)
    (⟨by decide, by decide⟩ : IsBare "path".toList) (Document.writes_quoted hplain)
    (fun text hmem => (hbefore text hmem).blank) (fun text hmem => (hbetween text hmem).blank)
    (fun text hmem => (hbehind text hmem).blank)
  rw [← pathLines, ← substitute_pathLines hmark hname hknown hbefore hbetween hbehind,
    String.ofList_toList] at hread
  refine ⟨(ofText_of_read hread).trans rfl, ?_⟩
  -- of what makes a path unusable, only that it is empty is left
  have hnul : '\x00' ∉ known.toList := fun hmem => absurd (hplain _ hmem).2.2 (by decide)
  rw [validate_eq_ok_iff, admitted_iff, ← Path.usable_ofString_iff hnul,
    ← Path.opensPlaceholder_ofString_iff]
  constructor
  · exact fun hadmitted => hadmitted (Path.ofString known) rfl
  · rintro hadmitted path ⟨⟩
    exact hadmitted

theorem ofText_variable_nested :
    let environment : Environment := fun name =>
      if name = "X" then some "a$\x7bY\x7d" else if name = "Y" then some "b" else none
    let text (name : Char) : List Char :=
      ['\n'].intercalate (pathLines [] [] [[]] (written [name]))
    let config (path : String) : Config :=
      ⟨⟨none, none, none⟩, some ⟨some (Path.ofString path)⟩, none, none⟩
    ofText environment (text 'X') = .ok (config "a$\x7bY\x7d") ∧
      (config "a$\x7bY\x7d").validate ≠ .ok () ∧
      ofText environment (text 'Y') = .ok (config "b") ∧ (config "b").validate = .ok () := by
  intro environment text config
  have hname (c : Char) (hclosed : c ≠ '\x7d') : IsWritable [c] :=
    ⟨List.cons_ne_nil _ _, fun hmem => hclosed (List.mem_singleton.mp hmem).symm⟩
  have hnone : ∀ text ∈ ([] : List (List Char)), IsIdle text := List.forall_mem_nil _
  have hlast : ∀ text ∈ [[]], IsIdle text := List.forall_mem_singleton.mpr isIdle_nil
  obtain ⟨hnested, hrefused⟩ := @ofText_variable environment _ _ _ _ _ _ (.inl rfl)
    (hname 'X' (by decide)) rfl (by decide) hnone hnone hlast
  obtain ⟨hsingle, hadmitted⟩ := @ofText_variable environment _ _ _ _ _ _ (.inl rfl)
    (hname 'Y' (by decide)) rfl (by decide) hnone hnone hlast
  refine ⟨hnested, fun hok => (hrefused.mp hok).2 ?_, hsingle, hadmitted.mpr ?_⟩
  · exact ⟨['a'], ['Y', '\x7d'], rfl⟩
  · exact ⟨by decide, by decide⟩

end Config

end SegmentBench
