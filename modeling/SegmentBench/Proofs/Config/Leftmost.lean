import Mathlib.Data.Nat.Find
import SegmentBench.Proofs.Config.Placeholder

/-!
# Placeholders from left to right

A text is cut at the earliest place where a whole placeholder stands, and what is behind it
is cut in the same way.  There is one way to do so, and what the replacement gives is the
text between the cuts with the values of the names in between: no value is searched, and
where no placeholder stands nothing changes.
-/

namespace SegmentBench.Placeholder

variable {text name rest before tail : List Char} {environment : Environment}

/-! ## Cuts -/

/-- A whole placeholder begins at the place: an opening, a name and the brace that closes it. -/
def StandsAt (text : List Char) (place : Nat) : Prop :=
  ∃ name rest, IsWritable name ∧ text.drop place = '$' :: '\x7b' :: (name ++ '\x7d' :: rest)

/-- A placeholder by its name, and the text in front of it back to the one before. -/
structure Cut where
  before : List Char
  name : List Char
  deriving DecidableEq, Repr

inductive CutsInto : List Char → List Cut → List Char → Prop where
  | uncut {text : List Char} (nowhere : ∀ place, ¬StandsAt text place) : CutsInto text [] text
  | cut {text before name rest tail : List Char} {cuts : List Cut}
      (split : text = before ++ '$' :: '\x7b' :: (name ++ '\x7d' :: rest))
      (writable : IsWritable name)
      (earliest : ∀ place < before.length, ¬StandsAt text place)
      (behind : CutsInto rest cuts tail) : CutsInto text (⟨before, name⟩ :: cuts) tail

def Cut.filling (environment : Environment) (cut : Cut) : List Char :=
  match environment (String.ofList cut.name) with
  | some known => known.toList
  | none => '$' :: '\x7b' :: cut.name ++ ['\x7d']

def emitted (environment : Environment) (tail : List Char) : List Cut → List Char
  | [] => tail
  | cut :: cuts => cut.before ++ cut.filling environment ++ emitted environment tail cuts

theorem written_append (name rest : List Char) :
    written name ++ rest = '$' :: '\x7b' :: (name ++ '\x7d' :: rest) := by
  simp [written]

theorem standsAt_written (hname : IsWritable name) (before rest : List Char) :
    StandsAt (before ++ '$' :: '\x7b' :: (name ++ '\x7d' :: rest)) before.length :=
  ⟨name, rest, hname, List.drop_left⟩

theorem standsAt_cons {c : Char} {place : Nat} :
    StandsAt (c :: rest) (place + 1) ↔ StandsAt rest place := Iff.rfl

theorem written_append_inj {other behind : List Char} (hname : IsWritable name)
    (hother : IsWritable other) (heq : name ++ '\x7d' :: rest = other ++ '\x7d' :: behind) :
    name = other ∧ rest = behind := by
  have hread := name?_written hname rest
  rw [heq, name?_written hother behind] at hread
  cases hread
  exact ⟨rfl, rfl⟩

/-! ### Where one stands -/

def opens : List Char → Bool
  | '$' :: '\x7b' :: rest => (name? rest).isSome
  | _ => false

theorem opens_drop_iff {place : Nat} : opens (text.drop place) = true ↔ StandsAt text place := by
  constructor
  · intro hopens
    unfold opens at hopens
    split at hopens
    · rename_i rest hdrop
      obtain ⟨-, hnone⟩ | ⟨_, -, hnone⟩ | ⟨name, behind, hname, rfl, -⟩ := name?_cases rest
      · simp [hnone] at hopens
      · simp [hnone] at hopens
      · exact ⟨name, behind, hname, hdrop⟩
    · cases hopens
  · rintro ⟨name, rest, hname, hdrop⟩
    rw [hdrop, opens, name?_written hname]
    rfl

instance (text : List Char) (place : Nat) : Decidable (StandsAt text place) :=
  decidable_of_iff _ opens_drop_iff

theorem StandsAt.lt_length {place : Nat} (hstands : StandsAt text place) : place < text.length := by
  obtain ⟨name, rest, -, hdrop⟩ := hstands
  apply Nat.lt_of_not_le
  intro hle
  rw [List.drop_eq_nil_of_le hle] at hdrop
  cases hdrop

/-! ## One way to cut -/

theorem exists_cutsInto (text : List Char) : ∃ cuts tail, CutsInto text cuts tail := by
  induction hlength : text.length using Nat.strong_induction_on generalizing text with
  | h length ih =>
      by_cases hstands : ∃ place, StandsAt text place
      · obtain ⟨name, rest, hname, hrest⟩ := Nat.find_spec hstands
        have hsplit : text =
            text.take (Nat.find hstands) ++ '$' :: '\x7b' :: (name ++ '\x7d' :: rest) := by
          rw [← hrest, List.take_append_drop]
        have hshorter : rest.length < length := by
          have hlengths := congrArg List.length hsplit
          simp only [List.length_append, List.length_cons] at hlengths
          omega
        obtain ⟨cuts, tail, hbehind⟩ := ih _ hshorter rest rfl
        refine ⟨_, tail, .cut hsplit hname ?_ hbehind⟩
        intro place hplace
        exact Nat.find_min hstands (hplace.trans_le (List.length_take_le _ _))
      · exact ⟨[], text, .uncut (not_exists.mp hstands)⟩

theorem CutsInto.unique {cuts others : List Cut} {ending : List Char}
    (hcuts : CutsInto text cuts tail) (hothers : CutsInto text others ending) :
    others = cuts ∧ ending = tail := by
  induction hcuts generalizing others ending with
  | uncut hnowhere =>
      cases hothers with
      | uncut _ => exact ⟨rfl, rfl⟩
      | cut hsplit hname _ _ =>
          subst hsplit
          exact absurd (standsAt_written hname _ _) (hnowhere _)
  | @cut text before name rest tail cuts hsplit hname hearliest _ ih =>
      cases hothers with
      | uncut hnowhere =>
          subst hsplit
          exact absurd (standsAt_written hname _ _) (hnowhere _)
      | @cut _ before' name' rest' _ cuts' hsplit' hname' hearliest' hbehind' =>
          -- neither placeholder stands before the other
          have hle : before.length ≤ before'.length := Nat.not_lt.mp fun hlt =>
            hearliest _ hlt (hsplit' ▸ standsAt_written hname' before' rest')
          have hge : before'.length ≤ before.length := Nat.not_lt.mp fun hlt =>
            hearliest' _ hlt (hsplit ▸ standsAt_written hname before rest)
          rw [hsplit] at hsplit'
          obtain ⟨rfl, hwritten⟩ := List.append_inj hsplit' (Nat.le_antisymm hle hge)
          simp only [List.cons.injEq, true_and] at hwritten
          obtain ⟨rfl, rfl⟩ := written_append_inj hname hname' hwritten
          obtain ⟨rfl, rfl⟩ := ih hbehind'
          exact ⟨rfl, rfl⟩

/-! ## What is replaced -/

theorem pieces_plain {c : Char} (hplain : ¬StandsAt (c :: rest) 0) :
    pieces (c :: rest) = .plain c :: pieces rest := by
  by_cases hopening : c = '$' ∧ rest.head? = some '\x7b'
  · obtain ⟨rfl, hbrace⟩ := hopening
    obtain ⟨behind, rfl⟩ := List.head?_eq_some_iff.mp hbrace
    obtain ⟨-, hnone⟩ | ⟨_, -, hnone⟩ | ⟨name, rest, hname, rfl, -⟩ := name?_cases behind
    · exact pieces_opening hnone
    · exact pieces_opening hnone
    · exact absurd ⟨name, rest, hname, rfl⟩ hplain
  · exact pieces_cons hopening

theorem pieces_append_of_nowhere
    (hnowhere : ∀ place < before.length, ¬StandsAt (before ++ rest) place) :
    pieces (before ++ rest) = before.map .plain ++ pieces rest := by
  induction before with
  | nil => rfl
  | cons c before ih =>
      have hfirst : ¬StandsAt (c :: (before ++ rest)) 0 := hnowhere 0 (Nat.succ_pos _)
      have hothers : ∀ place < before.length, ¬StandsAt (before ++ rest) place :=
        fun place hplace => mt standsAt_cons.mpr (hnowhere (place + 1) (Nat.succ_lt_succ hplace))
      rw [List.cons_append, pieces_plain hfirst, ih hothers]
      rfl

theorem substitute_append_of_nowhere
    (hnowhere : ∀ place < before.length, ¬StandsAt (before ++ rest) place) :
    substitute environment (before ++ rest) = before ++ substitute environment rest := by
  simp [substitute, pieces_append_of_nowhere hnowhere, List.flatMap_map, Piece.value]

theorem substitute_of_nowhere (hnowhere : ∀ place, ¬StandsAt text place) :
    substitute environment text = text := by
  have hall : ∀ place < text.length, ¬StandsAt (text ++ []) place := by
    simpa using fun place _ => hnowhere place
  have hrest : substitute environment [] = [] := by rw [substitute, pieces, List.flatMap_nil]
  have happend : substitute environment (text ++ []) = text ++ substitute environment [] :=
    substitute_append_of_nowhere hall
  rwa [hrest, List.append_nil] at happend

theorem CutsInto.substitute_eq {cuts : List Cut} (hcuts : CutsInto text cuts tail) :
    substitute environment text = emitted environment tail cuts := by
  induction hcuts with
  | uncut hnowhere => exact substitute_of_nowhere hnowhere
  | @cut text before name rest tail cuts hsplit hname hearliest _ ih =>
      have hfilling : value environment name = Cut.filling environment ⟨before, name⟩ := rfl
      rw [hsplit] at hearliest ⊢
      rw [substitute_append_of_nowhere hearliest, ← written_append, substitute_written hname, ih,
        hfilling, emitted, List.append_assoc]

theorem CutsInto.emitted_of_unset {cuts : List Cut} (hcuts : CutsInto text cuts tail)
    (hunset : ∀ cut ∈ cuts, environment (String.ofList cut.name) = none) :
    emitted environment tail cuts = text := by
  induction hcuts with
  | uncut _ => rfl
  | cut hsplit _ _ _ ih =>
      obtain ⟨hname, hothers⟩ := List.forall_mem_cons.mp hunset
      simp [emitted, ih hothers, Cut.filling, hname, hsplit]

theorem CutsInto.name_infix {cuts : List Cut} (hcuts : CutsInto text cuts tail) :
    ∀ cut ∈ cuts, cut.name <:+: text := by
  induction hcuts with
  | uncut _ => exact List.forall_mem_nil _
  | @cut text before name rest tail cuts hsplit _ _ _ ih =>
      refine List.forall_mem_cons.mpr ⟨?_, fun cut hmem => ?_⟩
      · exact ⟨before ++ ['$', '\x7b'], '\x7d' :: rest, by simp [hsplit]⟩
      · exact (ih cut hmem).trans ⟨before ++ written name, [], by simp [hsplit, written]⟩

theorem emitted_congr {other : Environment} {cuts : List Cut}
    (hagree : ∀ cut ∈ cuts, cut.filling environment = cut.filling other) :
    emitted environment tail cuts = emitted other tail cuts := by
  induction cuts with
  | nil => rfl
  | cons cut cuts ih =>
      obtain ⟨hcut, hothers⟩ := List.forall_mem_cons.mp hagree
      rw [emitted, emitted, hcut, ih hothers]

theorem substitute_of_absent {other : Environment} {absent : String}
    (hagree : ∀ known, known ≠ absent → environment known = other known)
    (habsent : ¬absent.toList <:+: text) :
    substitute environment text = substitute other text := by
  obtain ⟨cuts, tail, hcuts⟩ := exists_cutsInto text
  have hvalues : ∀ cut ∈ cuts, cut.filling environment = cut.filling other := by
    intro cut hmem
    have hne : String.ofList cut.name ≠ absent := by
      rintro rfl
      exact habsent (by simpa using hcuts.name_infix cut hmem)
    rw [Cut.filling, Cut.filling, hagree _ hne]
  rw [hcuts.substitute_eq, hcuts.substitute_eq, emitted_congr hvalues]

theorem substitute_empty (rest : List Char) :
    substitute environment ('$' :: '\x7b' :: '\x7d' :: rest) =
      '$' :: '\x7b' :: '\x7d' :: substitute environment rest := by
  have hpieces : pieces ('$' :: '\x7b' :: '\x7d' :: rest) =
      .plain '$' :: .plain '\x7b' :: .plain '\x7d' :: pieces rest := by
    rw [pieces_opening rfl, pieces_cons (by simp), pieces_cons (by simp)]
  simp [substitute, hpieces, Piece.value]

/-- A text has one decomposition from left to right, and the replacement is what it emits. -/
theorem substitute_leftmost (environment : Environment) (text : List Char) :
    ∃ cuts tail, CutsInto text cuts tail ∧
      (∀ others ending, CutsInto text others ending → others = cuts ∧ ending = tail) ∧
      substitute environment text = emitted environment tail cuts ∧
      ((∀ cut ∈ cuts, environment (String.ofList cut.name) = none) →
        substitute environment text = text) ∧
      (∀ front behind, text = front ++ '$' :: '\x7b' :: '\x7d' :: behind → ¬LeavesOpen front →
        substitute environment text =
          substitute environment front ++
            '$' :: '\x7b' :: '\x7d' :: substitute environment behind) ∧
      ∀ before start, LeftOpen text before start →
        substitute environment text =
          substitute environment before ++ '$' :: '\x7b' :: start := by
  obtain ⟨cuts, tail, hcuts⟩ := exists_cutsInto text
  refine ⟨cuts, tail, hcuts, fun _ _ => hcuts.unique, hcuts.substitute_eq, fun hunset => ?unset,
    fun front behind hsplit hclosed => ?empty, fun _ _ => LeftOpen.substitute_eq⟩
  case unset => rw [hcuts.substitute_eq, hcuts.emitted_of_unset hunset]
  case empty => rw [hsplit, substitute_append hclosed (by simp), substitute_empty]

/-- What is put in is not searched, and neither an empty name nor an open one is replaced. -/
theorem substitute_leftmost_known :
    let environment : Environment :=
      fun name => if name = "X" then some "<$\x7bX\x7d>" else none
    let front := "$$\x7bX\x7d-$\x7bY$\x7b\x7d".toList
    let text := front ++ "$\x7b\x7d$\x7bX".toList
    CutsInto text [⟨['$'], ['X']⟩, ⟨['-'], ['Y', '$', '\x7b']⟩] "$\x7b\x7d$\x7bX".toList ∧
      substitute environment text = "$<$\x7bX\x7d>-$\x7bY$\x7b\x7d$\x7b\x7d$\x7bX".toList ∧
      ¬LeavesOpen front ∧
      substitute environment text =
        substitute environment front ++
          '$' :: '\x7b' :: '\x7d' :: substitute environment "$\x7bX".toList := by
  intro environment front text
  have htail : CutsInto "$\x7b\x7d$\x7bX".toList [] "$\x7b\x7d$\x7bX".toList := by
    have hnowhere : ∀ place < "$\x7b\x7d$\x7bX".toList.length,
        ¬StandsAt "$\x7b\x7d$\x7bX".toList place := by
      decide
    exact .uncut fun place hstands => hnowhere place hstands.lt_length hstands
  have hcuts : CutsInto text [⟨['$'], ['X']⟩, ⟨['-'], ['Y', '$', '\x7b']⟩]
      "$\x7b\x7d$\x7bX".toList := by
    refine .cut rfl ⟨by decide, by decide⟩ (by decide) ?_
    refine .cut rfl ⟨by decide, by decide⟩ (by decide) ?_
    exact htail
  have hclosed : ¬LeavesOpen front := by
    have hsplit : front = "$$\x7bX\x7d-$\x7bY$\x7b".toList ++ '\x7d' :: [] := rfl
    rw [hsplit, leavesOpen_append_close]
    exact not_leavesOpen_of_plain List.not_mem_nil
  obtain ⟨cuts, tail, -, hunique, hemitted, -, hempty, -⟩ := substitute_leftmost environment text
  obtain ⟨rfl, rfl⟩ := hunique _ _ hcuts
  exact ⟨hcuts, hemitted.trans (by decide), hclosed, hempty front _ rfl hclosed⟩

end SegmentBench.Placeholder
