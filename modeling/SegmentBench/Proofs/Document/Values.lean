import SegmentBench.Document.Outline
import SegmentBench.Proofs.Document.Strings

/-!
# Values in front of more text

Keys, values and assignments are read in the same way when a line break and more text
follow them.  Inside brackets the reader goes on over line breaks, but only to something
that has to stand there, so it does not get into what follows.
-/

namespace SegmentBench.Document

variable {α β : Type} {tail : List Char}

/-! ## Keys -/

theorem readsOn_keyName (hend : AtLineEnd tail) (text : List Char) :
    ReadsOn tail (keyName text) (keyName (text ++ tail)) := by
  unfold keyName
  obtain ⟨halone, hinFront⟩ | ⟨alone, inFront, halone, hinFront, hreads⟩ :=
    lineString?_append hend text
  · simp only [halone, hinFront, takeWhile_append hend (p := isBareKeyCharacter)
      (by decide) (by decide), dropWhile_append hend (p := isBareKeyCharacter)
      (by decide) (by decide)]
    split
    · exact .error
    · exact .ok
  · simp only [halone, hinFront]
    exact hreads.map String.ofList

section

variable {parents : List String} {fuel : Nat} {text : List Char} {name : String}
  {rest : List Char}

theorem keyFrom_of_error {fault : Fault} (hname : keyName (skipSpaces text) = .error fault) :
    keyFrom parents (fuel + 1) text = .error fault := by
  rw [keyFrom, hname]
  rfl

theorem keyFrom_dot {more : List Char} (hname : keyName (skipSpaces text) = .ok (name, rest))
    (hdot : skipSpaces rest = '.' :: more) :
    keyFrom parents (fuel + 1) text = keyFrom (name :: parents) fuel more := by
  rw [keyFrom, hname, ok_bind]
  simp only [hdot]

theorem keyFrom_last (hname : keyName (skipSpaces text) = .ok (name, rest))
    (hlast : (skipSpaces rest).head? ≠ some '.') :
    keyFrom parents (fuel + 1) text =
      if parents.length < deepest then .ok (⟨parents.reverse, name⟩, skipSpaces rest)
      else .error .nestedTooDeep := by
  rw [keyFrom, hname, ok_bind]
  simp only
  split
  · rename_i hdot
    exact absurd (by rw [hdot]; rfl) hlast
  · rfl

end

theorem readsOn_keyFrom (hend : AtLineEnd tail) (extra : Nat) (parents : List String)
    (fuel : Nat) (text : List Char) :
    ReadsOn tail (keyFrom parents fuel text) (keyFrom parents (fuel + extra) (text ++ tail)) := by
  induction fuel generalizing parents text with
  | zero => exact .error
  | succ fuel ih =>
      rw [Nat.add_right_comm]
      cases hname : keyName (skipSpaces text) with
      | error fault =>
          rw [keyFrom_of_error hname]
          exact .error
      | ok read =>
          obtain ⟨name, rest⟩ := read
          have hinFront := readsOn_keyName hend _ _ _ hname
          rw [← skipSpaces_append hend] at hinFront
          have hrest := skipSpaces_append hend rest
          by_cases hdot : (skipSpaces rest).head? = some '.'
          · obtain ⟨more, hmore⟩ := List.head?_eq_some_iff.mp hdot
            rw [hmore, List.cons_append] at hrest
            rw [keyFrom_dot hname hmore, keyFrom_dot hinFront hrest]
            exact ih _ _
          · have hlast : (skipSpaces (rest ++ tail)).head? ≠ some '.' := by
              intro htail
              rw [hrest, List.head?_append, Option.or_eq_some_iff] at htail
              obtain hhead | ⟨-, htail⟩ := htail
              · exact hdot hhead
              · simpa using hend.head_cases '.' htail
            rw [keyFrom_last hname hdot, keyFrom_last hinFront hlast, hrest]
            split
            · exact .ok
            · exact .error

/-! ## Comments and empty lines -/

theorem skipComment_end (hend : AtLineEnd tail) : skipComment tail = .ok tail := by
  obtain rfl | hbreak := hend
  · rfl
  · cases tail with
    | nil => rfl
    | cons c rest =>
        rw [breaks] at hbreak
        rw [skipComment, if_pos hbreak]

theorem skipComment_append {text rest : List Char} (hend : AtLineEnd tail)
    (hread : skipComment text = .ok rest) : skipComment (text ++ tail) = .ok (rest ++ tail) := by
  induction text with
  | nil =>
      cases hread
      exact skipComment_end hend
  | cons c text ih =>
      simp only [List.cons_append, skipComment] at hread ⊢
      split at hread
      · rename_i hbreak
        cases hread
        have hinFront := breaks_append hbreak tail
        rw [breaks, List.cons_append] at hinFront
        rw [if_pos hinFront, List.cons_append]
      split at hread
      · cases hread
      · rename_i hnone hallowed
        obtain hsame | rfl := breaks_append_or c text tail
        · unfold breaks at hsame
          rw [hsame, if_neg hnone, if_neg hallowed]
          exact ih hread
        · exact absurd (by decide) hallowed

section

variable {fuel : Nat} {text rest next : List Char}

theorem skipLines_comment (hcomment : skipSpaces text = '#' :: rest) :
    skipLines (fuel + 1) text = skipComment rest >>= skipLines fuel := by
  simp only [skipLines, hcomment]

theorem skipLines_break (hbreak : lineBreak? (skipSpaces text) = some next) :
    skipLines (fuel + 1) text = skipLines fuel next := by
  rw [skipLines]
  split
  · rename_i hcomment
    rw [hcomment] at hbreak
    cases hbreak
  · rw [hbreak]

theorem skipLines_stop (hcomment : (skipSpaces text).head? ≠ some '#')
    (hbreak : lineBreak? (skipSpaces text) = none) :
    skipLines (fuel + 1) text = .ok (skipSpaces text) := by
  rw [skipLines]
  split
  · rename_i hsharp
    exact absurd (by rw [hsharp]; rfl) hcomment
  · rw [hbreak]

theorem skipLines_cases (text : List Char) :
    (∃ rest, skipSpaces text = '#' :: rest) ∨
      (∃ next, lineBreak? (skipSpaces text) = some next) ∨
        (skipSpaces text).head? ≠ some '#' ∧ lineBreak? (skipSpaces text) = none := by
  by_cases hcomment : (skipSpaces text).head? = some '#'
  · exact .inl (List.head?_eq_some_iff.mp hcomment)
  cases hbreak : lineBreak? (skipSpaces text) with
  | some next => exact .inr (.inl ⟨next, rfl⟩)
  | none => exact .inr (.inr ⟨hcomment, rfl⟩)

end

theorem skipLines_append {fuel : Nat} {text more : List Char} {c : Char} (hend : AtLineEnd tail)
    (extra : Nat) (hread : skipLines fuel text = .ok (c :: more)) (hreturn : c ≠ '\r') :
    skipLines (fuel + extra) (text ++ tail) = .ok (c :: more ++ tail) := by
  induction fuel generalizing text with
  | zero => cases hread
  | succ fuel ih =>
      have hspaces := skipSpaces_append hend text
      rw [Nat.add_right_comm]
      obtain ⟨rest, hcomment⟩ | ⟨next, hbreak⟩ | ⟨hcomment, hbreak⟩ := skipLines_cases text
      · rw [skipLines_comment hcomment] at hread
        rw [hcomment, List.cons_append] at hspaces
        rw [skipLines_comment hspaces]
        cases hskip : skipComment rest with
        | error fault =>
            rw [hskip] at hread
            cases hread
        | ok behind =>
            rw [hskip] at hread
            rw [skipComment_append hend hskip]
            exact ih hread
      · rw [skipLines_break hbreak] at hread
        have hinFront := lineBreak?_append hbreak tail
        rw [← hspaces] at hinFront
        rw [skipLines_break hinFront]
        exact ih hread
      · rw [skipLines_stop hcomment hbreak] at hread
        rw [Except.ok.inj hread] at hspaces hcomment hbreak
        have hinFront : lineBreak? (skipSpaces (text ++ tail)) = none := by
          rw [lineBreak?_eq_none_iff] at hbreak ⊢
          rw [hspaces, List.cons_append, (breaks_append_or c more tail).resolve_right hreturn,
            hbreak]
        have hsharp : (skipSpaces (text ++ tail)).head? ≠ some '#' := by
          rw [hspaces]
          exact hcomment
        rw [skipLines_stop hsharp hinFront, hspaces]

/-- What reads on behind skipped lines finds something there. -/
structure NeedsText (next : List Char → Except Fault (α × List Char)) : Prop where
  nil : ∃ fault, next [] = .error fault
  carriage : ∀ rest, ∃ fault, next ('\r' :: rest) = .error fault

section

variable {fuel : Nat} {next next' : List Char → Except Fault (α × List Char)}

theorem ReadsOn.skipLines (hend : AtLineEnd tail) (extra : Nat) (text : List Char)
    (hneeds : NeedsText next)
    (hnext : ∀ c rest, ReadsOn tail (next (c :: rest)) (next' (c :: rest ++ tail))) :
    ReadsOn tail (skipLines fuel text >>= next)
      (skipLines (fuel + extra) (text ++ tail) >>= next') := by
  cases hread : Document.skipLines fuel text with
  | error fault => exact .error
  | ok rest =>
      rw [ok_bind]
      match rest with
      | [] => exact .of_error hneeds.nil
      | c :: rest =>
          by_cases hreturn : c = '\r'
          · subst hreturn
            exact .of_error (hneeds.carriage rest)
          · rw [skipLines_append hend extra hread hreturn]
            exact hnext c rest

theorem ReadsOn.skipGap (hend : AtLineEnd tail) (extra : Nat) (inline : Bool) (text : List Char)
    (hneeds : NeedsText next)
    (hnext : ∀ c rest, ReadsOn tail (next (c :: rest)) (next' (c :: rest ++ tail))) :
    ReadsOn tail (skipGap inline fuel text >>= next)
      (skipGap inline (fuel + extra) (text ++ tail) >>= next') := by
  cases inline with
  | true => exact ReadsOn.skipLines hend extra text hneeds hnext
  | false =>
      simp only [Document.skipGap, Bool.false_eq_true, if_false, ok_bind, skipSpaces_append hend]
      cases skipSpaces text with
      | nil => exact .of_error hneeds.nil
      | cons c rest => exact hnext c rest

end

/-! ## Values without brackets -/

theorem splitWord_append (hend : AtLineEnd tail) (text : List Char) :
    splitWord (text ++ tail) = ((splitWord text).1, (splitWord text).2 ++ tail) := by
  have htake := takeWhile_append (p := isWordCharacter) hend (by decide) (by decide)
  have hdrop := dropWhile_append (p := isWordCharacter) hend (by decide) (by decide)
  simp only [splitWord, htake, hdrop]
  match text.dropWhile isWordCharacter with
  | [] =>
      split
      · rename_i hspace
        rw [List.nil_append] at hspace
        simpa using hend.head_cases ' ' (by rw [hspace]; rfl)
      · rfl
  | [c] =>
      split
      · rename_i hspace
        obtain ⟨rfl, rfl⟩ := List.cons.inj hspace
        have hdigit := hend.head_false (p := Numeral.isDecimal) (by decide) (by decide) _ rfl
        simp [hdigit]
      · simp only [List.cons_append, List.nil_append]
  | c :: d :: more =>
      by_cases hspace : c = ' '
      · subst hspace
        have hword := htake (d :: more)
        have hrest := hdrop (d :: more)
        rw [List.cons_append] at hword hrest
        simp only [List.cons_append, hword, hrest]
        split <;> rfl
      · simp [hspace]

def scalar (text : List Char) : Except Fault (Value × List Char) :=
  match string? text with
  | some result => result.map fun (content, rest) => (.string (String.ofList content), rest)
  | none => do
      let (content, rest) := splitWord text
      if content = [] then .error .missingValue
      else .ok (← word content, rest)

theorem readsOn_scalar (hend : AtLineEnd tail) (text : List Char) :
    ReadsOn tail (scalar text) (scalar (text ++ tail)) := by
  unfold scalar
  obtain ⟨halone, hinFront⟩ | ⟨alone, inFront, halone, hinFront, hreads⟩ :=
    string?_append hend text
  · simp only [halone, hinFront, splitWord_append hend]
    split
    · exact .error
    · exact .lift fun content => .ok
  · simp only [halone, hinFront]
    exact hreads.map fun content => Value.string (String.ofList content)

theorem value_scalar {depth fuel : Nat} {c : Char} {rest : List Char} (hbracket : c ≠ '[')
    (hbrace : c ≠ '\x7b') : value depth (fuel + 1) (c :: rest) = scalar (c :: rest) := by
  rw [value]
  · rfl
  · rintro _ ⟨⟩
    exact hbracket rfl
  · rintro _ ⟨⟩
    exact hbrace rfl

theorem value_needsText (depth fuel : Nat) : NeedsText (value depth fuel) where
  nil := by
    cases fuel with
    | zero => exact ⟨_, rfl⟩
    | succ fuel => exact ⟨_, rfl⟩
  carriage := by
    intro rest
    cases fuel with
    | zero => exact ⟨_, rfl⟩
    | succ fuel =>
        rw [value_scalar (by decide) (by decide)]
        exact ⟨.missingValue, rfl⟩

theorem assignment_needsText (inline : Bool) (depth fuel : Nat) :
    NeedsText (assignment inline depth fuel) where
  nil := by
    cases fuel with
    | zero => exact ⟨_, rfl⟩
    | succ fuel => exact ⟨.missingKey, rfl⟩
  carriage := by
    intro rest
    cases fuel with
    | zero => exact ⟨_, rfl⟩
    | succ fuel => exact ⟨.missingKey, rfl⟩

theorem NeedsText.bind {next : List Char → Except Fault (α × List Char)}
    (hneeds : NeedsText next) (more : α × List Char → Except Fault (β × List Char)) :
    NeedsText fun text => next text >>= more where
  nil := by
    obtain ⟨fault, hnil⟩ := hneeds.nil
    exact ⟨fault, by rw [hnil, error_bind]⟩
  carriage := by
    intro rest
    obtain ⟨fault, hcarriage⟩ := hneeds.carriage rest
    exact ⟨fault, by rw [hcarriage, error_bind]⟩

/-! ## Values -/

theorem readsOn_values (hend : AtLineEnd tail) (extra fuel : Nat) :
    (∀ depth text,
      ReadsOn tail (value depth fuel text) (value depth (fuel + extra) (text ++ tail))) ∧
    (∀ depth done text,
      ReadsOn tail (items depth done fuel text)
        (items depth done (fuel + extra) (text ++ tail))) ∧
    (∀ depth done text,
      ReadsOn tail (members depth done fuel text)
        (members depth done (fuel + extra) (text ++ tail))) ∧
    ∀ inline depth text,
      ReadsOn tail (assignment inline depth fuel text)
        (assignment inline depth (fuel + extra) (text ++ tail)) := by
  induction fuel with
  | zero => exact ⟨fun _ _ => .error, fun _ _ _ => .error, fun _ _ _ => .error, fun _ _ _ => .error⟩
  | succ fuel ih =>
      obtain ⟨hvalue, hitems, hmembers, hassignment⟩ := ih
      rw [Nat.add_right_comm]
      refine ⟨?_, ?_, ?_, ?_⟩
      · intro depth text
        match text with
        | [] => exact .of_error (value_needsText depth (fuel + 1)).nil
        | c :: rest =>
            by_cases hbracket : c = '['
            · subst hbracket
              cases depth with
              | zero => exact .error
              | succ depth => exact hitems depth [] rest
            by_cases hbrace : c = '\x7b'
            · subst hbrace
              cases depth with
              | zero => exact .error
              | succ depth => exact hmembers depth [] rest
            · rw [value_scalar hbracket hbrace, List.cons_append, value_scalar hbracket hbrace]
              exact readsOn_scalar hend (c :: rest)
      · intro depth done text
        rw [items, items, Nat.add_right_comm fuel extra 1]
        refine ReadsOn.skipLines hend extra text ?_ fun c rest => ?_
        · have hneeds := (value_needsText depth fuel).bind (β := Value)
          exact ⟨(hneeds _).nil, (hneeds _).carriage⟩
        by_cases hclose : c = ']'
        · subst hclose
          exact .ok
        · split
          · exact absurd (List.cons.inj ‹_›).1 hclose
          split
          · exact absurd (List.cons.inj ‹_›).1 hclose
          refine ReadsOn.bind (hvalue _ _) fun item rest => ?_
          refine ReadsOn.skipLines hend extra rest ⟨⟨_, rfl⟩, fun _ => ⟨_, rfl⟩⟩ fun c rest => ?_
          by_cases hcomma : c = ','
          · subst hcomma
            exact hitems _ _ _
          by_cases hclose : c = ']'
          · subst hclose
            exact .ok
          · split
            · exact absurd (List.cons.inj ‹_›).1 hcomma
            · exact absurd (List.cons.inj ‹_›).1 hclose
            · exact .error
            · exact .error
      · intro depth done text
        rw [members, members, Nat.add_right_comm fuel extra 1]
        refine ReadsOn.skipLines hend extra text ?_ fun c rest => ?_
        · have hneeds := (assignment_needsText true depth fuel).bind (β := Value)
          exact ⟨(hneeds _).nil, (hneeds _).carriage⟩
        by_cases hclose : c = '\x7d'
        · subst hclose
          exact .lift fun content => .ok
        · split
          · exact absurd (List.cons.inj ‹_›).1 hclose
          split
          · exact absurd (List.cons.inj ‹_›).1 hclose
          refine ReadsOn.bind (hassignment _ _ _) fun assignment rest => ?_
          refine ReadsOn.skipLines hend extra rest ⟨⟨_, rfl⟩, fun _ => ⟨_, rfl⟩⟩ fun c rest => ?_
          by_cases hcomma : c = ','
          · subst hcomma
            exact hmembers _ _ _
          by_cases hclose : c = '\x7d'
          · subst hclose
            exact .lift fun content => .ok
          · split
            · exact absurd (List.cons.inj ‹_›).1 hcomma
            · exact absurd (List.cons.inj ‹_›).1 hclose
            · exact .error
            · exact .error
      · intro inline depth text
        rw [assignment, assignment, Nat.add_right_comm fuel extra 1]
        refine ReadsOn.bind (readsOn_keyFrom hend extra [] _ text) fun key rest => ?_
        refine ReadsOn.skipGap hend extra inline rest ⟨⟨_, rfl⟩, fun _ => ⟨_, rfl⟩⟩
          fun c rest => ?_
        by_cases hequals : c = '='
        · subst hequals
          refine ReadsOn.skipGap hend extra inline rest ?_ fun c rest => ?_
          · exact (value_needsText depth fuel).bind _
          · exact ReadsOn.bind (hvalue _ _) fun content rest => .ok
        · split
          · exact absurd (List.cons.inj ‹_›).1 hequals
          · exact .error

end SegmentBench.Document
