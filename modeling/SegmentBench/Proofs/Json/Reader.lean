import SegmentBench.Proofs.Json.Grammar

/-!
# Reading JSON

A reader of JSON texts.  Whatever it reads is spelled by the grammar, numbers are read up to
the first character that cannot go on with them, and items between commas one by one.
-/

namespace SegmentBench.Json

open Document (IsNumeral ne_of_satisfies)

/-! ## Numbers -/

def digits? (text : List Char) : Option (List Char × List Char) :=
  match text.takeWhile Numeral.isDecimal with
  | [] => none
  | c :: digits => some (c :: digits, text.dropWhile Numeral.isDecimal)

def fraction? : List Char → Option (List Char × List Char)
  | '.' :: rest => digits? rest
  | rest => some ([], rest)

def exponentSign : List Char → Bool × List Char
  | '+' :: rest => (false, rest)
  | '-' :: rest => (true, rest)
  | rest => (false, rest)

def exponent? : List Char → Option (Int × List Char)
  | [] => some (0, [])
  | letter :: rest =>
      if letter = 'e' ∨ letter = 'E' then
        (digits? (exponentSign rest).2).map fun (digits, behind) =>
          (signed (exponentSign rest).1 (Numeral.append 10 0 digits), behind)
      else some (0, letter :: rest)

def splitMinus : List Char → Bool × List Char
  | '-' :: rest => (true, rest)
  | rest => (false, rest)

def number? (text : List Char) : Option (Json × List Char) := do
  let (whole, rest) ← digits? (splitMinus text).2
  if whole.head? = some '0' ∧ whole.length ≠ 1 then none
  let (fraction, rest) ← fraction? rest
  let (exponent, rest) ← exponent? rest
  some (.number (splitMinus text).1
    ⟨Numeral.append 10 0 (whole ++ fraction), exponent - fraction.length⟩, rest)

/-! ## Strings -/

def unit? : List Char → Option (Nat × List Char)
  | a :: b :: c :: d :: rest =>
      if [a, b, c, d].all (Numeral.isDigit 16) then
        some (Numeral.append 16 0 [a, b, c, d], rest)
      else none
  | _ => none

def ofCode? (code : Nat) : Option Char :=
  if code.isValidChar then some (Char.ofNat code) else none

def isHigh (unit : Nat) : Bool := 0xD800 ≤ unit && unit < 0xDC00

def isLow (unit : Nat) : Bool := 0xDC00 ≤ unit && unit < 0xE000

def secondUnit? : List Char → Option (Nat × List Char)
  | '\\' :: 'u' :: rest => unit? rest
  | _ => none

def escape? : List Char → Option (Char × List Char)
  | [] => none
  | letter :: rest =>
      if letter = 'u' then do
        let (first, rest) ← unit? rest
        if isHigh first then
          let (second, rest) ← secondUnit? rest
          if isLow second then
            let c ← ofCode? (0x10000 + (first - 0xD800) * 0x400 + (second - 0xDC00))
            some (c, rest)
          else none
        else
          let c ← ofCode? first
          some (c, rest)
      else (shortEscapes.lookup letter).map fun c => (c, rest)

def character? : List Char → Option (Char × List Char)
  | [] => none
  | c :: rest => if c = '\\' then escape? rest else if isPlain c then some (c, rest) else none

def characters? : Nat → List Char → Option (List Char × List Char)
  | 0, _ => none
  | _ + 1, [] => none
  | fuel + 1, c :: rest =>
      if c = '"' then some ([], rest)
      else do
        let (first, rest) ← character? (c :: rest)
        let (others, rest) ← characters? fuel rest
        some (first :: others, rest)

def string? : List Char → Option (String × List Char)
  | '"' :: rest =>
      (characters? rest.length rest).map fun (characters, rest) => (String.ofList characters, rest)
  | _ => none

/-! ## Lists -/

def skip (text : List Char) : List Char := text.dropWhile isSpace

section

variable {α : Type}

def items? (read : List Char → Option (α × List Char)) (close : Char) :
    Nat → List Char → Option (List α × List Char)
  | 0, _ => none
  | fuel + 1, text => do
      let (item, rest) ← read (skip text)
      match skip rest with
      | [] => none
      | c :: rest =>
          if c = close then some ([item], rest)
          else if c = ',' then do
            let (others, rest) ← items? read close fuel rest
            some (item :: others, rest)
          else none

def list? (read : List Char → Option (α × List Char)) (close : Char) (text : List Char) :
    Option (List α × List Char) :=
  if (skip text).head? = some close then some ([], (skip text).tail)
  else items? read close text.length text

def colon? (text : List Char) : Option (List Char) :=
  match skip text with
  | ':' :: rest => some (skip rest)
  | _ => none

def member? (read : List Char → Option (α × List Char)) (text : List Char) :
    Option ((String × α) × List Char) := do
  let (name, rest) ← string? text
  let (value, rest) ← read (← colon? rest)
  some ((name, value), rest)

end

/-! ## Values -/

def value? : Nat → List Char → Option (Json × List Char)
  | 0, _ => none
  | fuel + 1, text =>
      match text with
      | 'n' :: 'u' :: 'l' :: 'l' :: rest => some (.null, rest)
      | 't' :: 'r' :: 'u' :: 'e' :: rest => some (.boolean true, rest)
      | 'f' :: 'a' :: 'l' :: 's' :: 'e' :: rest => some (.boolean false, rest)
      | '"' :: rest => (string? ('"' :: rest)).map fun (content, rest) => (.string content, rest)
      | '[' :: rest =>
          (list? (value? fuel) ']' rest).map fun (elements, rest) => (.array elements, rest)
      | '\x7b' :: rest =>
          (list? (member? (value? fuel)) '\x7d' rest).map fun (members, rest) =>
            (.object members, rest)
      | text => number? text

def read? (text : List Char) : Option Json := do
  let (value, rest) ← value? (text.length + 1) (skip text)
  if skip rest = [] then some value else none

/-! ## What is read is spelled -/

section

variable {text rest digits fraction : List Char} {exponent : Int} {c : Char}

theorem digits?_sound (hread : digits? text = some (digits, rest)) :
    digits ≠ [] ∧ (∀ c ∈ digits, Numeral.isDecimal c = true) ∧ text = digits ++ rest := by
  unfold digits? at hread
  split at hread
  · cases hread
  · rename_i first others htake
    cases hread
    refine ⟨List.cons_ne_nil _ _, ?_, ?_⟩
    · rw [← htake]
      exact fun _ => List.mem_takeWhile_imp
    · rw [← htake, List.takeWhile_append_dropWhile]

theorem fraction?_sound (hread : fraction? text = some (fraction, rest)) :
    ∃ body, SpellsFraction fraction body ∧ text = body ++ rest := by
  unfold fraction? at hread
  split at hread
  · obtain ⟨hnonempty, hdecimal, rfl⟩ := digits?_sound hread
    exact ⟨_, .present hnonempty hdecimal, rfl⟩
  · cases hread
    exact ⟨[], .absent, rfl⟩

theorem exponentSign_sound (text : List Char) :
    ∃ sign, (sign, (exponentSign text).1) ∈ exponentSigns ∧
      text = sign ++ (exponentSign text).2 := by
  unfold exponentSign
  split
  · exact ⟨['+'], by simp [exponentSigns], rfl⟩
  · exact ⟨['-'], by simp [exponentSigns], rfl⟩
  · exact ⟨[], by simp [exponentSigns], rfl⟩

theorem exponent?_sound (hread : exponent? text = some (exponent, rest)) :
    ∃ body, SpellsExponent exponent body ∧ text = body ++ rest := by
  unfold exponent? at hread
  split at hread
  · cases hread
    exact ⟨[], .absent, rfl⟩
  · rename_i letter behind
    split at hread
    · rename_i hletter
      obtain ⟨⟨digits, last⟩, hdigits, heq⟩ := Option.map_eq_some_iff.mp hread
      cases heq
      obtain ⟨hnonempty, hdecimal, hsplit⟩ := digits?_sound hdigits
      obtain ⟨sign, hsign, hbehind⟩ := exponentSign_sound behind
      refine ⟨_, .present hletter hsign hnonempty hdecimal, ?_⟩
      rw [hbehind, hsplit]
      simp
    · cases hread
      exact ⟨[], .absent, rfl⟩

theorem splitMinus_sound (text : List Char) :
    text = minus (splitMinus text).1 ++ (splitMinus text).2 := by
  unfold splitMinus
  split <;> rfl

theorem number?_sound {value : Json} (hread : number? text = some (value, rest)) :
    ∃ body, Spells value body ∧ text = body ++ rest := by
  obtain ⟨⟨whole, behind⟩, hwhole, hread⟩ := Option.bind_eq_some_iff.mp hread
  obtain ⟨hnonempty, hdecimal, hsplit⟩ := digits?_sound hwhole
  dsimp only at hread
  split at hread
  · cases hread
  · rename_i hlead
    obtain ⟨⟨fraction, behind⟩, hfraction, hread⟩ := Option.bind_eq_some_iff.mp hread
    obtain ⟨⟨exponent, behind⟩, hexponent, hread⟩ := Option.bind_eq_some_iff.mp hread
    cases hread
    obtain ⟨fractionText, hfractional, rfl⟩ := fraction?_sound hfraction
    obtain ⟨exponentText, hexponential, rfl⟩ := exponent?_sound hexponent
    have hnumeral : IsNumeral whole := ⟨hnonempty, hdecimal, fun hhead =>
      of_not_not fun hlength => hlead ⟨hhead, hlength⟩⟩
    have hminus := splitMinus_sound text
    rw [hsplit] at hminus
    exact ⟨_, .number (.parts hnumeral hfractional hexponential), by simpa using hminus⟩

theorem unit?_sound {code : Nat} (hread : unit? text = some (code, rest)) :
    ∃ digits, IsUnit digits ∧ code = Numeral.append 16 0 digits ∧ text = digits ++ rest := by
  unfold unit? at hread
  split at hread
  · split at hread
    · rename_i hall
      cases hread
      exact ⟨_, ⟨rfl, fun _ hmem => List.all_eq_true.mp hall _ hmem⟩, rfl, rfl⟩
    · cases hread
  · cases hread

theorem secondUnit?_sound {code : Nat} (hread : secondUnit? text = some (code, rest)) :
    ∃ digits, IsUnit digits ∧ code = Numeral.append 16 0 digits ∧
      text = '\\' :: 'u' :: digits ++ rest := by
  unfold secondUnit? at hread
  split at hread
  · obtain ⟨digits, hunit, hcode, rfl⟩ := unit?_sound hread
    exact ⟨digits, hunit, hcode, rfl⟩
  · cases hread

theorem ofCode?_sound {code : Nat} (hread : ofCode? code = some c) : c.toNat = code := by
  unfold ofCode? at hread
  split at hread
  · rename_i hvalid
    cases hread
    rw [Char.ofNat, dif_pos hvalid]
    rfl
  · cases hread

theorem escape?_sound (hread : escape? text = some (c, rest)) :
    ∃ body, SpellsCharacter c body ∧ '\\' :: text = body ++ rest := by
  unfold escape? at hread
  split at hread
  · cases hread
  rename_i letter behind
  split at hread
  · rename_i hletter
    obtain ⟨⟨first, last⟩, hfirst, hread⟩ := Option.bind_eq_some_iff.mp hread
    obtain ⟨digits, hunit, hcode, hbehind⟩ := unit?_sound hfirst
    dsimp only at hread
    split at hread
    · rename_i hhigh
      obtain ⟨⟨second, last⟩, hsecond, hread⟩ := Option.bind_eq_some_iff.mp hread
      obtain ⟨others, hothers, hlow, hlast⟩ := secondUnit?_sound hsecond
      dsimp only at hread
      split at hread
      · rename_i hrange
        obtain ⟨d, hd, hread⟩ := Option.bind_eq_some_iff.mp hread
        cases hread
        have hvalue := ofCode?_sound hd
        simp only [isHigh, isLow, Bool.and_eq_true, decide_eq_true_eq] at hhigh hrange
        exact ⟨_, .pair hunit hothers (by omega) (by omega) (by omega),
          by simp [hletter, hbehind, hlast]⟩
      · cases hread
    · obtain ⟨d, hd, hread⟩ := Option.bind_eq_some_iff.mp hread
      cases hread
      exact ⟨_, .unit hunit ((ofCode?_sound hd).trans hcode), by simp [hletter, hbehind]⟩
  · obtain ⟨d, hlookup, heq⟩ := Option.map_eq_some_iff.mp hread
    cases heq
    obtain ⟨before, behind, heq, -⟩ := List.lookup_eq_some_iff.mp hlookup
    have hknown : (letter, c) ∈ shortEscapes := heq ▸ List.mem_append_right _ List.mem_cons_self
    exact ⟨_, .short hknown, rfl⟩

theorem character?_sound (hread : character? text = some (c, rest)) :
    ∃ body, SpellsCharacter c body ∧ text = body ++ rest := by
  unfold character? at hread
  split at hread
  · cases hread
  split at hread
  · rename_i hbackslash
    rw [hbackslash]
    exact escape?_sound hread
  split at hread
  · rename_i hplain
    cases hread
    exact ⟨_, .plain hplain, rfl⟩
  · cases hread

theorem characters?_sound {fuel : Nat} {characters : List Char}
    (hread : characters? fuel text = some (characters, rest)) :
    ∃ body, SpellsCharacters characters body ∧ text = body ++ '"' :: rest := by
  induction fuel generalizing text characters with
  | zero => cases hread
  | succ fuel ih =>
      unfold characters? at hread
      split at hread
      · cases hread
      · cases hread
      · rename_i letter behind heq
        cases heq
        split at hread
        · rename_i hquote
          cases hread
          exact ⟨[], .nil, by rw [hquote]; rfl⟩
        · obtain ⟨⟨first, last⟩, hfirst, hread⟩ := Option.bind_eq_some_iff.mp hread
          obtain ⟨⟨others, last⟩, hothers, hread⟩ := Option.bind_eq_some_iff.mp hread
          cases hread
          obtain ⟨body, hbody, hsplit⟩ := character?_sound hfirst
          obtain ⟨text, htext, rfl⟩ := ih hothers
          exact ⟨_, .cons hbody htext, by rw [hsplit, List.append_assoc]⟩

theorem string?_sound {content : String} (hread : string? text = some (content, rest)) :
    ∃ body, SpellsString content body ∧ text = body ++ rest := by
  unfold string? at hread
  split at hread
  · obtain ⟨⟨characters, last⟩, hcharacters, heq⟩ := Option.map_eq_some_iff.mp hread
    cases heq
    obtain ⟨body, hbody, rfl⟩ := characters?_sound hcharacters
    exact ⟨_, .quoted hbody, by simp⟩
  · cases hread

theorem skip_sound (text : List Char) : ∃ space, IsSpace space ∧ text = space ++ skip text :=
  ⟨text.takeWhile isSpace, fun _ => List.mem_takeWhile_imp,
    List.takeWhile_append_dropWhile.symm⟩

end

section

variable {α : Type} {spells : α → List Char → Prop}
  {read : List Char → Option (α × List Char)} {close : Char} {text rest : List Char}
  {items : List α}

/-- What a reader takes from the front of a text is spelled there. -/
def Sound (spells : α → List Char → Prop) (read : List Char → Option (α × List Char)) : Prop :=
  ∀ text item rest, read text = some (item, rest) →
    ∃ body, spells item body ∧ text = body ++ rest

theorem Sound.items? (hsound : Sound spells read) {fuel : Nat}
    (hread : items? read close fuel text = some (items, rest)) :
    ∃ body, Separated spells items body ∧ text = body ++ close :: rest := by
  induction fuel generalizing text items with
  | zero => cases hread
  | succ fuel ih =>
      obtain ⟨⟨item, behind⟩, hitem, hread⟩ := Option.bind_eq_some_iff.mp hread
      obtain ⟨body, hbody, hskip⟩ := hsound _ _ _ hitem
      obtain ⟨before, hbefore, htext⟩ := skip_sound text
      obtain ⟨space, hspace, hbehind⟩ := skip_sound behind
      rw [hskip, hbehind] at htext
      dsimp only at hread
      split at hread
      · cases hread
      · rename_i c last hlast
        rw [hlast] at htext
        split at hread
        · rename_i hclose
          cases hread
          exact ⟨_, .last hbefore hbody hspace, by simpa [hclose] using htext⟩
        split at hread
        · rename_i hcomma
          obtain ⟨⟨others, last⟩, hothers, hread⟩ := Option.bind_eq_some_iff.mp hread
          cases hread
          obtain ⟨text, hmore, rfl⟩ := ih hothers
          exact ⟨_, .more hbefore hbody hspace hmore, by simpa [hcomma] using htext⟩
        · cases hread

theorem Sound.list? (hsound : Sound spells read)
    (hread : list? read close text = some (items, rest)) :
    ∃ body, Listed spells items body ∧ text = body ++ close :: rest := by
  unfold Json.list? at hread
  split at hread
  · rename_i hhead
    cases hread
    obtain ⟨space, hspace, htext⟩ := skip_sound text
    refine ⟨space, .none hspace, ?_⟩
    rwa [← List.cons_head?_tail hhead] at htext
  · obtain ⟨body, hbody, hsplit⟩ := hsound.items? hread
    exact ⟨body, .some hbody, hsplit⟩

theorem Sound.member? (hsound : Sound spells read) :
    Sound (SpellsMember spells) (member? read) := by
  rintro text item rest hread
  obtain ⟨⟨name, behind⟩, hname, hread⟩ := Option.bind_eq_some_iff.mp hread
  obtain ⟨last, hcolon, hread⟩ := Option.bind_eq_some_iff.mp hread
  obtain ⟨⟨value, last⟩, hvalue, hread⟩ := Option.bind_eq_some_iff.mp hread
  cases hread
  obtain ⟨nameText, hnameText, rfl⟩ := string?_sound hname
  obtain ⟨body, hbody, rfl⟩ := hsound _ _ _ hvalue
  dsimp only [colon?] at hcolon
  split at hcolon
  · rename_i last hlast
    obtain ⟨before, hbefore, hbehind⟩ := skip_sound behind
    obtain ⟨space, hspace, hskip⟩ := skip_sound last
    rw [Option.some.inj hcolon] at hskip
    rw [hlast, hskip] at hbehind
    exact ⟨_, .named hnameText hbefore hspace hbody, by simp [hbehind]⟩
  · cases hcolon

end

theorem value?_sound (fuel : Nat) : Sound Spells (value? fuel) := by
  induction fuel with
  | zero =>
      rintro text item rest hread
      cases hread
  | succ fuel ih =>
      rintro text item rest hread
      unfold value? at hread
      split at hread
      · cases hread
        exact ⟨_, .null, rfl⟩
      · cases hread
        exact ⟨_, .true, rfl⟩
      · cases hread
        exact ⟨_, .false, rfl⟩
      · obtain ⟨⟨content, last⟩, hstring, heq⟩ := Option.map_eq_some_iff.mp hread
        cases heq
        obtain ⟨body, hbody, hsplit⟩ := string?_sound hstring
        exact ⟨_, .string hbody, hsplit⟩
      · obtain ⟨⟨elements, last⟩, hlist, heq⟩ := Option.map_eq_some_iff.mp hread
        cases heq
        obtain ⟨body, hbody, rfl⟩ := ih.list? hlist
        exact ⟨_, .array hbody, by simp⟩
      · obtain ⟨⟨members, last⟩, hlist, heq⟩ := Option.map_eq_some_iff.mp hread
        cases heq
        obtain ⟨body, hbody, rfl⟩ := ih.member?.list? hlist
        exact ⟨_, .object hbody, by simp⟩
      · exact number?_sound hread

/-- A text that is read is a JSON text of what it is read as. -/
theorem read?_sound {text : List Char} {value : Json} (hread : read? text = some value) :
    IsText value text := by
  obtain ⟨⟨content, rest⟩, hvalue, hread⟩ := Option.bind_eq_some_iff.mp hread
  dsimp only at hread
  split at hread
  · rename_i hend
    cases hread
    obtain ⟨body, hbody, hsplit⟩ := value?_sound _ _ _ _ hvalue
    obtain ⟨before, hbefore, htext⟩ := skip_sound text
    obtain ⟨behind, hbehind, hrest⟩ := skip_sound rest
    rw [hend, List.append_nil] at hrest
    rw [hsplit, hrest, ← List.append_assoc] at htext
    exact htext ▸ .spaced hbefore hbody hbehind
  · cases hread

end SegmentBench.Json
