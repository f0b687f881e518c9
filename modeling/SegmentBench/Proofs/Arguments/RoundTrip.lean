import Mathlib.Data.List.TakeWhile
import SegmentBench.Arguments.Parse
import SegmentBench.Proofs.Results
import SegmentBench.Proofs.Text.Lines
import SegmentBench.Proofs.Text.Numerals

/-!
# Command lines spelled out

A command line is spelled by giving each of its flags once, in any order and each in any
of its spellings.  Parsing the arguments gives the command line back.
-/

namespace SegmentBench

/-! ## What is given -/

namespace CommandLine

def decimal (number : UInt64) : Bytes := Utf8.encode (Numeral.digits 10 number.toNat)

/-- What goes with a flag that can be given for the command line: its value, or nothing for
a switch. -/
def told? (line : CommandLine) : Flag → Option (Option Bytes)
  | .iterations => line.iterations.map fun count => some (decimal count)
  | .inputSize => line.inputSize.map fun size => some (decimal size)
  | .algorithm => line.algorithm.map fun choice => some (Utf8.encode choice.name.toList)
  | .input => line.input.map fun path => some path.bytes
  | .config => line.config.map fun path => some path.bytes
  | .report => line.report.map fun choice => some (Utf8.encode choice.name.toList)
  | .monitor => if line.monitor then some none else none
  | .verbose => if line.verbose then some none else none
  | .logFormat => some (some (Utf8.encode line.logFormat.name.toList))
  | .help => none

theorem switch_told {given : Bool} {value : Option Bytes}
    (htold : (if given then some none else none) = some value) : given = true ∧ value = none := by
  cases given with
  | true => exact ⟨rfl, (Option.some.inj htold).symm⟩
  | false => cases htold

def Needs (line : CommandLine) : Flag → Prop
  | .iterations => line.iterations ≠ empty.iterations
  | .inputSize => line.inputSize ≠ empty.inputSize
  | .algorithm => line.algorithm ≠ empty.algorithm
  | .input => line.input ≠ empty.input
  | .config => line.config ≠ empty.config
  | .report => line.report ≠ empty.report
  | .monitor => line.monitor ≠ empty.monitor
  | .verbose => line.verbose ≠ empty.verbose
  | .logFormat => line.logFormat ≠ empty.logFormat
  | .help => False

def only (line : CommandLine) (flags : List Flag) : CommandLine where
  iterations := if .iterations ∈ flags then line.iterations else empty.iterations
  inputSize := if .inputSize ∈ flags then line.inputSize else empty.inputSize
  algorithm := if .algorithm ∈ flags then line.algorithm else empty.algorithm
  input := if .input ∈ flags then line.input else empty.input
  config := if .config ∈ flags then line.config else empty.config
  report := if .report ∈ flags then line.report else empty.report
  monitor := if .monitor ∈ flags then line.monitor else empty.monitor
  verbose := if .verbose ∈ flags then line.verbose else empty.verbose
  logFormat := if .logFormat ∈ flags then line.logFormat else empty.logFormat

variable {line : CommandLine} {flag : Flag} {flags : List Flag}

theorem only_eq_self (hneeds : ∀ flag, line.Needs flag → flag ∈ flags) :
    line.only flags = line := by
  have hfield {α : Type} {flag : Flag} {told silent : α} (hmem : told ≠ silent → flag ∈ flags) :
      (if flag ∈ flags then told else silent) = told := by
    split
    · rfl
    · rename_i hout
      exact (not_not.mp (mt hmem hout)).symm
  simp only [only]
  rw [hfield (hneeds .iterations), hfield (hneeds .inputSize), hfield (hneeds .algorithm),
    hfield (hneeds .input), hfield (hneeds .config), hfield (hneeds .report),
    hfield (hneeds .monitor), hfield (hneeds .verbose), hfield (hneeds .logFormat)]

/-! ## Values -/

theorem number_decimal (flag : Flag) (count : UInt64) :
    number flag (decimal count) = .ok count := by
  rw [number, decimal, Utf8.decode?_encode]
  simp only [Numeral.readUInt64_digits]

theorem choice_name {α : Type} (name : α → String) (choices : List α) (flag : Flag) {given : α}
    (hnonempty : (name given).toList ≠ [])
    (hfind : choices.find? (fun choice => name choice = name given) = some given) :
    choice name choices flag (Utf8.encode (name given).toList) = .ok given := by
  have hvalue : Utf8.encode (name given).toList ≠ [] := mt encode_eq_nil_iff.mp hnonempty
  have hvariant : variant name choices false (String.ofList (name given).toList) = .ok given := by
    simp [variant, hfind]
  rw [choice, if_neg hvalue, Utf8.decode?_encode, Option.bind_some, hvariant]
  rfl

theorem algorithm_name (flag : Flag) (given : Algorithm) :
    choice Algorithm.name Algorithm.all flag (Utf8.encode given.name.toList) = .ok given :=
  choice_name _ _ flag (by cases given <;> decide) (by cases given <;> decide)

theorem report_name (flag : Flag) (given : ReportFormat) :
    choice ReportFormat.name ReportFormat.all flag (Utf8.encode given.name.toList) = .ok given :=
  choice_name _ _ flag (by cases given <;> decide) (by cases given <;> decide)

theorem logFormat_name (flag : Flag) (given : LogFormat) :
    choice LogFormat.name LogFormat.all flag (Utf8.encode given.name.toList) = .ok given :=
  choice_name _ _ flag (by cases given <;> decide) (by cases given <;> decide)

theorem path_bytes (flag : Flag) {given : Path} (hnonempty : given.bytes ≠ []) :
    path flag given.bytes = .ok given := by
  rw [path, if_neg hnonempty]

def HasPaths (line : CommandLine) : Prop :=
  (∀ path ∈ line.input, path.bytes ≠ []) ∧ ∀ path ∈ line.config, path.bytes ≠ []

theorem set_told {value : Option Bytes} (hpaths : line.HasPaths)
    (htold : line.told? flag = some value) (flags : List Flag) :
    (line.only flags).set flag (value.getD []) = .ok (line.only (flag :: flags)) := by
  cases flag with
  | iterations =>
      obtain ⟨count, hcount, rfl⟩ := Option.map_eq_some_iff.mp htold
      simp [set, number_decimal, only, hcount, ok_bind]
  | inputSize =>
      obtain ⟨size, hsize, rfl⟩ := Option.map_eq_some_iff.mp htold
      simp [set, number_decimal, only, hsize, ok_bind]
  | algorithm =>
      obtain ⟨given, hgiven, rfl⟩ := Option.map_eq_some_iff.mp htold
      simp [set, algorithm_name, only, hgiven, ok_bind]
  | input =>
      obtain ⟨given, hgiven, rfl⟩ := Option.map_eq_some_iff.mp htold
      simp [set, path_bytes _ (hpaths.1 given hgiven), only, hgiven, ok_bind]
  | config =>
      obtain ⟨given, hgiven, rfl⟩ := Option.map_eq_some_iff.mp htold
      simp [set, path_bytes _ (hpaths.2 given hgiven), only, hgiven, ok_bind]
  | report =>
      obtain ⟨given, hgiven, rfl⟩ := Option.map_eq_some_iff.mp htold
      simp [set, report_name, only, hgiven, ok_bind]
  | monitor =>
      obtain ⟨hgiven, rfl⟩ := switch_told htold
      simp [set, only, hgiven]
  | verbose =>
      obtain ⟨hgiven, rfl⟩ := switch_told htold
      simp [set, only, hgiven]
  | logFormat =>
      cases htold
      simp [set, logFormat_name, only, ok_bind]
  | help => cases htold

end CommandLine

namespace Arguments

/-! ## Spellings -/

def longName (flag : Flag) : Bytes := dash :: dash :: Utf8.encode flag.long.toList

def shortName (letter : Char) : Bytes := dash :: Utf8.encode [letter]

def StandsAlone (flag : Flag) (value : Bytes) : Prop :=
  flag = .input ∨ flag = .config → value.head? ≠ some dash

inductive Spells (flag : Flag) : Option Bytes → List Bytes → Prop
  | joined (value : Bytes) : Spells flag (some value) [longName flag ++ equalsSign :: value]
  | separated (value : Bytes) (hvalue : StandsAlone flag value) :
      Spells flag (some value) [longName flag, value]
  | short (letter : Char) (hletter : flag.short? = some letter) (value : Bytes)
      (hvalue : StandsAlone flag value) : Spells flag (some value) [shortName letter, value]
  | switch : Spells flag none [longName flag]
  | shortSwitch (letter : Char) (hletter : flag.short? = some letter) :
      Spells flag none [shortName letter]

/-- The arguments lead from one state to another, whatever comes behind them. -/
def Passes (state : State) (given : List Bytes) (next : State) : Prop :=
  ∀ rest, arguments state (given ++ rest) = arguments next rest

variable {state next settled : State} {flag : Flag}

theorem passes_argument {given : Bytes} (hdashes : given ≠ [dash, dash])
    (hread : argument state given = .ok next) : Passes state [given] next := by
  intro rest
  rw [List.singleton_append, arguments.eq_def]
  simp only [if_neg hdashes, hread, ok_bind]

theorem Passes.trans {first second : List Bytes} {middle : State}
    (hfirst : Passes state first middle) (hsecond : Passes middle second next) :
    Passes state (first ++ second) next := by
  intro rest
  rw [List.append_assoc, hfirst, hsecond]

/-! ### Names -/

theorem ofLong?_long (flag : Flag) : Flag.ofLong? flag.long.toList = some flag := by
  cases flag <;> decide

theorem name_exact (flag : Flag) :
    ∀ b ∈ Utf8.encode flag.long.toList, decide (b ≠ equalsSign) = true := by
  cases flag <;> decide

theorem argument_long (state : State) (flag : Flag) (rest : Bytes) :
    argument state (longName flag ++ rest) = long state (Utf8.encode flag.long.toList ++ rest) := by
  rw [argument, if_pos (by simp [longName, isLong]), longName]
  rfl

theorem found_long (flag : Flag) :
    (Utf8.decode? (Utf8.encode flag.long.toList)).bind Flag.ofLong? = some flag := by
  rw [Utf8.decode?_encode, Option.bind_some, ofLong?_long]

theorem long_joined (state : State) (htakes : flag.takesValue = true) (value : Bytes) :
    argument state (longName flag ++ equalsSign :: value) = state.attach flag value := by
  have hname : (Utf8.encode flag.long.toList ++ equalsSign :: value).takeWhile (· ≠ equalsSign) =
      Utf8.encode flag.long.toList := by
    rw [List.takeWhile_append_of_pos (name_exact flag)]
    simp
  have hvalue : (Utf8.encode flag.long.toList ++ equalsSign :: value).dropWhile (· ≠ equalsSign) =
      equalsSign :: value := by
    rw [List.dropWhile_append_of_pos (name_exact flag)]
    simp
  simp only [argument_long, long, hname, found_long, hvalue, htakes, if_true]

theorem long_alone (state : State) (flag : Flag) :
    argument state (longName flag) =
      if flag.takesValue then state.await flag else state.switch flag true := by
  have hargument := argument_long state flag []
  rw [List.append_nil, List.append_nil] at hargument
  rw [hargument]
  simp only [long, List.takeWhile_eq_self_iff.mpr (name_exact flag), found_long,
    List.dropWhile_eq_nil_iff.mpr (name_exact flag)]

theorem encode_letter {letter : Char} (hletter : flag.short? = some letter) :
    ∃ b, Utf8.encode [letter] = [b] ∧ b ≠ dash ∧
      (if b < 0x80 then Flag.ofShort? (Char.ofNat b.toNat) else none) = some flag := by
  cases flag <;> cases hletter <;> exact ⟨_, rfl, by decide, by decide⟩

theorem short_alone {letter : Char} (hletter : flag.short? = some letter) (state : State) :
    argument state (shortName letter) =
      if flag.takesValue then state.await flag else state.switch flag false := by
  obtain ⟨b, hbyte, hdash, hflag⟩ := encode_letter hletter
  have hcluster : argument state (shortName letter) = cluster state [b] := by
    simp [argument, shortName, hbyte, isLong, isCluster, hdash]
  rw [hcluster, cluster, hflag]
  cases htakes : flag.takesValue with
  | true => simp [htakes]
  | false =>
      cases hswitch : state.switch flag false with
      | error stop => simp [htakes, hswitch, error_bind]
      | ok next => simp [htakes, hswitch, ok_bind, cluster]

theorem argument_value {value : Bytes} (hvalue : value.head? ≠ some dash) (state : State) :
    argument state value = plain state value := by
  match value with
  | [] => rfl
  | [_] => rfl
  | a :: b :: rest =>
      have hdash : a ≠ dash := fun heq => hvalue (congrArg some heq)
      simp [argument, isLong, isCluster, hdash]

/-! ### A flag with its value -/

theorem longName_ne (flag : Flag) (rest : Bytes) : longName flag ++ rest ≠ [dash, dash] := by
  have hname : Utf8.encode flag.long.toList ≠ [] := by
    cases flag <;> decide
  intro heq
  have hnil : Utf8.encode flag.long.toList ++ rest = [] := by
    simpa [longName] using heq
  exact hname (List.append_eq_nil_iff.mp hnil).1

theorem shortName_ne {letter : Char} (hletter : flag.short? = some letter) :
    shortName letter ≠ [dash, dash] := by
  obtain ⟨b, hbyte, hdash, -⟩ := encode_letter hletter
  simp [shortName, hbyte, hdash]

theorem value_ne {value : Bytes} (hvalue : value.head? ≠ some dash) : value ≠ [dash, dash] := by
  rintro rfl
  exact hvalue rfl

theorem passes_separated {name value : Bytes} (hname : name ≠ [dash, dash])
    (hwaits : argument state name = state.await flag) (hvalue : value.head? ≠ some dash)
    (hsettled : state.settle = .ok settled) :
    Passes state [name, value] { settled with pending := some ⟨flag, some value⟩ } := by
  have hflag : argument state name = .ok { settled with pending := some ⟨flag, none⟩ } := by
    rw [hwaits, State.await, hsettled, ok_bind]
  exact (passes_argument hname hflag).trans
    (passes_argument (value_ne hvalue) (argument_value hvalue _))

/-! ## One flag -/

variable {line : CommandLine} {value : Option Bytes}

theorem takesValue_of_told (htold : line.told? flag = some value) :
    flag.takesValue = value.isSome ∧ flag ≠ .help := by
  cases flag with
  | iterations | inputSize | algorithm | input | config | report =>
      obtain ⟨_, -, rfl⟩ := Option.map_eq_some_iff.mp htold
      exact ⟨rfl, Flag.noConfusion⟩
  | monitor | verbose =>
      obtain ⟨-, rfl⟩ := CommandLine.switch_told htold
      exact ⟨rfl, Flag.noConfusion⟩
  | logFormat =>
      cases htold
      exact ⟨rfl, Flag.noConfusion⟩
  | help => cases htold

theorem decimal_head (number : UInt64) : (CommandLine.decimal number).head? ≠ some dash := by
  intro hhead
  have hmem := Utf8.mem_of_mem_encode (c := '-') (by decide) (by decide) (List.mem_of_head? hhead)
  exact Numeral.notMem_digits (by decide) _ hmem

theorem told_head {value : Bytes} (htold : line.told? flag = some (some value))
    (halone : StandsAlone flag value) : value.head? ≠ some dash := by
  cases flag with
  | iterations | inputSize =>
      obtain ⟨count, -, heq⟩ := Option.map_eq_some_iff.mp htold
      cases heq
      exact decimal_head count
  | algorithm | report =>
      obtain ⟨given, -, heq⟩ := Option.map_eq_some_iff.mp htold
      cases heq
      cases given <;> decide
  | input | config => exact halone (by decide)
  | logFormat =>
      cases htold
      cases line.logFormat <;> decide
  | monitor | verbose => cases (CommandLine.switch_told htold).2
  | help => cases htold

def given (line : CommandLine) (flags : List Flag) : State := ⟨flags, line.only flags, none⟩

theorem enter_given {flags : List Flag} (hpaths : line.HasPaths)
    (htold : line.told? flag = some value) (hnew : flag ∉ flags) :
    (given line flags).enter flag (value.getD []) = .ok (given line (flag :: flags)) := by
  simp [State.enter, given, hnew, CommandLine.set_told hpaths htold]

theorem passes_spelled {flags : List Flag} {pieces : List Bytes} (hpaths : line.HasPaths)
    (htold : line.told? flag = some value) (hspells : Spells flag value pieces)
    (hnew : flag ∉ flags) (hsettled : state.settle = .ok (given line flags)) :
    ∃ next, Passes state pieces next ∧ next.settle = .ok (given line (flag :: flags)) := by
  -- a switch or a joined value is entered at once, a separate value only by the next flag or
  -- at the end, which is why the states are compared after they are settled
  obtain ⟨htakes, hhelp⟩ := takesValue_of_told htold
  have henter := enter_given hpaths htold hnew
  have hswitch (detailed : Bool) (hnone : value = none) :
      state.switch flag detailed = .ok (given line (flag :: flags)) := by
    subst hnone
    rw [State.switch, hsettled, ok_bind, if_neg hhelp]
    exact henter
  cases hspells with
  | joined value =>
      have hread : argument state (longName flag ++ equalsSign :: value) =
          .ok (given line (flag :: flags)) := by
        rw [long_joined state htakes, State.attach, hsettled, ok_bind]
        exact henter
      exact ⟨_, passes_argument (longName_ne flag _) hread, rfl⟩
  | separated value hvalue =>
      have hname := longName_ne flag []
      rw [List.append_nil] at hname
      have hwaits : argument state (longName flag) = state.await flag := by
        rw [long_alone, htakes]
        rfl
      exact ⟨_, passes_separated hname hwaits (told_head htold hvalue) hsettled, henter⟩
  | short letter hletter value hvalue =>
      have hwaits : argument state (shortName letter) = state.await flag := by
        rw [short_alone hletter, htakes]
        rfl
      exact ⟨_, passes_separated (shortName_ne hletter) hwaits (told_head htold hvalue) hsettled,
        henter⟩
  | switch =>
      have hname := longName_ne flag []
      rw [List.append_nil] at hname
      have hread : argument state (longName flag) = .ok (given line (flag :: flags)) := by
        rw [long_alone, htakes]
        exact hswitch true rfl
      exact ⟨_, passes_argument hname hread, rfl⟩
  | shortSwitch letter hletter =>
      have hread : argument state (shortName letter) = .ok (given line (flag :: flags)) := by
        rw [short_alone hletter, htakes]
        exact hswitch false rfl
      exact ⟨_, passes_argument (shortName_ne hletter) hread, rfl⟩

/-! ## All flags -/

/-- The arguments that give a flag of the command line in one of its spellings. -/
def Gives (line : CommandLine) (flag : Flag) (pieces : List Bytes) : Prop :=
  ∃ value, line.told? flag = some value ∧ Spells flag value pieces

theorem arguments_spelled {flags before : List Flag} {pieces : List (List Bytes)}
    (hpaths : line.HasPaths) (hgives : List.Forall₂ (Gives line) flags pieces)
    (hnodup : flags.Nodup) (hnew : ∀ flag ∈ flags, flag ∉ before)
    (hsettled : state.settle = .ok (given line before)) :
    arguments state pieces.flatten = .ok (given line (flags.reverse ++ before)) := by
  induction hgives generalizing before state with
  | nil => exact hsettled
  | @cons flag first flags pieces hfirst _ ih =>
      obtain ⟨hout, hnodup⟩ := List.nodup_cons.mp hnodup
      obtain ⟨value, htold, hspells⟩ := hfirst
      obtain ⟨next, hpasses, hnext⟩ := passes_spelled hpaths htold hspells
        (hnew flag List.mem_cons_self) hsettled
      have hrest : ∀ other ∈ flags, other ∉ flag :: before := by
        intro other hmem hbefore
        obtain rfl | hbefore := List.mem_cons.mp hbefore
        · exact hout hmem
        · exact hnew other (List.mem_cons_of_mem _ hmem) hbefore
      rw [List.flatten_cons, hpasses, ih hnodup hrest hnext, List.reverse_cons,
        List.append_assoc, List.singleton_append]

/-- Parsing gives a command line back from any spelling of its flags in any order. -/
theorem parse_spelled {flags : List Flag} {pieces : List (List Bytes)} (hpaths : line.HasPaths)
    (hnodup : flags.Nodup) (hneeds : ∀ flag, line.Needs flag → flag ∈ flags)
    (hgives : List.Forall₂ (Gives line) flags pieces) :
    parse pieces.flatten = .ok line := by
  have hread : arguments State.start pieces.flatten = .ok (given line (flags.reverse ++ [])) :=
    arguments_spelled hpaths hgives hnodup (fun _ _ => List.not_mem_nil) rfl
  rw [parse, hread, ok_bind, List.append_nil, given]
  exact congrArg Except.ok (CommandLine.only_eq_self fun flag hneed =>
    List.mem_reverse.mpr (hneeds flag hneed))

theorem parse_spelled_mixed :
    let line : CommandLine :=
      { CommandLine.empty with
        iterations := some 7, algorithm := some .classic, input := some ⟨[dash, 0xFF]⟩,
        config := some ⟨[equalsSign]⟩, verbose := true }
    let flags : List Flag := [.verbose, .input, .iterations, .config, .algorithm]
    let pieces : List (List Bytes) :=
      [[shortName 'v'], [longName .input ++ equalsSign :: [dash, 0xFF]],
        [shortName 'n', Utf8.encode ['7']], [shortName 'c', [equalsSign]],
        [longName .algorithm, Utf8.encode Algorithm.classic.name.toList]]
    line.HasPaths ∧ flags.Nodup ∧ (∀ flag, line.Needs flag → flag ∈ flags) ∧
      List.Forall₂ (Gives line) flags pieces ∧ parse pieces.flatten = .ok line := by
  intro line flags pieces
  have hpaths : line.HasPaths := ⟨by rintro _ ⟨⟩; decide, by rintro _ ⟨⟩; decide⟩
  have hneeds : ∀ flag, line.Needs flag → flag ∈ flags := by
    intro flag hneed
    cases flag with
    | verbose | input | iterations | config | algorithm => decide
    | inputSize | report | monitor | logFormat => exact absurd rfl hneed
    | help => exact hneed.elim
  have hseven : line.told? .iterations = some (some (Utf8.encode ['7'])) := by
    simp [CommandLine.told?, CommandLine.decimal, line, Numeral.digits_small, Numeral.digit]
  have hgives : List.Forall₂ (Gives line) flags pieces :=
    .cons ⟨_, rfl, .shortSwitch 'v' rfl⟩ <|
    .cons ⟨_, rfl, .joined _⟩ <|
    .cons ⟨_, hseven, .short 'n' rfl _ fun _ => by decide⟩ <|
    .cons ⟨_, rfl, .short 'c' rfl _ fun _ => by decide⟩ <|
    .cons ⟨_, rfl, .separated _ fun _ => by decide⟩ .nil
  have hnodup : flags.Nodup := by decide
  exact ⟨hpaths, hnodup, hneeds, hgives, parse_spelled hpaths hnodup hneeds hgives⟩

end Arguments

end SegmentBench
