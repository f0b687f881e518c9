import SegmentBench.Proofs.Input.WholeText

/-!
# Successive reads

Reads of a steady stream take its lines from the front.  How many a read takes is told by
its outcome, and the next read meets those that it leaves, as if the stream had started
there.
-/

namespace SegmentBench

open Numeral (readInt32)
open SegmentBench.Stream (newline)

def allWords (texts : List (List Char)) : List (List Char) := texts.flatMap words

@[simp] theorem allWords_nil : allWords [] = [] := rfl

@[simp] theorem allWords_concat (texts : List (List Char)) (text : List Char) :
    allWords (texts ++ [text]) = allWords texts ++ words text := by
  simp [allWords]

theorem length_allWords_take_le (texts : List (List Char)) (fewer : Nat) :
    (allWords (texts.take fewer)).length ≤ (allWords texts).length := by
  calc (allWords (texts.take fewer)).length
      ≤ (allWords (texts.take fewer) ++ allWords (texts.drop fewer)).length := by simp
    _ = (allWords texts).length := by
        rw [allWords, allWords, ← List.flatMap_append, List.take_append_drop, allWords]

/-- How a read can end, with the lines that it takes and those that it leaves. -/
inductive Takes (request : Request) :
    Except Failure (List Int32) → List Bytes → List Bytes → Prop where
  | unreserved {fault : AllocationFault} {left : List Bytes}
      (full : reserve request.memory request.count = .error fault) :
      Takes request (.error (.allocation request.count fault)) [] left
  | nothing {left : List Bytes} (zero : request.count = 0) : Takes request (.ok []) [] left
  | integers {texts : List (List Char)} {values : List Int32} {left : List Bytes}
      (room : reserve request.memory request.count = .ok ()) (asked : request.count ≠ 0)
      (needed : ∀ fewer < texts.length,
        (allWords (texts.take fewer)).length < request.count.toNat)
      (enough : request.count.toNat ≤ (allWords texts).length)
      (length : values.length = request.count.toNat)
      (good : ((allWords texts).take request.count.toNat).map readInt32 = values.map .ok) :
      Takes request (.ok values) (texts.map Utf8.encode) left
  | badInteger {texts : List (List Char)} {text token : List Char} {index : Nat}
      {fault : Numeral.Fault} {left : List Bytes}
      (room : reserve request.memory request.count = .ok ())
      (asked : (allWords texts).length + index < request.count.toNat)
      (here : (words text)[index]? = some token) (bad : readInt32 token = .error fault)
      (first : AllIntegers (allWords texts ++ (words text).take index)) :
      Takes request
        (.error (.badInteger ((allWords texts).length + index) (String.ofList token) fault))
        (texts.map Utf8.encode ++ [Utf8.encode text]) left
  | badEncoding {texts : List (List Char)} {line : Bytes} {fault : Utf8.Fault}
      {left : List Bytes} (room : reserve request.memory request.count = .ok ())
      (asked : (allWords texts).length < request.count.toNat)
      (good : AllIntegers (allWords texts)) (broken : Utf8.decode line = .error fault) :
      Takes request (.error (.badEncoding (allWords texts).length fault))
        (texts.map Utf8.encode ++ [line]) left
  | shortInput {texts : List (List Char)}
      (room : reserve request.memory request.count = .ok ())
      (short : (allWords texts).length < request.count.toNat)
      (good : AllIntegers (allWords texts)) :
      Takes request (.error (.shortInput request.count.toNat (allWords texts).length))
        (texts.map Utf8.encode) []

/-! ## One read -/

namespace Progress

variable {request : Request} {progress next : Progress} {texts : List (List Char)}
  {text : List Char} {line : Bytes}

/-! A line is refused, or it is a text whose words join those of the texts before it. -/

theorem Holds.takes_refused {failure : Failure}
    (hroom : reserve request.memory request.count = .ok ())
    (hholds : Holds (allWords texts) progress)
    (hmore : (allWords texts).length < request.count.toNat) (hline : line ≠ [])
    (htaken : progress.takeLine request.count.toNat line = .error failure)
    (left : List Bytes) :
    Takes request (.error failure) (texts.map Utf8.encode ++ [line]) left := by
  rw [takeLine, if_neg hline] at htaken
  cases hdecode : Utf8.decode line with
  | error fault =>
      simp only [hdecode, hholds.count, Except.error.injEq] at htaken
      subst htaken
      exact .badEncoding hroom hmore hholds.allIntegers hdecode
  | ok text =>
      simp only [hdecode] at htaken
      obtain ⟨index, token, fault, hindex, hhere, hbad, hfirst, rfl⟩ :=
        hholds.takeWords_bad (Nat.le_of_lt hmore) htaken
      have hall := List.forall_mem_append.mpr ⟨hholds.allIntegers, hfirst⟩
      rw [Utf8.decode_eq_ok_iff.mp hdecode]
      exact .badInteger hroom hindex hhere hbad hall

theorem Holds.takeLine_ok (hholds : Holds (allWords texts) progress)
    (hmore : (allWords texts).length < request.count.toNat)
    (htaken : progress.takeLine request.count.toNat line = .ok next) :
    ∃ text, line = Utf8.encode text ∧
      Holds ((allWords (texts ++ [text])).take request.count.toNat) next := by
  rw [takeLine, if_neg (takeLine_nonempty htaken)] at htaken
  cases hdecode : Utf8.decode line with
  | error fault =>
      rw [hdecode] at htaken
      cases htaken
  | ok text =>
      simp only [hdecode] at htaken
      refine ⟨text, Utf8.decode_eq_ok_iff.mp hdecode, ?_⟩
      rw [allWords_concat]
      exact takeWords_ok hholds (Nat.le_of_lt hmore) htaken

theorem Holds.takes_enough (hroom : reserve request.memory request.count = .ok ())
    (hmore : (allWords texts).length < request.count.toNat)
    (hnext : Holds ((allWords (texts ++ [text])).take request.count.toNat) next)
    (hfull : ¬next.count < request.count.toNat) (left : List Bytes) :
    Takes request (.ok next.values.reverse) (texts.map Utf8.encode ++ [Utf8.encode text])
      left := by
  have hcount := hnext.count
  have hlength := congrArg List.length hnext.values
  simp only [List.length_take, List.length_map, List.length_reverse] at hcount hlength
  have hneeded : ∀ fewer < (texts ++ [text]).length,
      (allWords ((texts ++ [text]).take fewer)).length < request.count.toNat := by
    intro fewer hfewer
    rw [List.length_append, List.length_singleton] at hfewer
    rw [List.take_append_of_le_length (Nat.le_of_lt_succ hfewer)]
    exact Nat.lt_of_le_of_lt (length_allWords_take_le texts fewer) hmore
  have hasked : request.count ≠ 0 := by
    intro hzero
    simp [hzero] at hmore
  have henough : request.count.toNat ≤ (allWords (texts ++ [text])).length := by omega
  have hvalues : next.values.reverse.length = request.count.toNat := by
    rw [List.length_reverse]
    omega
  have htexts : texts.map Utf8.encode ++ [Utf8.encode text] =
      (texts ++ [text]).map Utf8.encode := by simp
  rw [htexts]
  exact .integers hroom hasked hneeded henough hvalues hnext.values

theorem Holds.takes (hroom : reserve request.memory request.count = .ok ())
    {lines : List Bytes} (hnonempty : ∀ line ∈ lines, line ≠ [])
    (hholds : Holds (allWords texts) progress)
    (hmore : (allWords texts).length < request.count.toNat) :
    ∃ taken, lines = taken ++ (progress.readLines request.count.toNat lines).2 ∧
      Takes request
        (match (progress.readLines request.count.toNat lines).1 with
          | .error failure => .error failure
          | .ok last => .ok last.values.reverse)
        (texts.map Utf8.encode ++ taken)
        (progress.readLines request.count.toNat lines).2 := by
  have hasked : progress.count < request.count.toNat := hholds.count ▸ hmore
  -- on the lines that are left; `texts` are those taken so far, whose words are too few
  induction lines generalizing texts progress with
  | nil =>
      rw [readLines, if_pos hasked, hholds.count]
      exact ⟨[], rfl, by simpa using .shortInput hroom hmore hholds.allIntegers⟩
  | cons line rest ih =>
      obtain ⟨hline, hrest⟩ := List.forall_mem_cons.mp hnonempty
      rw [readLines, if_pos hasked]
      cases htaken : progress.takeLine request.count.toNat line with
      | error failure =>
          exact ⟨[line], rfl, hholds.takes_refused hroom hmore hline htaken rest⟩
      | ok next =>
          obtain ⟨text, rfl, hnext⟩ := hholds.takeLine_ok hmore htaken
          by_cases henough : next.count < request.count.toNat
          · have hall : (allWords (texts ++ [text])).length < request.count.toNat := by
              have hcount := hnext.count
              rw [List.length_take] at hcount
              omega
            rw [List.take_of_length_le (Nat.le_of_lt hall)] at hnext
            obtain ⟨taken, hsplit, htakes⟩ := ih hrest hnext hall henough
            exact ⟨Utf8.encode text :: taken, by rw [List.cons_append, ← hsplit],
              by simpa using htakes⟩
          · simp only
            rw [readLines_enough henough]
            exact ⟨[Utf8.encode text], rfl, Holds.takes_enough hroom hmore hnext henough rest⟩

end Progress

namespace Stream.Steady

variable {stream : Stream}

theorem readIntegers_congr {other : Stream} (hsteady : stream.Steady) (hother : other.Steady)
    (hrest : stream.rest = other.rest) (memory : Memory) (count : UInt64) :
    (stream.readIntegers memory count).1 = (other.readIntegers memory count).1 := by
  cases hroom : reserve memory count with
  | error fault => simp only [Stream.readIntegers, hroom]
  | ok => rw [readIntegers_eq hroom hsteady, readIntegers_eq hroom hother, hrest]

theorem readIntegers_takes (hsteady : stream.Steady) (request : Request) :
    ∃ outcome later taken,
      stream.readIntegers request.memory request.count = (outcome, later) ∧ later.Steady ∧
      linesOf newline stream.rest = taken ++ linesOf newline later.rest ∧
      Takes request outcome taken (linesOf newline later.rest) := by
  cases hroom : reserve request.memory request.count with
  | error fault =>
      exact ⟨_, stream, [], by simp only [Stream.readIntegers, hroom], hsteady, rfl,
        .unreserved hroom⟩
  | ok =>
      obtain ⟨later, hread, hleft, hlater⟩ := hsteady.readIntegers hroom
      by_cases hzero : request.count = 0
      · have henough : ¬Progress.start.count < request.count.toNat := by simp [hzero]
        rw [Progress.readLines_enough henough] at hread hleft
        exact ⟨_, later, [], hread, hlater, hleft.symm, .nothing hzero⟩
      · have hmore : (allWords []).length < request.count.toNat :=
          Nat.pos_of_ne_zero fun h => hzero (UInt64.toNat_inj.mp h)
        have hstart : Progress.Holds (allWords []) Progress.start := Progress.holds_start
        obtain ⟨taken, hsplit, htakes⟩ :=
          hstart.takes hroom (fun _ => ne_nil_of_mem_linesOf) hmore
        rw [← hleft] at hsplit htakes
        exact ⟨_, later, taken, hread, hlater, hsplit, htakes⟩

end Stream.Steady

/-! ## Reads in turn -/

/-- Each read meets the lines that those before it left, and ends as if a new stream of
these lines were read. -/
inductive InTurn : List Bytes → List Request → List (Except Failure (List Int32)) →
    List Bytes → Prop where
  | done {lines : List Bytes} : InTurn lines [] [] lines
  | read {request : Request} {requests : List Request}
      {outcome : Except Failure (List Int32)} {outcomes : List (Except Failure (List Int32))}
      {taken left last : List Bytes}
      (fresh : outcome = ((Stream.ofBytes (taken ++ left).flatten).readIntegers
        request.memory request.count).1)
      (takes : Takes request outcome taken left)
      (later : InTurn left requests outcomes last) :
      InTurn (taken ++ left) (request :: requests) (outcome :: outcomes) last

theorem Takes.left_eq_nil {request : Request} {expected found : Nat} {taken left : List Bytes}
    (htakes : Takes request (.error (.shortInput expected found)) taken left) : left = [] := by
  cases htakes
  rfl

theorem Takes.outcome_of_nil {request : Request} {outcome : Except Failure (List Int32)}
    {taken left : List Bytes} (htakes : Takes request outcome taken left)
    (hnil : taken ++ left = []) (hasked : request.count ≠ 0)
    (hroom : reserve request.memory request.count = .ok ()) :
    outcome = .error (.shortInput request.count.toNat 0) := by
  have htaken : taken = [] := (List.append_eq_nil_iff.mp hnil).1
  cases htakes with
  | unreserved full => cases hroom.symm.trans full
  | nothing zero => exact absurd zero hasked
  | integers room asked needed enough length good =>
      rw [List.map_eq_nil_iff.mp htaken] at enough
      exact absurd (UInt64.toNat_inj.mp (Nat.le_zero.mp enough)) hasked
  | badInteger room asked here bad first => simp at htaken
  | badEncoding room asked good broken => simp at htaken
  | shortInput room short good =>
      rw [List.map_eq_nil_iff.mp htaken]
      rfl

namespace InTurn

variable {lines last : List Bytes} {requests : List Request}
  {outcomes : List (Except Failure (List Int32))}

theorem outcome_at_end (hturns : InTurn lines requests outcomes last) (hend : lines = [])
    {index : Nat} {request : Request} (hrequest : requests[index]? = some request)
    (hasked : request.count ≠ 0) (hroom : reserve request.memory request.count = .ok ()) :
    outcomes[index]? = some (.error (.shortInput request.count.toNat 0)) := by
  induction hturns generalizing index with
  | done => simp at hrequest
  | read fresh takes later ih =>
      cases index with
      | zero =>
          cases hrequest
          rw [List.getElem?_cons_zero, takes.outcome_of_nil hend hasked hroom]
      | succ index =>
          exact ih (List.append_eq_nil_iff.mp hend).2 hrequest

theorem outcome_behind_end (hturns : InTurn lines requests outcomes last)
    {earlier later expected found : Nat} (horder : earlier < later)
    (hshort : outcomes[earlier]? = some (.error (.shortInput expected found)))
    {request : Request} (hrequest : requests[later]? = some request)
    (hasked : request.count ≠ 0) (hroom : reserve request.memory request.count = .ok ()) :
    outcomes[later]? = some (.error (.shortInput request.count.toNat 0)) := by
  induction hturns generalizing earlier later with
  | done => simp at hrequest
  | read fresh takes rest ih =>
      cases later with
      | zero => cases horder
      | succ later =>
          cases earlier with
          | zero =>
              -- the short read leaves no lines to those behind it
              cases hshort
              exact rest.outcome_at_end takes.left_eq_nil hrequest hasked hroom
          | succ earlier => exact ih (Nat.lt_of_succ_lt_succ horder) hshort hrequest

end InTurn

namespace Stream.Steady

theorem readEach_inTurn {stream : Stream} (hsteady : stream.Steady)
    (requests : List Request) :
    InTurn (linesOf newline stream.rest) requests (stream.readEach requests).1
      (linesOf newline (stream.readEach requests).2.rest) := by
  induction requests generalizing stream with
  | nil => exact .done
  | cons request requests ih =>
      obtain ⟨outcome, later, taken, hread, hlater, hsplit, htakes⟩ :=
        hsteady.readIntegers_takes request
      have hfresh := hsteady.readIntegers_congr (steady_ofBytes stream.rest) rfl
        request.memory request.count
      rw [← flatten_linesOf newline stream.rest, hsplit, hread] at hfresh
      rw [hsplit]
      simp only [readEach, hread]
      exact .read hfresh htakes (ih hlater)

/-- Reads of a steady stream take its lines one after the other, none twice and none left
out, each with the outcome of a new stream over the lines that are left, and find nothing
any more once one of them fell short. -/
theorem readEach_takes_lines {stream : Stream} (hsteady : stream.Steady)
    (requests : List Request) :
    InTurn (linesOf newline stream.rest) requests (stream.readEach requests).1
        (linesOf newline (stream.readEach requests).2.rest) ∧
      ∀ (earlier later expected found : Nat) (request : Request), earlier < later →
        (stream.readEach requests).1[earlier]? = some (.error (.shortInput expected found)) →
        requests[later]? = some request → request.count ≠ 0 →
        reserve request.memory request.count = .ok () →
        (stream.readEach requests).1[later]? =
          some (.error (.shortInput request.count.toNat 0)) := by
  have hturns := hsteady.readEach_inTurn requests
  refine ⟨hturns, ?_⟩
  intro earlier later expected found request horder hshort hrequest hasked hroom
  exact hturns.outcome_behind_end horder hshort hrequest hasked hroom

theorem readEach_takes_lines_mixed :
    let bytes : Bytes :=
      [0x31, 0x20, 0x32, 0x0A, 0x33, 0x0A, 0x78, 0x0A, 0xFF, 0x0A, 0x35]
    let requests : List Request :=
      [⟨Memory.usual, 3⟩, ⟨fun _ => false, 1⟩, ⟨Memory.usual, 0⟩, ⟨Memory.usual, 1⟩,
        ⟨Memory.usual, 1⟩, ⟨Memory.usual, 2⟩, ⟨Memory.usual, 1⟩]
    (ofBytes bytes).Steady ∧
      ((ofBytes bytes).readEach requests).1.map Except.toOption =
        [some [1, 2, 3], none, some [], none, none, none, none] ∧
      InTurn [[0x31, 0x20, 0x32, 0x0A], [0x33, 0x0A], [0x78, 0x0A], [0xFF, 0x0A], [0x35]]
        requests ((ofBytes bytes).readEach requests).1
        (linesOf newline ((ofBytes bytes).readEach requests).2.rest) ∧
      ((ofBytes bytes).readEach requests).1[5]? = some (.error (.shortInput 2 1)) ∧
      ((ofBytes bytes).readEach requests).1[6]? = some (.error (.shortInput 1 0)) := by
  intro bytes requests
  have hlines : linesOf newline bytes =
      [[0x31, 0x20, 0x32, 0x0A], [0x33, 0x0A], [0x78, 0x0A], [0xFF, 0x0A], [0x35]] := by
    decide +kernel
  obtain ⟨hturns, hbehind⟩ := readEach_takes_lines (steady_ofBytes bytes) requests
  have hshort : ((ofBytes bytes).readEach requests).1[5]? =
      some (.error (.shortInput 2 1)) := by
    have hfailure : (((ofBytes bytes).readEach requests).1[5]?.map fun outcome =>
        match outcome with
        | .error failure => some failure
        | .ok _ => none) = some (some (.shortInput 2 1)) := by
      decide +kernel
    obtain ⟨failure | values, houtcome, heq⟩ := Option.map_eq_some_iff.mp hfailure
    · cases heq
      exact houtcome
    · cases heq
  have hlast := hbehind 5 6 2 1 ⟨Memory.usual, 1⟩ (by decide) hshort rfl (by decide) rfl
  exact ⟨steady_ofBytes bytes, by decide +kernel, hlines ▸ hturns, hshort, hlast⟩

end Stream.Steady

end SegmentBench
