import SegmentBench.Proofs.Input.Settled

/-!
# Failing streams

A stream fails when a read needs what stands at the offset of the failure or behind it, be
it the end of the bytes.
-/

namespace SegmentBench

namespace Stream

variable {stream later : Stream} {line read more : Bytes} {offset : Nat} {fault : IoFault}

/-! ## Bytes on the way -/

def past (count : Nat) (stream : Stream) : Stream :=
  { stream with rest := stream.rest.drop count, position := stream.position + count }

theorem past_past (first second : Nat) :
    (stream.past first).past second = stream.past (first + second) := by
  simp [past, Nat.add_assoc]

theorem rest_past (hrest : stream.rest = read ++ more) :
    (stream.past read.length).rest = more := by
  rw [past, hrest, List.drop_left]

def upTo (offset : Nat) (stream : Stream) : Bytes :=
  stream.rest.take (offset - stream.position)

theorem upTo_past (hrest : stream.rest = read ++ more)
    (hread : read.length ≤ offset - stream.position) :
    stream.upTo offset = read ++ (stream.past read.length).upTo offset := by
  simp only [upTo, past, hrest, List.take_append, List.drop_left, Nat.sub_sub,
    List.take_of_length_le hread]

theorem advance_taken_le (taken : Nat) (line : Bytes) (window : Nat) (rest : Bytes) :
    (advance taken line window rest).taken ≤ taken + window := by
  induction window generalizing taken line rest with
  | zero => exact Nat.le_refl taken
  | succ window ih =>
      cases rest with
      | nil => exact Nat.le_add_right taken (window + 1)
      | cons b rest =>
          simp only [advance]
          split
          · simp only
            omega
          · have := ih (taken + 1) (b :: line) rest
            omega

theorem exists_next (stream : Stream) (line : Bytes) :
    ∃ read, Moves read 0 line stream.window stream.rest (stream.next line) ∧
      read.length ≤ stream.window ∧
      stream.after (stream.next line) = stream.past read.length := by
  obtain ⟨read, hread⟩ := stream.next_moves line
  have htaken := hread.taken
  rw [Nat.zero_add] at htaken
  have hwindow := advance_taken_le 0 line stream.window stream.rest
  rw [Nat.zero_add] at hwindow
  refine ⟨read, hread, htaken ▸ hwindow, ?_⟩
  rw [after, past, htaken]
  congr 1
  rw [hread.rest, List.drop_left]

/-! ## A line in front of the next disturbance -/

theorem window_le {due : Nat × Disturbance} (hfirst : due ∈ stream.disturbances.head?) :
    stream.window ≤ due.1 - stream.position := by
  unfold window
  split
  · rename_i hdisturbances
    rw [hdisturbances] at hfirst
    cases hfirst
    exact Nat.min_le_right _ _
  · rename_i hdisturbances
    rw [hdisturbances] at hfirst
    cases hfirst

/-- The line ends in front of the first disturbance, if there is one. -/
def LineSpared (stream : Stream) : Prop :=
  ∀ due ∈ stream.disturbances.head?, newline ∈ stream.upTo due.1

theorem LineSpared.due?_eq_none (hspared : stream.LineSpared) : stream.due? = none := by
  unfold due?
  split
  · rename_i offset disturbance others hdisturbances
    have hmem := hspared (offset, disturbance) (by rw [hdisturbances]; rfl)
    split
    · rename_i hdue
      simp [upTo, Nat.sub_eq_zero_of_le hdue] at hmem
    · rfl
  · rfl

theorem LineSpared.past (hspared : stream.LineSpared) (hrest : stream.rest = read ++ more)
    (hread : read.length ≤ stream.window) (hopen : newline ∉ read) :
    (stream.past read.length).LineSpared := by
  intro due hfirst
  have hmem := hspared due hfirst
  rw [upTo_past hrest (Nat.le_trans hread (window_le hfirst)), List.mem_append] at hmem
  exact hmem.resolve_left hopen

theorem readLineFrom_spared (hpiece : 0 < stream.piece) (hspared : stream.LineSpared) :
    stream.readLineFrom line =
      (.ok (line.reverse ++ takeLine newline stream.rest),
        stream.past (takeLine newline stream.rest).length) := by
  have hdue := hspared.due?_eq_none
  -- the induction follows the pieces: one that does not end the line leaves its end in front of
  -- the disturbance
  fun_induction readLineFrom line stream with
  | case1 line stream next hinterrupted ih => cases hdue.symm.trans hinterrupted
  | case2 line stream fault next hfailed => cases hdue.symm.trans hfailed
  | case3 line stream hdue' piece hstop =>
      obtain ⟨read, hread, hwindow, hafter⟩ := stream.exists_next line
      have hline := (next_of_stop hpiece hdue hstop).1
      have hbytes : read = takeLine newline stream.rest := by
        simpa [hread.line] using hline
      rw [hafter, hline, hbytes]
  | case4 line stream hdue' piece hgoes ih =>
      obtain ⟨read, hread, hwindow, hafter⟩ := stream.exists_next line
      have hended := Bool.eq_false_iff.mpr (not_or.mp hgoes).1
      have hopen := (hread.goesOn hended).1
      have hlater := hspared.past hread.rest hwindow hopen
      rw [hafter] at ih
      rw [hafter, ih hpiece hlater hlater.due?_eq_none, hread.line, hread.rest,
        takeLine_append_of_notMem hopen, past_past, List.length_append]
      simp [Stream.past, hread.rest]

theorem readLine_spared (hpiece : 0 < stream.piece) (hlasting : stream.lasting = none)
    (hspared : stream.LineSpared) :
    stream.readLine =
      (.ok (takeLine newline stream.rest),
        stream.past (takeLine newline stream.rest).length) := by
  unfold readLine
  rw [hlasting]
  exact readLineFrom_spared hpiece hspared

/-! ## A line that is broken off -/

/-- A failure comes first, neither in front of the position nor behind the end. -/
structure Awaits (offset : Nat) (fault : IoFault) (stream : Stream) : Prop where
  piece : 0 < stream.piece
  lasting : stream.lasting = none
  first : stream.disturbances.head? = some (offset, .failure fault)
  notPast : stream.position ≤ offset
  within : offset ≤ stream.position + stream.rest.length

def failed (offset : Nat) (stream : Stream) : Stream :=
  { stream.past (offset - stream.position) with disturbances := stream.disturbances.tail }

namespace Awaits

theorem due?_eq (hawaits : Awaits offset fault stream) :
    stream.due? =
      if offset ≤ stream.position then
        some (.failure fault, { stream with disturbances := stream.disturbances.tail })
      else none := by
  obtain ⟨others, hothers⟩ := List.head?_eq_some_iff.mp hawaits.first
  simp only [due?, hothers, List.tail_cons]

theorem not_le_of_due? (hawaits : Awaits offset fault stream) (hdue : stream.due? = none) :
    ¬offset ≤ stream.position := by
  intro hreached
  rw [hawaits.due?_eq, if_pos hreached] at hdue
  cases hdue

theorem window_le (hawaits : Awaits offset fault stream) :
    stream.window ≤ offset - stream.position := by
  have hfirst : (offset, .failure fault) ∈ stream.disturbances.head? := hawaits.first
  exact Stream.window_le hfirst

theorem lineSpared (hawaits : Awaits offset fault stream)
    (hmem : newline ∈ stream.upTo offset) : stream.LineSpared := by
  intro due hfirst
  rw [hawaits.first] at hfirst
  cases hfirst
  exact hmem

theorem past {count : Nat} (hawaits : Awaits offset fault stream)
    (hcount : count ≤ offset - stream.position) : Awaits offset fault (stream.past count) where
  piece := hawaits.piece
  lasting := hawaits.lasting
  first := hawaits.first
  notPast := by
    have := hawaits.notPast
    simp only [Stream.past]
    omega
  within := by
    have := hawaits.notPast
    have := hawaits.within
    simp only [Stream.past, List.length_drop]
    omega

theorem failed_past {count : Nat} (hcount : count ≤ offset - stream.position) :
    (stream.past count).failed offset = stream.failed offset := by
  have hlengths : count + (offset - (stream.past count).position) = offset - stream.position := by
    simp only [Stream.past]
    omega
  rw [failed, past_past, hlengths]
  rfl

theorem readLineFrom_failed (hawaits : Awaits offset fault stream)
    (hopen : newline ∉ stream.upTo offset) :
    stream.readLineFrom line = (.error fault, stream.failed offset) := by
  -- the induction follows the pieces, none of which reaches beyond the failure
  fun_induction readLineFrom line stream with
  | case1 line stream next hinterrupted ih =>
      rw [hawaits.due?_eq] at hinterrupted
      split at hinterrupted <;> cases hinterrupted
  | case2 line stream other next hfailed =>
      rw [hawaits.due?_eq] at hfailed
      split at hfailed
      · rename_i hreached
        cases hfailed
        simp [failed, Stream.past, Nat.sub_eq_zero_of_le hreached]
      · cases hfailed
  | case3 line stream hdue piece hstop =>
      obtain ⟨read, hread, hwindow, -⟩ := stream.exists_next line
      have hfront := upTo_past hread.rest (Nat.le_trans hwindow hawaits.window_le)
      cases hended : (stream.next line).ended with
      | true =>
          obtain ⟨body, rfl, -⟩ := hread.closed hended
          simp [hfront] at hopen
      | false =>
          -- without a newline a piece is empty at the end of the bytes only
          have htaken : read.length = 0 := by
            have hstop := hstop.resolve_left (by simp [piece, hended])
            simpa [piece, hread.taken] using hstop
          have hpos := window_pos hawaits.piece hdue
          have hend : (stream.next line).rest = [] :=
            (hread.goesOn hended).2.resolve_left (by omega)
          have hbytes := congrArg List.length hread.rest
          rw [hend, List.append_nil, htaken] at hbytes
          have hbehind := hawaits.not_le_of_due? hdue
          have hwithin := hawaits.within
          omega
  | case4 line stream hdue piece hgoes ih =>
      obtain ⟨read, hread, hwindow, hafter⟩ := stream.exists_next line
      have hcount := Nat.le_trans hwindow hawaits.window_le
      rw [upTo_past hread.rest hcount, List.mem_append, not_or] at hopen
      rw [hafter] at ih ⊢
      rw [ih (hawaits.past hcount) hopen.2, failed_past hcount]

theorem readLine_failed (hawaits : Awaits offset fault stream)
    (hopen : newline ∉ stream.upTo offset) :
    stream.readLine = (.error fault, stream.failed offset) := by
  unfold readLine
  rw [hawaits.lasting]
  exact hawaits.readLineFrom_failed hopen

theorem readLine_ok (hawaits : Awaits offset fault stream)
    (hmem : newline ∈ stream.upTo offset) :
    stream.readLine =
      (.ok (takeLine newline stream.rest),
        stream.past (takeLine newline stream.rest).length) :=
  readLine_spared hawaits.piece hawaits.lasting (hawaits.lineSpared hmem)

end Awaits

/-! ## Integers -/

section Integers

variable {expected : Nat} {progress : Progress}

theorem upTo_line (hmem : newline ∈ stream.upTo offset) :
    takeLine newline (stream.upTo offset) = takeLine newline stream.rest ∧
      dropLine newline (stream.upTo offset) =
        (stream.past (takeLine newline stream.rest).length).upTo offset ∧
      (takeLine newline stream.rest).length ≤ offset - stream.position := by
  have hline : takeLine newline (stream.upTo offset) = takeLine newline stream.rest := by
    rw [← takeLine_append_of_mem hmem (stream.rest.drop (offset - stream.position)), upTo,
      List.take_append_drop]
  have hsplit := takeLine_append_dropLine newline (stream.upTo offset)
  have hlength := congrArg List.length hsplit
  rw [hline, List.length_append, upTo, List.length_take] at hlength
  have hcount : (takeLine newline stream.rest).length ≤ offset - stream.position := by omega
  refine ⟨hline, ?_, hcount⟩
  have hupTo := upTo_past (takeLine_append_dropLine newline stream.rest).symm hcount
  rw [hline] at hsplit
  exact List.append_cancel_left (hsplit.trans hupTo)

/-- One line on, what is left of the bytes up to an offset settles the read if and only if
they all did. -/
theorem settled_upTo_iff {next : Progress} (hmore : progress.count < expected)
    (hmem : newline ∈ stream.upTo offset)
    (htaken : progress.takeLine expected (takeLine newline stream.rest) = .ok next) :
    progress.Settled expected (stream.upTo offset) ↔
      next.Settled expected
        ((stream.past (takeLine newline stream.rest).length).upTo offset) := by
  obtain ⟨hsame, hleft, -⟩ := upTo_line hmem
  rw [Progress.settled_iff hmore, and_iff_right hmem, hsame, hleft]
  constructor
  · intro hnext
    exact hnext next htaken
  · intro hsettled other hother
    cases htaken.symm.trans hother
    exact hsettled

theorem readLine_settled (hpiece : 0 < stream.piece) (hlasting : stream.lasting = none)
    (hmore : progress.count < expected)
    (hspared : ∀ due ∈ stream.disturbances.head?,
      progress.Settled expected (stream.upTo due.1)) :
    stream.readLine =
      (.ok (takeLine newline stream.rest),
        stream.past (takeLine newline stream.rest).length) :=
  readLine_spared hpiece hlasting fun due hfirst => (hspared due hfirst).newline_mem hmore

theorem readFrom_spared (hpiece : 0 < stream.piece) (hlasting : stream.lasting = none)
    (hspared : ∀ due ∈ stream.disturbances.head?,
      progress.Settled expected (stream.upTo due.1)) :
    ∃ taken, stream.readFrom expected progress =
        ((progress.readLines expected (linesOf newline stream.rest)).1,
          stream.past taken.length) ∧
      stream.rest =
        taken ++ (progress.readLines expected (linesOf newline stream.rest)).2.flatten := by
  fun_induction readFrom expected progress stream with
  | case1 progress stream hmore fault later hread =>
      cases hread.symm.trans (readLine_settled hpiece hlasting hmore hspared)
  | case2 progress stream hmore line later hread failure htaken =>
      cases hread.symm.trans (readLine_settled hpiece hlasting hmore hspared)
      rw [Progress.readLines_linesOf hmore, htaken]
      exact ⟨takeLine newline stream.rest, rfl, by simp [takeLine_append_dropLine]⟩
  | case3 progress stream hmore line later hread next htaken ih =>
      cases hread.symm.trans (readLine_settled hpiece hlasting hmore hspared)
      have hnext : ∀ due ∈ stream.disturbances.head?, next.Settled expected
          ((stream.past (takeLine newline stream.rest).length).upTo due.1) := by
        intro due hfirst
        have hmem := (hspared due hfirst).newline_mem hmore
        exact (settled_upTo_iff hmore hmem htaken).mp (hspared due hfirst)
      have hrest : (stream.past (takeLine newline stream.rest).length).rest =
          dropLine newline stream.rest :=
        rest_past (takeLine_append_dropLine newline stream.rest).symm
      obtain ⟨taken, hlater, hsplit⟩ := ih hpiece hlasting hnext
      rw [hrest] at hlater hsplit
      rw [Progress.readLines_linesOf hmore, htaken]
      refine ⟨takeLine newline stream.rest ++ taken, ?_, ?_⟩
      · rw [hlater, past_past, List.length_append]
      · rw [List.append_assoc, ← hsplit, takeLine_append_dropLine]
  | case4 progress stream henough =>
      rw [Progress.readLines_enough henough]
      exact ⟨[], rfl, by simp⟩

theorem Awaits.readFrom_failed (hawaits : Awaits offset fault stream)
    (hneeds : ¬progress.Settled expected (stream.upTo offset)) :
    stream.readFrom expected progress = (.error (.io fault), stream.failed offset) := by
  fun_induction readFrom expected progress stream with
  | case1 progress stream hmore other later hread =>
      by_cases hmem : newline ∈ stream.upTo offset
      · cases hread.symm.trans (hawaits.readLine_ok hmem)
      · cases hread.symm.trans (hawaits.readLine_failed hmem)
        rfl
  | case2 progress stream hmore line later hread failure htaken =>
      by_cases hmem : newline ∈ stream.upTo offset
      · cases hread.symm.trans (hawaits.readLine_ok hmem)
        rw [← (upTo_line hmem).1] at htaken
        refine absurd ((Progress.settled_iff hmore).mpr ⟨hmem, ?_⟩) hneeds
        intro next hnext
        cases htaken.symm.trans hnext
      · cases hread.symm.trans (hawaits.readLine_failed hmem)
  | case3 progress stream hmore line later hread next htaken ih =>
      by_cases hmem : newline ∈ stream.upTo offset
      · cases hread.symm.trans (hawaits.readLine_ok hmem)
        have hlater := mt (settled_upTo_iff hmore hmem htaken).mpr hneeds
        have hcount := (upTo_line hmem).2.2
        rw [ih (hawaits.past hcount) hlater, failed_past hcount]
      · cases hread.symm.trans (hawaits.readLine_failed hmem)
  | case4 progress stream henough =>
      exact absurd (Progress.settled_of_enough henough _) hneeds

variable {request : Request}

theorem readIntegers_spared (hpiece : 0 < stream.piece) (hlasting : stream.lasting = none)
    (hspared : ∀ due ∈ stream.disturbances.head?, request.SettledBy (stream.upTo due.1)) :
    ∃ taken, stream.readIntegers request.memory request.count =
        (((ofBytes stream.rest).readIntegers request.memory request.count).1,
          stream.past taken.length) ∧
      stream.rest = taken ++
        ((ofBytes stream.rest).readIntegers request.memory request.count).2.rest := by
  cases hroom : reserve request.memory request.count with
  | error fault =>
      simp only [readIntegers_of_full hroom]
      exact ⟨[], rfl, rfl⟩
  | ok =>
      have hsettled : ∀ due ∈ stream.disturbances.head?,
          Progress.start.Settled request.count.toNat (stream.upTo due.1) :=
        fun due hfirst => (Request.settledBy_iff hroom).mp (hspared due hfirst)
      obtain ⟨taken, hread, hsplit⟩ := readFrom_spared hpiece hlasting hsettled
      have halone := steady_ofBytes stream.rest
      refine ⟨taken, ?_, ?_⟩
      · have hrest : (ofBytes stream.rest).rest = stream.rest := rfl
        rw [readIntegers_eq hroom halone, hrest, readIntegers, hroom]
        simp only [hread]
        cases (Progress.start.readLines request.count.toNat (linesOf newline stream.rest)).1 <;>
          rfl
      · rw [halone.rest_readIntegers hroom]
        exact hsplit

theorem Awaits.readIntegers_failed (hawaits : Awaits offset fault stream)
    (hneeds : ¬request.SettledBy (stream.upTo offset)) :
    stream.readIntegers request.memory request.count =
      (.error (.io fault), stream.failed offset) := by
  cases hroom : reserve request.memory request.count with
  | error fault => exact absurd (Request.settledBy_of_full hroom _) hneeds
  | ok =>
      rw [Request.settledBy_iff hroom] at hneeds
      rw [readIntegers, hroom]
      simp only [hawaits.readFrom_failed hneeds]

end Integers

end Stream

end SegmentBench
