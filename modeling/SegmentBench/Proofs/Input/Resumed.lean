import Mathlib.Data.List.Basic
import SegmentBench.Proofs.Input.Faults

/-!
# Reads between failures

Reads in turn of a stream with failures to come: each is spared, or breaks off where the
next failure is due, and those behind it read on from there as from the start of a new
stream.
-/

namespace SegmentBench

namespace Stream

variable {stream later : Stream} {line : Bytes}

/-! ## Where a stream counts from -/

def moved (count : Nat) (stream : Stream) : Stream :=
  { stream with
    position := stream.position + count
    disturbances := stream.disturbances.map fun due => (due.1 + count, due.2) }

variable (count : Nat)

theorem due?_moved (stream : Stream) :
    (stream.moved count).due? = stream.due?.map fun due => (due.1, due.2.moved count) := by
  cases hdisturbances : stream.disturbances with
  | nil => simp [due?, moved, hdisturbances]
  | cons due others =>
      by_cases hreached : due.1 ≤ stream.position <;>
        simp [due?, moved, hdisturbances, hreached]

theorem next_moved (stream : Stream) (line : Bytes) :
    (stream.moved count).next line = stream.next line := by
  have hwindow : (stream.moved count).window = stream.window := by
    cases hdisturbances : stream.disturbances <;>
      simp [window, moved, hdisturbances, Nat.add_sub_add_right]
  rw [next, next, hwindow]
  rfl

theorem after_moved (stream : Stream) (piece : Advance) :
    (stream.moved count).after piece = (stream.after piece).moved count := by
  simp [after, moved, Nat.add_right_comm]

theorem readLineFrom_interrupted (hdue : stream.due? = some (.interruption, later)) :
    stream.readLineFrom line = later.readLineFrom line := by
  rw [readLineFrom]
  split <;> simp_all

theorem readLineFrom_failure {fault : IoFault}
    (hdue : stream.due? = some (.failure fault, later)) :
    stream.readLineFrom line = (.error fault, later) := by
  rw [readLineFrom]
  split <;> simp_all

theorem readLineFrom_undisturbed (hdue : stream.due? = none) :
    stream.readLineFrom line =
      if (stream.next line).ended ∨ (stream.next line).taken = 0 then
        (.ok (stream.next line).line.reverse, stream.after (stream.next line))
      else (stream.after (stream.next line)).readLineFrom (stream.next line).line := by
  rw [readLineFrom]
  split <;> simp_all

theorem readLineFrom_moved (line : Bytes) (stream : Stream) :
    (stream.moved count).readLineFrom line =
      ((stream.readLineFrom line).1, (stream.readLineFrom line).2.moved count) := by
  fun_induction readLineFrom line stream with
  | case1 line stream next hdue ih =>
      rw [readLineFrom_interrupted (by rw [due?_moved, hdue]; rfl), ih]
  | case2 line stream fault next hdue =>
      rw [readLineFrom_failure (by rw [due?_moved, hdue]; rfl)]
  | case3 line stream hdue piece hstop =>
      rw [readLineFrom_undisturbed (by rw [due?_moved, hdue]; rfl), next_moved, after_moved,
        if_pos hstop]
  | case4 line stream hdue piece hgoes ih =>
      rw [readLineFrom_undisturbed (by rw [due?_moved, hdue]; rfl), next_moved, after_moved,
        if_neg hgoes]
      exact ih

theorem readLine_moved (stream : Stream) :
    (stream.moved count).readLine =
      (stream.readLine.1, stream.readLine.2.moved count) := by
  cases hlasting : stream.lasting with
  | none => simpa [readLine, moved, hlasting] using readLineFrom_moved count [] stream
  | some fault => simp [readLine, moved, hlasting]

theorem readFrom_eq {expected : Nat} {progress : Progress} (hmore : progress.count < expected)
    (stream : Stream) :
    stream.readFrom expected progress =
      match stream.readLine with
      | (.error fault, later) => (.error (.io fault), later)
      | (.ok line, later) =>
          match progress.takeLine expected line with
          | .error failure => (.error failure, later)
          | .ok next => later.readFrom expected next := by
  rw [readFrom, if_pos hmore]
  split
  · rename_i hread
    rw [hread]
  · rename_i hread
    rw [hread]
    split
    · rename_i htaken
      simp only [htaken]
    · rename_i htaken
      simp only [htaken]

theorem readFrom_moved (expected : Nat) (progress : Progress) (stream : Stream) :
    (stream.moved count).readFrom expected progress =
      ((stream.readFrom expected progress).1,
        (stream.readFrom expected progress).2.moved count) := by
  fun_induction readFrom expected progress stream with
  | case1 progress stream hmore fault later hread =>
      rw [readFrom_eq hmore, readLine_moved, hread]
  | case2 progress stream hmore line later hread failure htaken =>
      simp only [readFrom_eq hmore, readLine_moved, hread, htaken]
  | case3 progress stream hmore line later hread next htaken ih =>
      simp only [readFrom_eq hmore, readLine_moved, hread, htaken, ih]
  | case4 progress stream henough => rw [readFrom, if_neg henough]

theorem readIntegers_moved (memory : Memory) (asked : UInt64) (stream : Stream) :
    (stream.moved count).readIntegers memory asked =
      ((stream.readIntegers memory asked).1,
        (stream.readIntegers memory asked).2.moved count) := by
  cases hroom : reserve memory asked with
  | error fault => simp only [readIntegers, hroom]
  | ok =>
      simp only [readIntegers, hroom, readFrom_moved]
      rcases stream.readFrom asked.toNat Progress.start with ⟨_ | _, later⟩ <;> rfl

theorem readEach_moved (requests : List Request) (stream : Stream) :
    (stream.moved count).readEach requests =
      ((stream.readEach requests).1, (stream.readEach requests).2.moved count) := by
  induction requests generalizing stream with
  | nil => rfl
  | cons request requests ih => simp only [readEach, readIntegers_moved, ih]

/-! ## Failures to come -/

/-- A stream at `position` in `whole`, with a failure to come at each offset in `faults`. -/
def failing (piece : Nat) (whole : Bytes) (position : Nat) (faults : List (Nat × IoFault)) :
    Stream :=
  ⟨whole.drop position, position, faults.map fun due => (due.1, .failure due.2), piece, none⟩

def fromOffset (offset : Nat) (faults : List (Nat × IoFault)) : List (Nat × IoFault) :=
  faults.map fun due => (due.1 - offset, due.2)

end Stream

open SegmentBench.Stream (failing fromOffset)

/-- Reads in turn of the bytes `whole`, from a position and the failures to come to those
after the last read.  A read that the bytes up to the next failure settle ends as without
that failure, and as without any, and takes its bytes.  Any other is the failure that it
meets, and those behind it read as a new stream over the bytes from there on. -/
inductive Resumes (piece : Nat) (whole : Bytes) :
    Nat → List (Nat × IoFault) → List Request → List (Except Failure (List Int32)) →
      Nat → List (Nat × IoFault) → Prop where
  | done {position : Nat} {faults : List (Nat × IoFault)} :
      Resumes piece whole position faults [] [] position faults
  | spared {position last : Nat} {faults remaining : List (Nat × IoFault)} {request : Request}
      {requests : List Request} {outcome : Except Failure (List Int32)}
      {outcomes : List (Except Failure (List Int32))} {taken : Bytes} {later : Stream}
      (settled : ∀ due ∈ faults.head?,
        request.SettledBy ((whole.drop position).take (due.1 - position)))
      (without : ((failing piece whole position faults.tail).readIntegers request.memory
        request.count).1 = outcome)
      (alone : (Stream.ofBytes (whole.drop position)).readIntegers request.memory
        request.count = (outcome, later))
      (takes : whole.drop position = taken ++ later.rest)
      (others : Resumes piece whole (position + taken.length) faults requests outcomes last
        remaining) :
      Resumes piece whole position faults (request :: requests) (outcome :: outcomes) last
        remaining
  | failed {position offset last : Nat} {fault : IoFault}
      {faults remaining : List (Nat × IoFault)} {request : Request} {requests : List Request}
      {outcomes : List (Except Failure (List Int32))}
      (needed : ¬request.SettledBy ((whole.drop position).take (offset - position)))
      (fresh : outcomes = ((failing piece (whole.drop offset) 0
        (fromOffset offset faults)).readEach requests).1)
      (others : Resumes piece whole offset faults requests outcomes last remaining) :
      Resumes piece whole position ((offset, fault) :: faults) (request :: requests)
        (.error (.io fault) :: outcomes) last remaining

structure ToCome (whole : Bytes) (position : Nat) (faults : List (Nat × IoFault)) : Prop where
  ordered : faults.Pairwise fun first second => first.1 ≤ second.1
  ahead : ∀ due ∈ faults, position ≤ due.1
  within : ∀ due ∈ faults, due.1 ≤ whole.length

namespace ToCome

variable {whole : Bytes} {position offset piece : Nat} {fault : IoFault}
  {faults : List (Nat × IoFault)}

theorem awaits (hcome : ToCome whole position ((offset, fault) :: faults))
    (hpiece : 0 < piece) :
    (failing piece whole position ((offset, fault) :: faults)).Awaits offset fault where
  piece := hpiece
  lasting := rfl
  first := rfl
  notPast := hcome.ahead _ List.mem_cons_self
  within := by
    have := hcome.within _ List.mem_cons_self
    simp only [failing, List.length_drop]
    omega

theorem tail (hcome : ToCome whole position ((offset, fault) :: faults)) :
    ToCome whole offset faults where
  ordered := hcome.ordered.tail
  ahead := fun _ => List.rel_of_pairwise_cons hcome.ordered
  within := fun due hdue => hcome.within due (.tail _ hdue)

theorem past {next : Nat} (hcome : ToCome whole position faults)
    (hnext : ∀ due ∈ faults.head?, next ≤ due.1) : ToCome whole next faults where
  ordered := hcome.ordered
  ahead := by
    intro due hdue
    cases faults with
    | nil => cases hdue
    | cons first others =>
        have hfirst := hnext first rfl
        rcases List.mem_cons.mp hdue with rfl | hothers
        · exact hfirst
        · exact Nat.le_trans hfirst (List.rel_of_pairwise_cons hcome.ordered hothers)
  within := hcome.within

theorem settled_tail {request : Request} (hcome : ToCome whole position faults)
    (hsettled : ∀ due ∈ faults.head?,
      request.SettledBy ((whole.drop position).take (due.1 - position))) :
    ∀ due ∈ faults.tail.head?,
      request.SettledBy ((whole.drop position).take (due.1 - position)) := by
  intro due hdue
  cases faults with
  | nil => cases hdue
  | cons first others =>
      have hle := List.rel_of_pairwise_cons hcome.ordered (List.mem_of_head? hdue)
      refine (hsettled first rfl).mono (List.take_prefix_take_left ?_)
      omega

end ToCome

namespace Stream

variable {whole : Bytes} {position offset piece : Nat} {fault : IoFault}
  {faults : List (Nat × IoFault)} {request : Request}

theorem past_failing (taken : Nat) :
    (failing piece whole position faults).past taken =
      failing piece whole (position + taken) faults := by
  simp [failing, past]

theorem failed_failing (hahead : position ≤ offset) :
    (failing piece whole position ((offset, fault) :: faults)).failed offset =
      failing piece whole offset faults := by
  rw [failed, past_failing]
  simp [failing, Nat.add_sub_cancel' hahead]

theorem moved_failing (hahead : ∀ due ∈ faults, offset ≤ due.1) :
    (failing piece (whole.drop offset) 0 (fromOffset offset faults)).moved offset =
      failing piece whole offset faults := by
  have hfaults : (fromOffset offset faults).map (fun due => (due.1 + offset, due.2)) = faults := by
    rw [fromOffset, List.map_map]
    refine (List.map_congr_left fun due hdue => ?_).trans (List.map_id faults)
    simp [Nat.sub_add_cancel (hahead due hdue)]
  have hmoved : (failing piece (whole.drop offset) 0 (fromOffset offset faults)).moved offset =
      failing piece whole offset
        ((fromOffset offset faults).map fun due => (due.1 + offset, due.2)) := by
    simp [failing, moved, Function.comp_def]
  rw [hmoved, hfaults]

theorem readEach_fresh (hahead : ∀ due ∈ faults, offset ≤ due.1) (requests : List Request) :
    ((failing piece whole offset faults).readEach requests).1 =
      ((failing piece (whole.drop offset) 0 (fromOffset offset faults)).readEach requests).1 := by
  rw [← moved_failing hahead, readEach_moved]

theorem readIntegers_failing (hpiece : 0 < piece)
    (hsettled : ∀ due ∈ faults.head?,
      request.SettledBy ((whole.drop position).take (due.1 - position))) :
    ∃ taken, (failing piece whole position faults).readIntegers request.memory request.count =
        (((ofBytes (whole.drop position)).readIntegers request.memory request.count).1,
          failing piece whole (position + taken.length) faults) ∧
      whole.drop position = taken ++
        ((ofBytes (whole.drop position)).readIntegers request.memory request.count).2.rest := by
  have hspared : ∀ due ∈ (failing piece whole position faults).disturbances.head?,
      request.SettledBy ((failing piece whole position faults).upTo due.1) := by
    intro due hfirst
    rw [failing, List.head?_map, Option.mem_def, Option.map_eq_some_iff] at hfirst
    obtain ⟨first, hfirst, rfl⟩ := hfirst
    exact hsettled first hfirst
  obtain ⟨taken, hread, htaken⟩ := readIntegers_spared hpiece rfl hspared
  exact ⟨taken, by rw [hread, past_failing]; rfl, htaken⟩

theorem readEach_resumes_from (hpiece : 0 < piece) (requests : List Request)
    (hcome : ToCome whole position faults) :
    ∃ last remaining,
      ((failing piece whole position faults).readEach requests).2 =
        failing piece whole last remaining ∧
      Resumes piece whole position faults requests
        ((failing piece whole position faults).readEach requests).1 last remaining := by
  induction requests generalizing position faults with
  | nil => exact ⟨position, faults, rfl, .done⟩
  | cons request requests ih =>
      by_cases hsettled : ∀ due ∈ faults.head?,
          request.SettledBy ((whole.drop position).take (due.1 - position))
      · obtain ⟨taken, hread, htaken⟩ := readIntegers_failing hpiece hsettled
        have hnext : ∀ due ∈ faults.head?, position + taken.length ≤ due.1 := by
          intro due hfirst
          have hle := (hsettled due hfirst).length_le htaken
          have hahead := hcome.ahead due (List.mem_of_head? hfirst)
          omega
        obtain ⟨_, hwithout, -⟩ := readIntegers_failing hpiece (hcome.settled_tail hsettled)
        have hsame := congrArg Prod.fst hwithout
        obtain ⟨last, remaining, hlast, hresumes⟩ := ih (hcome.past hnext)
        refine ⟨last, remaining, ?_, ?_⟩
        · simp only [readEach, hread]
          exact hlast
        · simp only [readEach, hread]
          exact .spared hsettled hsame rfl htaken hresumes
      · cases faults with
        | nil => exact absurd (fun due hdue => by cases hdue) hsettled
        | cons first others =>
            obtain ⟨offset, fault⟩ := first
            have hneeds : ¬request.SettledBy ((whole.drop position).take (offset - position)) := by
              intro hbytes
              refine hsettled fun due hdue => ?_
              cases hdue
              exact hbytes
            have hread := (hcome.awaits hpiece).readIntegers_failed hneeds
            rw [failed_failing (hcome.ahead _ List.mem_cons_self)] at hread
            obtain ⟨last, remaining, hlast, hresumes⟩ := ih hcome.tail
            refine ⟨last, remaining, ?_, ?_⟩
            · simp only [readEach, hread]
              exact hlast
            · simp only [readEach, hread]
              exact .failed hneeds (readEach_fresh hcome.tail.ahead requests) hresumes

/-- Under failures at offsets that do not fall, each read in turn is spared or is the next
failure, at whose offset the stream then stands and the reads behind it begin. -/
theorem readEach_resumes {bytes : Bytes} (hpiece : 0 < piece)
    (hordered : faults.Pairwise fun first second => first.1 ≤ second.1)
    (hwithin : ∀ due ∈ faults, due.1 ≤ bytes.length) (requests : List Request) :
    ∃ last remaining,
      ((failing piece bytes 0 faults).readEach requests).2 =
        failing piece bytes last remaining ∧
      Resumes piece bytes 0 faults requests
        ((failing piece bytes 0 faults).readEach requests).1 last remaining :=
  readEach_resumes_from hpiece requests ⟨hordered, fun _ _ => Nat.zero_le _, hwithin⟩

/-- Pieces of three bytes and two failures, one behind the number 3 and one at the end: the
first read is spared, the second breaks off and loses that number, the third goes on behind
it, the fourth fails at the end with a number in hand, and the last finds nothing. -/
theorem readEach_resumes_twice :
    let bytes := Utf8.encode "1 2\n3 4\n5".toList
    let faults : List (Nat × IoFault) := [(5, .other "reset"), (9, .system 5)]
    let requests : List Request :=
      [⟨Memory.usual, 2⟩, ⟨Memory.usual, 2⟩, ⟨Memory.usual, 1⟩, ⟨Memory.usual, 1⟩,
        ⟨Memory.usual, 1⟩]
    let outcomes : List (Except Failure (List Int32)) :=
      [.ok [1, 2], .error (.io (.other "reset")), .ok [4], .error (.io (.system 5)),
        .error (.shortInput 1 0)]
    (failing 3 bytes 0 faults).readEach requests = (outcomes, failing 3 bytes 9 []) ∧
      Resumes 3 bytes 0 faults requests outcomes 9 [] := by
  intro bytes faults requests outcomes
  have hrun : (failing 3 bytes 0 faults).readEach requests =
      (outcomes, failing 3 bytes 9 []) := by
    decide +kernel
  have hordered : faults.Pairwise fun first second => first.1 ≤ second.1 := by decide
  have hwithin : ∀ due ∈ faults, due.1 ≤ bytes.length := by decide +kernel
  obtain ⟨last, remaining, hlast, hresumes⟩ :=
    readEach_resumes (by decide : 0 < 3) hordered hwithin requests
  rw [hrun] at hlast hresumes
  have hposition : 9 = last := congrArg Stream.position hlast
  have hremaining : remaining = [] :=
    List.map_eq_nil_iff.mp (congrArg Stream.disturbances hlast).symm
  rw [← hposition, hremaining] at hresumes
  exact ⟨hrun, hresumes⟩

end Stream

end SegmentBench
