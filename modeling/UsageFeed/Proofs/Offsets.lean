import Mathlib
import UsageFeed.Proofs.Replay

/-!
# `UsageFeed.Proofs.Offsets` — which line an offset means

A line of text that is not blank brings a message. The offset of the message is the number of its
line, counted from zero by line feeds, less the lines before it that are no text: a replay does not
count those. So where all lines are text, an offset is the number of a line, and behind a line that
is none it is too small.

## Contents
- **Places.** `IsLine`, where the line of a number stands in a file, and `isLine_of_getElem?`.
- **Messages of lines.** `lineMessage?`, the message of the line of a number, and `lineMessages`,
  those of all lines, taken apart at the first line (`lineMessages_cons`).
- **Polls.** `JsonLines.left`, the messages that are still to come; a poll takes its message off
  them (`left_poll`), and so does any number of asks (`left_ask`), each of which keeps what is
  committed (`committed_ask`).
- `replay_offsets`, and `replay_offset_behind`, where an offset is not the number of its line.
-/

namespace UsageFeed

open Text (allBlank)
open Text.Utf8 (encode decode decode? decode_eq_ok_iff decode?_eq_some_iff)

/-! ## Places -/

/-- The contents stand in the file as the line of that number: so many line feeds come before them,
the last one right before them unless they open the file. -/
def IsLine (file : List UInt8) (number : Nat) (content : List UInt8) : Prop :=
  ∃ before after, file = before ++ content ++ after ∧ before.count lineFeed = number ∧
    (before = [] ∨ before.getLast? = some lineFeed)

/-- A file that is not empty has a first line. -/
theorem exists_firstLine {file : List UInt8} (h : file ≠ []) :
    ∃ line rest, FirstLine file line rest := by
  by_cases hfeed : lineFeed ∈ file
  · obtain ⟨body, rest, hparts, hbody⟩ := List.eq_append_cons_of_mem hfeed
    exact ⟨_, rest, .closed hparts hbody⟩
  · exact ⟨file, [], .unclosed h hfeed⟩

/-- What stands at the front of a file and what stands after it make up the file. -/
theorem FirstLine.append_eq {file line rest : List UInt8} (h : FirstLine file line rest) :
    file = line ++ rest := by
  cases h with
  | closed hparts _ => rw [hparts, List.append_assoc, List.singleton_append]
  | unclosed _ _ => exact (List.append_nil file).symm

theorem stripEnd_prefix (line : List UInt8) : stripEnd line <+: line := by
  unfold stripEnd
  by_cases hfeed : line.getLast? = some lineFeed
  · rw [if_pos hfeed]
    simp only
    split
    · exact (List.dropLast_prefix _).trans (List.dropLast_prefix _)
    · exact List.dropLast_prefix _
  · simp only [if_neg hfeed]
    exact List.prefix_rfl

/-- A line behind the first one has one more line feed before it. -/
theorem IsLine.behind {file line rest content : List UInt8} {number : Nat}
    (hfirst : FirstLine file line rest) (hrest : rest ≠ []) (h : IsLine rest number content) :
    IsLine file (number + 1) content := by
  obtain ⟨before, after, hparts, hcount, hopens⟩ := h
  have hfile := hfirst.append_eq
  cases hfirst with
  | unclosed _ _ => exact absurd rfl hrest
  | @closed body _ _ hbody =>
    refine ⟨body ++ [lineFeed] ++ before, after, ?_, ?_, .inr ?_⟩
    · rw [hfile, hparts]
      simp only [List.append_assoc]
    · rw [List.count_append, List.count_append, List.count_eq_zero_of_not_mem hbody, hcount,
        List.count_singleton_self]
      omega
    · rcases hopens with rfl | hlast
      · rw [List.append_nil, List.getLast?_concat]
      · rw [List.getLast?_append, hlast]
        rfl

/-- **The lines of a file stand in it in their order**, each behind as many line feeds as there are
lines before it. -/
theorem isLine_of_getElem? {file content : List UInt8} {number : Nat}
    (h : (lineContents file)[number]? = some content) : IsLine file number content := by
  induction number generalizing file with
  | zero =>
    have hsome : file ≠ [] := by
      rintro rfl
      rw [lineContents_nil] at h
      cases h
    obtain ⟨line, rest, hfirst⟩ := exists_firstLine hsome
    rw [hfirst.contents, List.getElem?_cons_zero] at h
    cases h
    obtain ⟨ending, hline⟩ := stripEnd_prefix line
    refine ⟨[], ending ++ rest, ?_, rfl, .inl rfl⟩
    rw [List.nil_append, ← List.append_assoc, hline]
    exact hfirst.append_eq
  | succ number ih =>
    have hsome : file ≠ [] := by
      rintro rfl
      rw [lineContents_nil] at h
      cases h
    obtain ⟨line, rest, hfirst⟩ := exists_firstLine hsome
    rw [hfirst.contents, List.getElem?_cons_succ] at h
    have hrest : rest ≠ [] := by
      rintro rfl
      rw [lineContents_nil] at h
      cases h
    exact (ih h).behind hfirst hrest

/-! ## Messages of lines -/

/-- Whether the contents of a line are text and not blank. -/
def isShown (content : List UInt8) : Bool := (decode? content).any (!allBlank ·)

/-- Whether the contents of a line are no text. -/
def isBroken (content : List UInt8) : Bool := (decode? content).isNone

/-- The message of the line of a number, if it has one, in a file where the offsets begin at
`next`. -/
def lineMessage? (next : Int) (lines : List (List UInt8)) (number : Nat) : Option Message :=
  (lines[number]?.filter isShown).map fun content =>
    ⟨content, "replay", 0, next + number - (lines.take number).countP isBroken⟩

/-- The messages of all lines in order. -/
def lineMessages (next : Int) (lines : List (List UInt8)) : List Message :=
  (List.range lines.length).filterMap (lineMessage? next lines)

/-- Only a first line that is text counts for the offsets of the others. -/
theorem lineMessages_cons (next : Int) (content : List UInt8) (lines : List (List UInt8)) :
    lineMessages next (content :: lines) =
      (if isShown content then [⟨content, "replay", 0, next⟩] else []) ++
        lineMessages (if isBroken content then next else next + 1) lines := by
  have hlater (number : Nat) : lineMessage? next (content :: lines) (number + 1) =
      lineMessage? (if isBroken content then next else next + 1) lines number := by
    unfold lineMessage?
    rw [List.getElem?_cons_succ, List.take_succ_cons, List.countP_cons]
    congr 1
    funext c
    congr 1
    split <;> push_cast <;> omega
  unfold lineMessages
  rw [List.length_cons, List.range_succ_eq_map, List.filterMap_cons, List.filterMap_map]
  have hfirst : lineMessage? next (content :: lines) 0 =
      if isShown content then some ⟨content, "replay", 0, next⟩ else none := by
    by_cases h : isShown content <;> simp [lineMessage?, Option.filter, h]
  have hrest : (lineMessage? next (content :: lines) ∘ Nat.succ) =
      lineMessage? (if isBroken content then next else next + 1) lines := funext hlater
  rw [hfirst, hrest]
  by_cases h : isShown content <;> simp [h]

/-! ## Polls -/

/-- The message that a poll brings. -/
def Poll.message? : Poll → Option Message
  | message m => some m
  | _ => none

namespace JsonLines

/-- The messages that are still to come. -/
def left (s : JsonLines) : List Message :=
  lineMessages s.nextLine (lineContents s.chunks.flatten)

variable {s : JsonLines} {line : List UInt8} {rest : List (List UInt8)}

theorem left_done (h : takeLine? s.chunks = none) : s.left = [] := by
  have htake := firstLine_takeLineFrom? List.not_mem_nil s.chunks
  rw [← takeLine?, h] at htake
  unfold left
  rw [show s.chunks.flatten = [] from htake, lineContents_nil]
  rfl

/-- A line that is no text takes nothing off the messages that are to come, and the line behind it
has its offset. -/
theorem left_broken (h : takeLine? s.chunks = some (line, rest)) {d : Text.Utf8.Defect}
    (hd : decode line = .error d) : s.left = left { s with chunks := rest } := by
  have hnone : (decode? (stripEnd line)).map allBlank = none := by
    rw [blank_stripEnd, decode?, hd]
    rfl
  rw [Option.map_eq_none_iff] at hnone
  have hshown : isShown (stripEnd line) = false := by rw [isShown, hnone]; rfl
  have hbroken : isBroken (stripEnd line) = true := by rw [isBroken, hnone]; rfl
  rw [left, (firstLine_takeLine? h).contents, lineMessages_cons, hshown, hbroken]
  rfl

/-- A line of text brings the next message unless it is blank. -/
theorem left_text (h : takeLine? s.chunks = some (line, rest)) {t : String}
    (ht : decode line = .ok t) :
    s.left = (if allBlank t then [] else [message s.nextLine (stripEnd line)]) ++
      left { s with chunks := rest, nextLine := s.nextLine + 1 } := by
  obtain ⟨content, hcontent, hblank⟩ := contents_text ht
  have hdecode : decode? (stripEnd line) = some content := decode?_eq_some_iff.mpr hcontent
  have hshown : isShown (stripEnd line) = !allBlank t := by
    rw [isShown, hdecode, ← hblank]
    rfl
  have hbroken : isBroken (stripEnd line) = false := by rw [isBroken, hdecode]; rfl
  rw [left, (firstLine_takeLine? h).contents, lineMessages_cons, hshown, hbroken]
  cases allBlank t <;> rfl

/-- **A poll takes its message off those that are to come.** -/
theorem left_poll (s : JsonLines) : s.left = s.poll.1.message?.toList ++ s.poll.2.2.left := by
  fun_induction poll s with
  | case1 s h => exact left_done h
  | case2 s line rest h d hd => exact left_broken h hd
  | case3 s line rest h t ht next hblank ih =>
    rw [left_text h ht, if_pos hblank]
    exact ih
  | case4 s line rest h t ht next hshown =>
    rw [left_text h ht, if_neg hshown]
    rfl

/-! ## Steps -/

/-- What can be asked of a replay. -/
inductive Step where
  | poll
  | commit (m : Message)

/-- The messages that steps bring, and the replay after them. -/
def ask (s : JsonLines) : List Step → List Message × JsonLines
  | [] => ([], s)
  | .poll :: steps =>
    let (p, _, next) := source.poll s
    let (messages, last) := ask next steps
    (p.message?.toList ++ messages, last)
  | .commit m :: steps => ask (source.commit s m).2 steps

/-- The messages that steps acknowledge. -/
def acknowledged (steps : List Step) : List Message :=
  steps.filterMap fun
    | .poll => none
    | .commit m => some m

/-- **Steps take the messages they bring off those that are to come.** -/
theorem left_ask (s : JsonLines) (steps : List Step) :
    s.left = (s.ask steps).1 ++ (s.ask steps).2.left := by
  induction steps generalizing s with
  | nil => rfl
  | cons step steps ih =>
    cases step with
    | poll =>
      rw [left_poll, ih s.poll.2.2, ← List.append_assoc]
      rfl
    | commit m => exact ih (source.commit s m).2

theorem committed_poll (s : JsonLines) : s.poll.2.2.committed = s.committed := by
  fun_induction poll s with
  | case1 | case2 | case4 => rfl
  | case3 s line rest h t ht next hblank ih => exact ih

/-- What has been acknowledged last is known by its offset. -/
theorem committed_ask (s : JsonLines) (steps : List Step) :
    (s.ask steps).2.committed =
      ((acknowledged steps).getLast?.map (·.offset)).or s.committed := by
  induction steps generalizing s with
  | nil => rfl
  | cons step steps ih =>
    cases step with
    | poll => exact (ih s.poll.2.2).trans (congrArg _ (committed_poll s))
    | commit m =>
      refine (ih (source.commit s m).2).trans ?_
      show ((acknowledged steps).getLast?.map (·.offset)).or (some m.offset) =
        ((m :: acknowledged steps).getLast?.map (·.offset)).or s.committed
      rw [List.getLast?_cons]
      cases (acknowledged steps).getLast? <;> rfl

end JsonLines

/-- Lines of text do not count against the offset of a line behind them. -/
theorem countP_isBroken_eq_zero {lines : List (List UInt8)}
    (h : ∀ content ∈ lines, ∃ t, content = encode t) : lines.countP isBroken = 0 := by
  rw [List.countP_eq_zero]
  intro content hcontent
  obtain ⟨t, ht⟩ := h content hcontent
  simp [isBroken, decode?_eq_some_iff.mpr ht]

/-- **An offset is the number of its line less the lines before it that are no text**, whatever is
polled and acknowledged in what order: the messages that a replay brings are those of its lines, one
after another, and what was acknowledged last is known by its offset. Where all lines before it are
text, the offset of a message is the number of its line. -/
theorem replay_offsets (chunks : List (List UInt8)) (steps : List JsonLines.Step) :
    let file := chunks.flatten
    let lines := lineContents file
    let (brought, s) := (JsonLines.ofChunks chunks).ask steps
    brought <+: lineMessages 0 lines ∧
      (∀ (number : Nat) (m : Message), lineMessage? 0 lines number = some m →
        IsLine file number m.payload ∧
          m.offset = number - (lines.take number).countP isBroken ∧
          ((∀ content ∈ lines.take number, ∃ t, content = encode t) → m.offset = number)) ∧
      s.committed = (JsonLines.acknowledged steps).getLast?.map (·.offset) := by
  refine ⟨?_, ?_, ?_⟩
  · exact ⟨_, (JsonLines.left_ask (JsonLines.ofChunks chunks) steps).symm⟩
  · intro number m hm
    obtain ⟨content, hcontent, rfl⟩ := Option.map_eq_some_iff.mp hm
    have hoffset : (0 : Int) + number - ((lineContents chunks.flatten).take number).countP isBroken =
        number - ((lineContents chunks.flatten).take number).countP isBroken := by omega
    refine ⟨isLine_of_getElem? (Option.filter_eq_some_iff.mp hcontent).1, hoffset, fun htext => ?_⟩
    refine hoffset.trans ?_
    rw [countP_isBroken_eq_zero htext]
    omega
  · exact (JsonLines.committed_ask (JsonLines.ofChunks chunks) steps).trans Option.or_none

/-- Behind a line that is no text, the offset of a message is not the number of its line. -/
theorem replay_offset_behind :
    ¬ ∀ (chunks : List (List UInt8)) (steps : List JsonLines.Step),
        ∀ m ∈ ((JsonLines.ofChunks chunks).ask steps).1,
          ∃ number : Nat, IsLine chunks.flatten number m.payload ∧ m.offset = number := by
  intro h
  have hbrought : ((JsonLines.ofChunks [[0xFF, lineFeed, 0x7B, 0x7D]]).ask [.poll, .poll]).1 =
      [⟨[0x7B, 0x7D], "replay", 0, 0⟩] := by cbv
  obtain ⟨number, ⟨before, after, hparts, hcount, hopens⟩, hoffset⟩ :=
    h [[0xFF, lineFeed, 0x7B, 0x7D]] [.poll, .poll] _ (hbrought ▸ List.mem_singleton_self _)
  -- the line of number zero opens the file, and the file does not open with a brace
  obtain rfl : number = 0 := by simpa using hoffset.symm
  rcases hopens with rfl | hlast
  · cases hparts
  · exact absurd (List.mem_of_getLast? hlast) (List.count_eq_zero.mp hcount)

end UsageFeed
