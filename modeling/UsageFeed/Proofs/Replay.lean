import UsageFeed.Source.JsonLines
import UsageFeed.Proofs.Encoding
import UsageFeed.Proofs.Polls

/-!
# `UsageFeed.Proofs.Replay` — a file is replayed line by line

Whatever bytes a file has and in whatever chunks it comes, each of its lines is accounted for once:
by a message if it is text and not blank, by a failure if it is no text, by nothing if it is blank.

## Contents
- **Lines.** `lineContents`, the contents of the lines of a file; what `takeLine?` takes is the
  `FirstLine` of all the chunks together (`firstLine_takeLineFrom?`, `FirstLine.contents`).
- **Blank and broken lines.** What ends a line decides neither whether it is text nor whether it is
  blank (`blank_stripEnd`).
- **Polls.** `Replays`, what some lines have to bring, and `JsonLines.Remains`, what a replay
  brings; one line at a time (`Remains.broken`, `Remains.blank`, `Remains.shown`), then all
  (`remains`).
- **Repeated polls.** `JsonLines.after`, the state after so many polls, and `replay_lines`.
-/

namespace UsageFeed

open Text (allBlank isBlank)
open Text.Utf8 (encode decode decode? decode_eq_ok_iff decode?_eq_some_iff decode?_eq_none_iff
  encode_eq_concat encode_push)

/-! ## Lines -/

/-- The carriage return. -/
def carriageReturn : UInt8 := 0x0D

/-- The bytes without one carriage return at their end. -/
def stripReturn (bytes : List UInt8) : List UInt8 :=
  if bytes.getLast? = some carriageReturn then bytes.dropLast else bytes

/-- The contents of the lines of a file: each line feed ends a line, and a carriage return before it
belongs to the end. What follows the last line feed is a line too, unless it is empty. -/
def lineContents (file : List UInt8) : List (List UInt8) :=
  let parts := file.splitOn lineFeed
  parts.dropLast.map stripReturn ++ parts.getLast?.toList.filter (· ≠ [])

theorem lineContents_nil : lineContents [] = [] := by
  unfold lineContents
  rw [List.splitOn_nil]
  rfl

theorem lineContents_open {line : List UInt8} (hline : line ≠ []) (hfeed : lineFeed ∉ line) :
    lineContents line = [line] := by
  unfold lineContents
  rw [List.splitOn_eq_singleton hfeed]
  simp [hline]

theorem lineContents_closed {body : List UInt8} (hfeed : lineFeed ∉ body) (rest : List UInt8) :
    lineContents (body ++ lineFeed :: rest) = stripReturn body :: lineContents rest := by
  have hne := List.splitOn_ne_nil lineFeed rest
  unfold lineContents
  rw [List.splitOn_append_cons_self_of_not_mem hfeed]
  simp only
  rw [List.dropLast_cons_of_ne_nil hne, List.getLast?_cons_of_ne_nil hne]
  rfl

/-- What stands at the front of a file up to the end of its first line, and what stands after it. -/
inductive FirstLine (file : List UInt8) : List UInt8 → List UInt8 → Prop
  | closed {body rest : List UInt8} (parts : file = body ++ lineFeed :: rest)
      (first : lineFeed ∉ body) : FirstLine file (body ++ [lineFeed]) rest
  | unclosed (some : file ≠ []) (none : lineFeed ∉ file) : FirstLine file file []

/-- Where a line ends does not depend on where the chunks do. -/
theorem firstLine_takeLineFrom? {held : List UInt8} (hheld : lineFeed ∉ held)
    (chunks : List (List UInt8)) :
    match takeLineFrom? held chunks with
    | some (line, rest) => FirstLine (held ++ chunks.flatten) line rest.flatten
    | none => held ++ chunks.flatten = [] := by
  induction chunks generalizing held with
  | nil =>
    rw [takeLineFrom?]
    by_cases hempty : held = []
    · rw [if_pos hempty, hempty]
      rfl
    · rw [if_neg hempty]
      simp only [List.flatten_nil, List.append_nil]
      exact .unclosed hempty hheld
  | cons chunk more ih =>
    have hchunk := List.takeWhile_append_dropWhile (p := (· != lineFeed)) (l := chunk)
    have hfree : lineFeed ∉ chunk.takeWhile (· != lineFeed) := by
      intro hmem
      have hall := List.all_takeWhile (p := (· != lineFeed)) (l := chunk)
      simpa using List.all_eq_true.mp hall _ hmem
    rw [takeLineFrom?, List.flatten_cons, ← List.append_assoc]
    cases hdrop : chunk.dropWhile (· != lineFeed) with
    | nil =>
      -- the chunk has no line feed, so the line goes on in the next one
      rw [hdrop, List.append_nil] at hchunk
      rw [hchunk] at hfree
      exact ih (by simp [hheld, hfree])
    | cons feed rest =>
      have hfeed : feed = lineFeed := by
        have hhead := List.head?_dropWhile_not (· != lineFeed) chunk
        rw [hdrop] at hhead
        simpa using hhead
      subst hfeed
      rw [hdrop] at hchunk
      refine .closed ?_ (by simp [hheld, hfree])
      conv => lhs; rw [← hchunk]
      simp

/-- With the end of its first line taken off, a file has one line less. -/
theorem FirstLine.contents {file line rest : List UInt8} (h : FirstLine file line rest) :
    lineContents file = stripEnd line :: lineContents rest := by
  unfold stripEnd
  cases h with
  | @closed body rest hparts hfirst =>
    rw [hparts, lineContents_closed hfirst, if_pos List.getLast?_concat, List.dropLast_concat]
    rfl
  | unclosed hsome hnone =>
    have hlast : ¬ file.getLast? = some lineFeed := fun h => hnone (List.mem_of_getLast? h)
    rw [lineContents_open hsome hnone, if_neg hlast, lineContents_nil]

/-! ## Blank and broken lines -/

/-- A blank byte at the end of bytes decides neither whether they are text nor whether the text is
blank. -/
theorem blank_concat {b : UInt8} (hb : b.toNat < 0x80) (hblank : isBlank (Char.ofNat b.toNat))
    (bytes : List UInt8) :
    (decode? (bytes ++ [b])).map allBlank = (decode? bytes).map allBlank := by
  cases hdecode : decode? (bytes ++ [b]) with
  | none =>
    have hnone : decode? bytes = none := by
      rw [decode?_eq_none_iff] at hdecode ⊢
      rintro s rfl
      exact hdecode _ (encode_push s hb).symm
    rw [hnone]
  | some t =>
    obtain ⟨s, rfl, hs⟩ := encode_eq_concat (decode?_eq_some_iff.mp hdecode).symm hb
    rw [decode?_eq_some_iff.mpr hs, Option.map_some, Option.map_some]
    simp [allBlank, hblank]

/-- What ends a line decides neither whether it is text nor whether it is blank. -/
theorem blank_stripEnd (line : List UInt8) :
    (decode? (stripEnd line)).map allBlank = (decode? line).map allBlank := by
  unfold stripEnd
  by_cases hfeed : line.getLast? = some lineFeed
  · obtain ⟨body, rfl⟩ := List.getLast?_eq_some_iff.mp hfeed
    rw [if_pos hfeed, List.dropLast_concat, blank_concat (by decide) (by decide)]
    by_cases hreturn : body.getLast? = some 0x0D
    · obtain ⟨content, rfl⟩ := List.getLast?_eq_some_iff.mp hreturn
      rw [if_pos hreturn, List.dropLast_concat, blank_concat (by decide) (by decide)]
    · rw [if_neg hreturn]
  · rw [if_neg hfeed]

/-! ## Polls -/

/-- What lines with these contents bring, in their order. -/
inductive Replays : List (List UInt8) → List Poll → Prop
  | done : Replays [] []
  | message {content : List UInt8} {lines : List (List UInt8)} {polls : List Poll} {t : String}
      {m : Message} (text : content = encode t) (shown : allBlank t = false)
      (payload : m.payload = content) (more : Replays lines polls) :
      Replays (content :: lines) (.message m :: polls)
  | blank {content : List UInt8} {lines : List (List UInt8)} {polls : List Poll} {t : String}
      (text : content = encode t) (blank : allBlank t = true) (more : Replays lines polls) :
      Replays (content :: lines) polls
  | broken {content : List UInt8} {lines : List (List UInt8)} {polls : List Poll} {reason : String}
      (noText : ∀ t, content ≠ encode t) (more : Replays lines polls) :
      Replays (content :: lines) (.failed (.io reason) :: polls)

theorem Replays.length_le {lines : List (List UInt8)} {polls : List Poll}
    (h : Replays lines polls) : polls.length ≤ lines.length := by
  induction h with
  | done => exact Nat.le_refl 0
  | message _ _ _ _ ih => exact Nat.succ_le_succ ih
  | blank _ _ _ ih => exact Nat.le_succ_of_le ih
  | broken _ _ ih => exact Nat.succ_le_succ ih

/-- The offset of the message that a poll brings. -/
def Poll.offset? : Poll → Option Int
  | message m => some m.offset
  | _ => none

/-- The offsets of the messages that polls bring. -/
def offsets (polls : List Poll) : List Int := polls.filterMap Poll.offset?

/-- A source brings the same from two states in which it answers alike. -/
theorem Source.Brings.of_poll_eq {σ : Type} {src : Source σ} {auto : Bool} {last s s' : σ}
    {ps : List Poll} (h : src.Brings auto last s ps) (hpoll : src.poll s' = src.poll s) :
    src.Brings auto last s' ps := by
  cases h with
  | exhausted poll ended => exact .exhausted (hpoll.trans poll) ended
  | idle poll ended more => exact .idle (hpoll.trans poll) ended more
  | failed poll more => exact .failed (hpoll.trans poll) more
  | message poll more => exact .message (hpoll.trans poll) more

namespace JsonLines

variable {s : JsonLines} {line : List UInt8} {rest : List (List UInt8)}

theorem poll_done (h : takeLine? s.chunks = none) :
    poll s = (.nothing, if s.exhausted then [] else [exhaustedRecord s.nextLine],
      { s with chunks := [], exhausted := true }) := by
  rw [poll]
  split
  · rfl
  · simp_all

theorem poll_broken (h : takeLine? s.chunks = some (line, rest)) {d : Text.Utf8.Defect}
    (hd : decode line = .error d) :
    poll s = (.failed (.io (defectMessage d)), [], { s with chunks := rest }) := by
  rw [poll]
  split <;> simp_all

theorem poll_text (h : takeLine? s.chunks = some (line, rest)) {t : String}
    (ht : decode line = .ok t) :
    poll s =
      if allBlank t then poll { s with chunks := rest, nextLine := s.nextLine + 1 }
      else (.message (message s.nextLine (stripEnd line)), [],
        { s with chunks := rest, nextLine := s.nextLine + 1 }) := by
  rw [poll]
  split <;> simp_all

/-- What is acknowledged in the end, if the consumer acknowledges each message. -/
def lastCommitted (auto : Bool) (polls : List Poll) (committed : Option Int) : Option Int :=
  if auto then committed else (offsets polls).getLast?.or committed

/-- What a replay brings that has come to some place in a file. Neither what has been acknowledged
nor who acknowledges matters to it. -/
structure Remains (chunks : List (List UInt8)) (next : Int) (exhausted : Bool)
    (polls : List Poll) : Prop where
  lines : Replays (lineContents chunks.flatten) polls
  ascending : (offsets polls).Pairwise (· < ·)
  bounded : ∀ o ∈ offsets polls, next ≤ o
  brings : ∀ (auto : Bool) (committed : Option Int), ∃ read : Int,
    source.Brings auto ⟨[], read, true, lastCommitted auto polls committed⟩
      ⟨chunks, next, exhausted, committed⟩ polls

section Lines

variable {chunks : List (List UInt8)} {next : Int} {exhausted : Bool} {polls : List Poll}

theorem firstLine_takeLine? (h : takeLine? chunks = some (line, rest)) :
    FirstLine chunks.flatten line rest.flatten := by
  have htake := firstLine_takeLineFrom? List.not_mem_nil chunks
  rwa [← takeLine?, h] at htake

theorem remains_done (h : takeLine? chunks = none) : Remains chunks next exhausted [] where
  lines := by
    have htake := firstLine_takeLineFrom? List.not_mem_nil chunks
    rw [← takeLine?, h] at htake
    rw [show chunks.flatten = [] from htake, lineContents_nil]
    exact .done
  ascending := .nil
  bounded := fun _ ho => absurd ho List.not_mem_nil
  brings := by
    intro auto committed
    have hcommitted : lastCommitted auto [] committed = committed := ite_self committed
    rw [hcommitted]
    exact ⟨next, .exhausted (poll_done h) rfl⟩

/-- A line that is no text brings a failure. -/
theorem Remains.broken (hmore : Remains rest next exhausted polls)
    (h : takeLine? chunks = some (line, rest)) {d : Text.Utf8.Defect}
    (hd : decode line = .error d) :
    Remains chunks next exhausted (.failed (.io (defectMessage d)) :: polls) where
  lines := by
    rw [(firstLine_takeLine? h).contents]
    refine .broken (decode?_eq_none_iff.mp ?_) hmore.lines
    rw [← Option.map_eq_none_iff, blank_stripEnd, decode?, hd]
    rfl
  ascending := hmore.ascending
  bounded := hmore.bounded
  brings := by
    intro auto committed
    obtain ⟨read, hbrings⟩ := hmore.brings auto committed
    exact ⟨read, .failed (poll_broken h hd) hbrings⟩

/-- The contents of a line of text, too, are text, and just as blank. -/
theorem contents_text {t : String} (ht : decode line = .ok t) :
    ∃ s, stripEnd line = encode s ∧ allBlank s = allBlank t := by
  have hblank := blank_stripEnd line
  rw [decode?_eq_some_iff.mpr (decode_eq_ok_iff.mp ht)] at hblank
  obtain ⟨s, hs, hsame⟩ := Option.map_eq_some_iff.mp hblank
  exact ⟨s, decode?_eq_some_iff.mp hs, hsame⟩

/-- A blank line is passed over. -/
theorem Remains.blank (hmore : Remains rest (next + 1) exhausted polls)
    (h : takeLine? chunks = some (line, rest)) {t : String} (ht : decode line = .ok t)
    (hblank : allBlank t) : Remains chunks next exhausted polls where
  lines := by
    obtain ⟨s, hs, hsame⟩ := contents_text ht
    rw [(firstLine_takeLine? h).contents]
    exact .blank hs (hsame.trans hblank) hmore.lines
  ascending := hmore.ascending
  bounded := fun o ho => Int.le_of_lt (hmore.bounded o ho)
  brings := by
    intro auto committed
    obtain ⟨read, hbrings⟩ := hmore.brings auto committed
    exact ⟨read, hbrings.of_poll_eq ((poll_text h ht).trans (if_pos hblank))⟩

/-- A line of text that is not blank brings a message. -/
theorem Remains.shown (hmore : Remains rest (next + 1) exhausted polls)
    (h : takeLine? chunks = some (line, rest)) {t : String} (ht : decode line = .ok t)
    (hshown : ¬ allBlank t) :
    Remains chunks next exhausted (.message (message next (stripEnd line)) :: polls) where
  lines := by
    obtain ⟨s, hs, hsame⟩ := contents_text ht
    rw [(firstLine_takeLine? h).contents]
    exact .message hs (hsame.trans (Bool.eq_false_iff.mpr hshown)) rfl hmore.lines
  ascending := List.pairwise_cons.mpr ⟨hmore.bounded, hmore.ascending⟩
  bounded := by
    rintro o (_ | ⟨_, ho⟩)
    · exact Int.le_refl next
    · exact Int.le_of_lt (hmore.bounded o ho)
  brings := by
    intro auto committed
    have hpoll := (poll_text (s := ⟨chunks, next, exhausted, committed⟩) h ht).trans (if_neg hshown)
    cases auto with
    | true =>
      obtain ⟨read, hbrings⟩ := hmore.brings true committed
      exact ⟨read, .message hpoll hbrings⟩
    | false =>
      obtain ⟨read, hbrings⟩ := hmore.brings false (some next)
      refine ⟨read, .message hpoll ?_⟩
      have hlast : lastCommitted false polls (some next) =
          lastCommitted false (.message (message next (stripEnd line)) :: polls) committed := by
        show (offsets polls).getLast?.or (some next) = (next :: offsets polls).getLast?.or committed
        rw [List.getLast?_cons]
        cases (offsets polls).getLast? <;> rfl
      rwa [← hlast]

end Lines

/-- **From anywhere in a file, a replay brings what the lines that are left bring.** -/
theorem remains (chunks : List (List UInt8)) (next : Int) (exhausted : Bool) :
    ∃ polls, Remains chunks next exhausted polls := by
  cases htaken : takeLine? chunks with
  | none => exact ⟨[], remains_done htaken⟩
  | some taken =>
    obtain ⟨line, rest⟩ := taken
    cases hdecode : decode line with
    | error d =>
      obtain ⟨polls, hmore⟩ := remains rest next exhausted
      exact ⟨_, hmore.broken htaken hdecode⟩
    | ok t =>
      obtain ⟨polls, hmore⟩ := remains rest (next + 1) exhausted
      by_cases hblank : allBlank t
      · exact ⟨_, hmore.blank htaken hdecode hblank⟩
      · exact ⟨_, hmore.shown htaken hdecode hblank⟩
termination_by chunks.flatten.length
decreasing_by all_goals exact takeLine?_shorter htaken

/-! ## Repeated polls -/

/-- The state after so many polls. -/
def after (s : JsonLines) : Nat → JsonLines
  | 0 => s
  | n + 1 => after s.poll.2.2 n

/-- A replay is exhausted by a poll that brings nothing, and by no other. -/
theorem exhausted_poll (s : JsonLines) :
    s.poll.2.2.exhausted = true ↔ s.exhausted = true ∨ s.poll.1 = .nothing := by
  fun_induction poll s with
  | case1 s h => simp
  | case2 s line rest h d hd => simp
  | case3 s line rest h t ht next hblank ih => exact ih
  | case4 s line rest h t ht next hshown => simp [next]

/-- At the end of a file a replay stays as it is. -/
theorem after_end (read : Int) (committed : Option Int) (n : Nat) :
    after ⟨[], read, true, committed⟩ n = ⟨[], read, true, committed⟩ := by
  induction n with
  | zero => rfl
  | succ n ih =>
    rw [after, poll_done rfl]
    exact ih

/-- **Polled again and again, a replay brings its polls one by one and then nothing**, and it is
exhausted once it has brought nothing. -/
theorem poll_after {read : Int} {committed : Option Int} {s : JsonLines} {polls : List Poll}
    (h : source.Brings true ⟨[], read, true, committed⟩ s polls) (hs : s.exhausted = false)
    (n : Nat) :
    (s.after n).poll.1 = polls.getD n .nothing ∧
      (s.after n).exhausted = decide (polls.length < n) := by
  -- a poll that brings something leaves the replay unexhausted
  have hgoes : ∀ {s next : JsonLines} {p : Poll} {records : List Log.Record},
      source.poll s = (p, records, next) → p ≠ .nothing → s.exhausted = false →
        next.exhausted = false := by
    intro s next p records hpoll hp hs
    have hiff := exhausted_poll s
    rw [show s.poll = _ from hpoll, hs] at hiff
    simpa [hp] using hiff
  induction h generalizing n with
  | @exhausted state records hpoll _ =>
    cases n with
    | zero => exact ⟨congrArg Prod.fst hpoll, hs⟩
    | succ n =>
      rw [after, show state.poll = _ from hpoll, after_end, poll_done rfl]
      simp
  | @idle state next _ _ hpoll hended _ _ =>
    have hiff := exhausted_poll state
    rw [show state.poll = _ from hpoll] at hiff
    have hexhausted := hiff.mpr (.inr rfl)
    rw [show next.exhausted = false from hended] at hexhausted
    cases hexhausted
  | @failed state _ _ _ _ hpoll _ ih =>
    have hnext := hgoes hpoll nofun hs
    cases n with
    | zero => exact ⟨congrArg Prod.fst hpoll, hs⟩
    | succ n =>
      rw [after, show state.poll = _ from hpoll]
      simpa using ih hnext n
  | @message state _ _ _ _ hpoll _ ih =>
    have hnext := hgoes hpoll nofun hs
    cases n with
    | zero => exact ⟨congrArg Prod.fst hpoll, hs⟩
    | succ n =>
      rw [after, show state.poll = _ from hpoll]
      simpa [Source.settle] using ih hnext n

end JsonLines

/-- **A file is replayed line by line, with nothing lost and nothing twice**, in whatever chunks it
comes. Polls bring what its lines bring, one after another and with ascending offsets, and then
nothing for ever; with the first nothing the replay is exhausted. So a consumer comes to an end, at
the latest one turn after the last line, and has the last message acknowledged if that is left to
it. -/
theorem replay_lines (chunks : List (List UInt8)) :
    ∃ polls : List Poll,
      Replays (lineContents chunks.flatten) polls ∧
      polls.length ≤ (lineContents chunks.flatten).length ∧
      (offsets polls).Pairwise (· < ·) ∧
      (∀ n : Nat,
        let s := (JsonLines.ofChunks chunks).after n
        (JsonLines.source.poll s).1 = polls.getD n .nothing ∧
          JsonLines.source.isExhausted s = decide (polls.length < n)) ∧
      ∀ (k : Consumer) (w : World) (j : Journal) (extra : Nat),
        let turns := (lineContents chunks.flatten).length + 1 + extra
        let (_, halt, last, _) :=
          (consume k JsonLines.source turns (JsonLines.ofChunks chunks)).run w j
        halt = .exhausted ∧
          last.committed = if k.autoCommit then none else (offsets polls).getLast? := by
  obtain ⟨polls, hpolls⟩ := JsonLines.remains chunks 0 false
  have hlength := hpolls.lines.length_le
  refine ⟨polls, hpolls.lines, hlength, hpolls.ascending, ?_, ?_⟩
  · intro n
    obtain ⟨read, hbrings⟩ := hpolls.brings true none
    exact JsonLines.poll_after hbrings rfl n
  · intro k w j extra
    obtain ⟨read, hbrings⟩ := hpolls.brings k.autoCommit none
    have hfuel : polls.length < (lineContents chunks.flatten).length + 1 + extra := by omega
    obtain ⟨hhalt, hlast⟩ := consume_exhausts (w := w) hbrings hfuel j
    refine ⟨hhalt, (congrArg JsonLines.committed hlast).trans ?_⟩
    exact if_congr Iff.rfl rfl Option.or_none

end UsageFeed
