import UsageFeed.Source.Basic

/-!
# `UsageFeed.Source.JsonLines` — replaying events from a file

## Contents
- `takeLine?` and `stripEnd`, lines as they stand in a file, which comes in chunks, and their
  contents.
- `JsonLines`, the state of a replay, and `JsonLines.source`, which gives a message for each line
  that is text and not blank.
-/

namespace UsageFeed

/-! ## Lines -/

/-- The line feed. -/
def lineFeed : UInt8 := 0x0A

/-- Takes a line with its line feed off the front; the last line may lack one. Chunks are taken up
to the first that has a line feed in it, and `held` is what those before it hold of the line. -/
def takeLineFrom? (held : List UInt8) :
    List (List UInt8) → Option (List UInt8 × List (List UInt8))
  | [] => if held = [] then none else some (held, [])
  | chunk :: more =>
    match chunk.dropWhile (· != lineFeed) with
    | [] => takeLineFrom? (held ++ chunk) more
    | feed :: rest => some (held ++ chunk.takeWhile (· != lineFeed) ++ [feed], rest :: more)

/-- Takes a line with its line feed off the front; the last line may lack one. -/
def takeLine? (chunks : List (List UInt8)) : Option (List UInt8 × List (List UInt8)) :=
  takeLineFrom? [] chunks

/-- What is taken and what is left make up what there was. -/
theorem takeLineFrom?_append {held line : List UInt8} {chunks rest : List (List UInt8)}
    (h : takeLineFrom? held chunks = some (line, rest)) :
    line ≠ [] ∧ held ++ chunks.flatten = line ++ rest.flatten := by
  induction chunks generalizing held with
  | nil =>
    simp only [takeLineFrom?] at h
    split at h
    · cases h
    · cases h
      exact ⟨‹_›, rfl⟩
  | cons chunk more ih =>
    have hchunk := List.takeWhile_append_dropWhile (p := (· != lineFeed)) (l := chunk)
    rw [takeLineFrom?] at h
    split at h
    · rw [List.flatten_cons, ← List.append_assoc]
      exact ih h
    · rename_i feed after heq
      cases h
      rw [heq] at hchunk
      refine ⟨by simp, ?_⟩
      conv => lhs; rw [List.flatten_cons, ← hchunk]
      simp

/-- Taking a line shortens the file. -/
theorem takeLine?_shorter {line : List UInt8} {chunks rest : List (List UInt8)}
    (h : takeLine? chunks = some (line, rest)) : rest.flatten.length < chunks.flatten.length := by
  obtain ⟨hline, happend⟩ := takeLineFrom?_append h
  have hlength := congrArg List.length happend
  have hpos := List.length_pos_iff.mpr hline
  simp only [List.nil_append, List.length_append] at hlength
  omega

/-- The contents of a line: without its line feed and, if it has one, a carriage return before
it. -/
def stripEnd (line : List UInt8) : List UInt8 :=
  if line.getLast? = some lineFeed then
    let body := line.dropLast
    if body.getLast? = some 0x0D then body.dropLast else body
  else line

/-! ## The source -/

/-- The state of a replay. -/
structure JsonLines where
  /-- What has not been read, in the chunks in which it comes. -/
  chunks : List (List UInt8)
  /-- The number of lines of text read. -/
  nextLine : Int := 0
  exhausted : Bool := false
  /-- The offset acknowledged last. -/
  committed : Option Int := none
  deriving DecidableEq, Repr

namespace JsonLines

/-- A replay of a file from its beginning. -/
def ofChunks (chunks : List (List UInt8)) : JsonLines := { chunks := chunks }

/-- A replay of a file that comes at once. -/
def ofFile (file : List UInt8) : JsonLines := ofChunks [file]

/-- What is wrong with a line that is no text. -/
def defectMessage (d : Text.Utf8.Defect) : String :=
  match d.badLength with
  | some n =>
    "invalid utf-8 sequence of " ++ toString n ++ " bytes from index " ++ toString d.validLength
  | none => "incomplete utf-8 byte sequence from index " ++ toString d.validLength

/-- The message of a line. -/
def message (offset : Int) (payload : List UInt8) : Message := ⟨payload, "replay", 0, offset⟩

/-- Logged once all lines are read. -/
def exhaustedRecord (lines : Int) : Log.Record :=
  ⟨.debug, .replay, "Replay input exhausted", [("lines", .int lines)]⟩

/-- Reads lines up to one that is not blank. -/
def poll (s : JsonLines) : Poll × List Log.Record × JsonLines :=
  match _h : takeLine? s.chunks with
  | none =>
    (.nothing, if s.exhausted then [] else [exhaustedRecord s.nextLine],
      { s with chunks := [], exhausted := true })
  | some (line, rest) =>
    match Text.Utf8.decode line with
    | .error d => (.failed (.io (defectMessage d)), [], { s with chunks := rest })
    | .ok t =>
      let next := { s with chunks := rest, nextLine := s.nextLine + 1 }
      if Text.allBlank t then poll next
      else (.message (message s.nextLine (stripEnd line)), [], next)
termination_by s.chunks.flatten.length
decreasing_by exact takeLine?_shorter _h

/-- The replay as a source of messages. -/
def source : Source JsonLines where
  poll := poll
  commit s m := (.ok (), { s with committed := some m.offset })
  isExhausted s := s.exhausted

/-- Enough turns to read a file to its end: one for each line, and one to find nothing more. -/
def turnsFor (file : List UInt8) : Nat := file.count lineFeed + 2

end JsonLines
end UsageFeed
