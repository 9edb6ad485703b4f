import UsageFeed.Csv.Record

/-!
# `UsageFeed.Proofs.CsvWriting` — records read as they were written

A writer of records is free to quote any cell, to end a line in any of three ways and to leave lines
blank. Reading gives the cells back.

## Contents
- **Writing.** `writeCell`, `writeRecord`, `LineEnd` and `writeRecords`.
- **Places.** What `scan` does with a whole cell (`scan_cell`), a whole record (`scan_record`) and
  blank lines (`scan_blank`); `Position.after`, where it then stands.
- **Files.** `recordsFrom_write`.
-/

namespace UsageFeed.Csv

/-! ## Writing -/

/-- Whether a cell can be written in quotes alone. -/
def needsQuotes (cell : List UInt8) : Bool :=
  cell.any fun b => b == comma || b == quote || isTerminator b

/-- A byte inside quotes: a quote stands there twice. -/
def double (b : UInt8) : List UInt8 := if b = quote then [quote, quote] else [b]

/-- A cell as it is written, in quotes if this is asked for or necessary. -/
def writeCell (quoted : Bool) (cell : List UInt8) : List UInt8 :=
  if quoted || needsQuotes cell then quote :: (cell.flatMap double ++ [quote]) else cell

/-- Cells as they are written into one line. -/
def writeRecord (cells : List (Bool × List UInt8)) : List UInt8 :=
  [comma].intercalate (cells.map fun c => writeCell c.1 c.2)

/-- The ways in which a line can end. -/
inductive LineEnd where
  | feed
  | carriageReturn
  | both
  deriving DecidableEq, Repr

/-- What is written at the end of a line. -/
def LineEnd.bytes : LineEnd → List UInt8
  | feed => [0x0A]
  | carriageReturn => [0x0D]
  | both => [0x0D, 0x0A]

/-- Ends of lines one after another: all but the first are those of blank lines. -/
def blanks (ends : List LineEnd) : List UInt8 := ends.flatMap LineEnd.bytes

/-- Records as they are written, each with the ends of lines after it. -/
def writeRecords (records : List (List (Bool × List UInt8) × List LineEnd)) : List UInt8 :=
  records.flatMap fun r => writeRecord r.1 ++ blanks r.2

theorem writeRecord_cons (c : Bool × List UInt8) (more : List (Bool × List UInt8)) :
    writeRecord (c :: more) =
      writeCell c.1 c.2 ++ more.flatMap fun d => comma :: writeCell d.1 d.2 := by
  induction more generalizing c with
  | nil =>
    rw [List.flatMap_nil, List.append_nil]
    exact List.intercalate_singleton
  | cons d more ih =>
    have hrecord : writeRecord (c :: d :: more) =
        writeCell c.1 c.2 ++ [comma] ++ writeRecord (d :: more) := List.intercalate_cons_cons
    rw [hrecord, ih, List.flatMap_cons, List.append_assoc]
    rfl

/-- Between two cells there is a comma. -/
theorem writeRecord_ne_nil {cells : List (Bool × List UInt8)} (h : 2 ≤ cells.length) :
    writeRecord cells ≠ [] := by
  match cells, h with
  | c :: d :: more, _ =>
    rw [writeRecord_cons, List.flatMap_cons]
    simp

theorem isTerminator_blanks (ends : List LineEnd) : ∀ b ∈ blanks ends, isTerminator b := by
  intro b hb
  obtain ⟨e, _, hb⟩ := List.mem_flatMap.mp hb
  cases e <;> simp [LineEnd.bytes] at hb
  · rw [hb]; rfl
  · rw [hb]; rfl
  · rcases hb with rfl | rfl <;> rfl

theorem not_needsQuotes {b : UInt8} {cell : List UInt8} (h : needsQuotes (b :: cell) = false) :
    (b ≠ comma ∧ b ≠ quote ∧ isTerminator b = false) ∧ needsQuotes cell = false := by
  simpa [needsQuotes, and_assoc] using h

/-! ## Places -/

/-- The place after some bytes. -/
def Position.after (p : Position) (bytes : List UInt8) : Position := bytes.foldl Position.step p

@[simp] theorem Position.after_nil (p : Position) : p.after [] = p := rfl

@[simp] theorem Position.after_cons (p : Position) (b : UInt8) (bytes : List UInt8) :
    p.after (b :: bytes) = (p.step b).after bytes := rfl

@[simp] theorem Position.after_append (p : Position) (a b : List UInt8) :
    p.after (a ++ b) = (p.after a).after b := List.foldl_append

variable {place : Place} {p : Position} {cell rest : List UInt8} {cells : List (List UInt8)}

theorem scan_comma (hplace : place ≠ .quoted) :
    scan place p cell cells (comma :: rest) =
      scan .start (p.step comma) [] (cell.reverse :: cells) rest := by
  cases place with
  | quoted => contradiction
  | outside | start | plain | closing => rfl

theorem scan_terminator (hquoted : place ≠ .quoted) (houtside : place ≠ .outside) {b : UInt8}
    (hb : isTerminator b) :
    scan place p cell cells (b :: rest) =
      some ((cell.reverse :: cells).reverse, p.step b, rest) := by
  have hquote : b ≠ quote := by
    rintro rfl
    cases hb
  cases place with
  | quoted | outside => contradiction
  | start | plain | closing => simp [scan, hquote, hb]

theorem scan_end (houtside : place ≠ .outside) :
    scan place p cell cells [] = some ((cell.reverse :: cells).reverse, p, []) := by
  cases place with
  | outside => contradiction
  | quoted | start | plain | closing => rfl

/-- In quotes, each byte is read as it was written. -/
theorem scan_doubled (more : List UInt8) :
    scan .quoted p cell cells (more.flatMap double ++ rest) =
      scan .quoted (p.after (more.flatMap double)) (more.reverse ++ cell) cells rest := by
  induction more generalizing p cell with
  | nil => rfl
  | cons b more ih =>
    rw [List.flatMap_cons, List.append_assoc, Position.after_append, List.reverse_cons,
      List.append_assoc]
    by_cases hb : b = quote
    · rw [double, if_pos hb, hb]
      exact ih
    · rw [double, if_neg hb, List.singleton_append, scan, if_neg hb, ih]
      rfl

/-- Without quotes, too, as long as no byte has a meaning of its own. -/
theorem scan_bare {more : List UInt8} (hmore : needsQuotes more = false) :
    scan .plain p cell cells (more ++ rest) =
      scan .plain (p.after more) (more.reverse ++ cell) cells rest := by
  induction more generalizing p cell with
  | nil => rfl
  | cons b more ih =>
    obtain ⟨⟨hcomma, hquote, hterminator⟩, hmore⟩ := not_needsQuotes hmore
    have hstep : scan .plain p cell cells (b :: (more ++ rest)) =
        scan .plain (p.step b) (b :: cell) cells (more ++ rest) := by
      simp [scan, hcomma, hquote, hterminator]
    rw [List.cons_append, hstep, ih hmore, List.reverse_cons, List.append_assoc]
    rfl

/-- **A cell that is written is read to its end**, where only the end of the record or a comma can
follow it. Nothing is read of a cell of which nothing is written. -/
theorem scan_cell (hplace : place = .outside ∨ place = .start) (quoted : Bool)
    (content : List UInt8) :
    ∃ place', place' ≠ .quoted ∧
      (place' = .outside → place = .outside ∧ writeCell quoted content = []) ∧
      ∀ p cells rest, scan place p [] cells (writeCell quoted content ++ rest) =
        scan place' (p.after (writeCell quoted content)) content.reverse cells rest := by
  unfold writeCell
  by_cases hquotes : (quoted || needsQuotes content) = true
  · rw [if_pos hquotes]
    refine ⟨.closing, nofun, nofun, fun p cells rest => ?_⟩
    have hopen : ∀ s, scan place p [] cells (quote :: s) =
        scan .quoted (p.step quote) [] cells s := by
      intro s
      rcases hplace with rfl | rfl <;> rfl
    rw [List.cons_append, hopen, List.append_assoc, scan_doubled, Position.after_cons,
      Position.after_append, List.append_nil]
    rfl
  · rw [if_neg hquotes]
    have hbare : needsQuotes content = false := by
      simp only [Bool.or_eq_true, not_or, Bool.not_eq_true] at hquotes
      exact hquotes.2
    cases content with
    | nil =>
      have hquoted : place ≠ .quoted := by rcases hplace with rfl | rfl <;> nofun
      exact ⟨place, hquoted, fun h => ⟨h, rfl⟩, fun _ _ _ => rfl⟩
    | cons b content =>
      refine ⟨.plain, nofun, nofun, fun p cells rest => ?_⟩
      obtain ⟨⟨hcomma, hquote, hterminator⟩, hcontent⟩ := not_needsQuotes hbare
      have hfirst : ∀ s, scan place p [] cells (b :: s) = scan .plain (p.step b) [b] cells s := by
        intro s
        rcases hplace with rfl | rfl <;> simp [scan, hcomma, hquote, hterminator]
      rw [List.cons_append, hfirst, scan_bare hcontent, List.reverse_cons]
      rfl

/-- What may stand after a record. -/
def EndsRecord (rest : List UInt8) : Prop := ∀ b ∈ rest.head?, isTerminator b

/-- **A record that is written is read to its end**, with the cells that were written. -/
theorem scan_record (cells : List (List UInt8)) {written : List (Bool × List UInt8)}
    (hplace : place = .outside ∨ place = .start)
    (hwritten : place = .outside → writeRecord written ≠ []) (hcells : written ≠ [])
    (hrest : EndsRecord rest) :
    scan place p [] cells (writeRecord written ++ rest) =
      some (cells.reverse ++ written.map Prod.snd, p.after (writeRecord written ++ rest.take 1),
        rest.drop 1) := by
  induction written generalizing place p cells with
  | nil => contradiction
  | cons c more ih =>
    obtain ⟨quoted, content⟩ := c
    cases more with
    | nil =>
      have hrecord : writeRecord [(quoted, content)] = writeCell quoted content := by
        rw [writeRecord_cons]
        exact List.append_nil _
      rw [hrecord] at hwritten ⊢
      obtain ⟨place', hquoted, hempty, hscan⟩ := scan_cell hplace quoted content
      have houtside : place' ≠ .outside := fun h => hwritten (hempty h).1 (hempty h).2
      rw [hscan]
      cases rest with
      | nil =>
        rw [scan_end houtside]
        simp
      | cons b rest =>
        rw [scan_terminator hquoted houtside (hrest b rfl)]
        simp
    | cons c' more =>
      have hrecord : writeRecord ((quoted, content) :: c' :: more) =
          writeCell quoted content ++ comma :: writeRecord (c' :: more) := by
        rw [writeRecord_cons, writeRecord_cons, List.flatMap_cons]
        rfl
      obtain ⟨place', hquoted, _, hscan⟩ := scan_cell hplace quoted content
      rw [hrecord, List.append_assoc, List.cons_append, hscan, scan_comma hquoted,
        ih _ (.inr rfl) nofun (List.cons_ne_nil _ _)]
      simp

/-- Blank lines before a record are passed over. -/
theorem scan_blank {blank : List UInt8} (hblank : ∀ b ∈ blank, isTerminator b) :
    scan .outside p [] [] (blank ++ rest) = scan .outside (p.after blank) [] [] rest := by
  induction blank generalizing p with
  | nil => rfl
  | cons b blank ih =>
    obtain ⟨hb, hblank⟩ := List.forall_mem_cons.mp hblank
    have hquote : b ≠ quote := by
      rintro rfl
      cases hb
    rw [List.cons_append, scan]
    · simp only [hquote, hb, decide_false, Bool.false_and, if_false, if_true, Bool.false_eq_true]
      exact ih hblank
    · intro hplace
      cases hplace

/-! ## Files -/

theorem recordsFrom_none {index : Nat} {s : List UInt8} (h : scan .outside p [] [] s = none) :
    recordsFrom index p s = [] := by
  rw [recordsFrom]
  split
  · rfl
  · rename_i heq
    rw [h] at heq
    cases heq

theorem recordsFrom_some {index : Nat} {q : Position} {s : List UInt8}
    (h : scan .outside p [] [] s = some (cells, q, rest)) :
    recordsFrom index p s = ⟨index, p, cells⟩ :: recordsFrom (index + 1) q rest := by
  rw [recordsFrom]
  split
  · rename_i heq
    rw [h] at heq
    cases heq
  · rename_i heq
    rw [h] at heq
    cases heq
    rfl

/-- Where nothing is written but ends of lines, there are no records. -/
theorem recordsFrom_blank {blank : List UInt8} (hblank : ∀ b ∈ blank, isTerminator b) (index : Nat)
    (p : Position) : recordsFrom index p blank = [] := by
  refine recordsFrom_none ?_
  rw [← List.append_nil blank, scan_blank hblank]
  rfl

/-- After a record stands the end of its line, or nothing after the last one; after that end, blank
lines. -/
theorem endsRecord_blanks {ends : List LineEnd}
    {more : List (List (Bool × List UInt8) × List LineEnd)} (h : more = [] ∨ ends ≠ []) :
    EndsRecord (blanks ends ++ writeRecords more) ∧
      ∃ blank, (blanks ends ++ writeRecords more).drop 1 = blank ++ writeRecords more ∧
        ∀ b ∈ blank, isTerminator b := by
  have hterminators := isTerminator_blanks ends
  cases hbytes : blanks ends with
  | cons b bytes =>
    rw [hbytes] at hterminators
    refine ⟨?_, bytes, rfl, fun b hb => hterminators b (List.mem_cons_of_mem _ hb)⟩
    rintro _ ⟨⟩
    exact hterminators b List.mem_cons_self
  | nil =>
    have hlast : more = [] := by
      refine h.resolve_right fun hne => ?_
      obtain ⟨e, ends, rfl⟩ := List.exists_cons_of_ne_nil hne
      cases e <;> cases hbytes
    subst hlast
    exact ⟨nofun, [], rfl, nofun⟩

/-- **Records are read with the cells that were written**, if something is written of each and the
line of each is ended. Only the last line need not be ended. -/
theorem recordsFrom_write {records : List (List (Bool × List UInt8) × List LineEnd)}
    (hwritten : ∀ r ∈ records, writeRecord r.1 ≠ [])
    (hends : ∀ (i : Nat) (r : _ × _), records[i]? = some r → i + 1 < records.length → r.2 ≠ [])
    {blank : List UInt8} (hblank : ∀ b ∈ blank, isTerminator b) (index : Nat) (p : Position) :
    (recordsFrom index p (blank ++ writeRecords records)).map Record.cells =
      records.map fun r => r.1.map Prod.snd := by
  induction records generalizing blank index p with
  | nil =>
    rw [writeRecords, List.flatMap_nil, List.append_nil, recordsFrom_blank hblank]
    rfl
  | cons r more ih =>
    obtain ⟨written, ends⟩ := r
    obtain ⟨hfirst, hmore⟩ := List.forall_mem_cons.mp hwritten
    have hcells : written ≠ [] := by
      rintro rfl
      exact hfirst rfl
    have hlater : ∀ (i : Nat) (r : _ × _), more[i]? = some r → i + 1 < more.length → r.2 ≠ [] :=
      fun i r hr hi => hends (i + 1) r hr (Nat.succ_lt_succ hi)
    have hended : more = [] ∨ ends ≠ [] := by
      cases more with
      | nil => exact .inl rfl
      | cons r more => exact .inr (hends 0 _ rfl (Nat.succ_lt_succ (Nat.succ_pos _)))
    obtain ⟨hrest, blank', hdrop, hblank'⟩ := endsRecord_blanks hended
    have hscan := scan_record (p := p.after blank) [] (.inl rfl) (fun _ => hfirst) hcells hrest
    rw [← scan_blank hblank, hdrop] at hscan
    rw [writeRecords, List.flatMap_cons, ← writeRecords, List.append_assoc,
      recordsFrom_some hscan, List.map_cons, List.map_cons, ih hmore hlater hblank']
    rfl

end UsageFeed.Csv
