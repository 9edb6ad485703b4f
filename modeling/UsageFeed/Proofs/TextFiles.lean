import UsageFeed.Proofs.CsvWriting
import UsageFeed.Proofs.Encoding

/-!
# `UsageFeed.Proofs.TextFiles` — the cells of a text are texts

Records are cut at single bytes below 0x80, and in a text such a byte is a character. So no cell
ends inside a character, and if a file is text, then so are all its cells.

## Contents
- **Bytes.** `scan_cons`, what one byte can do to a record, and `scan_high`, what the bytes of a
  longer character do.
- **Records.** `isWritten_of_scan`, and `cells_of_records` for all records of a file.
-/

namespace UsageFeed.Csv

open Text.Utf8 (encode dropMark next_eq_char_iff encodeChar_cases)

/-! ## Bytes -/

/-- **What one byte can do to a record.** It goes into the cell at hand, or else it is below 0x80
and is left out, or ends the cell, or ends the record. -/
theorem scan_cons (place : Place) (p : Position) (cell : List UInt8) (cells : List (List UInt8))
    (b : UInt8) (s : List UInt8) : ∃ place' p',
      scan place p cell cells (b :: s) = scan place' p' (b :: cell) cells s ∨
        b.toNat < 0x80 ∧
          (scan place p cell cells (b :: s) = scan place' p' cell cells s ∨
            scan place p cell cells (b :: s) = scan place' p' [] (cell.reverse :: cells) s ∨
            scan place p cell cells (b :: s) = some ((cell.reverse :: cells).reverse, p', s)) := by
  have hquote : quote.toNat < 0x80 := by decide
  have hcomma : comma.toNat < 0x80 := by decide
  have hend : isTerminator b → b.toNat < 0x80 := by
    intro h
    rcases (by simpa [isTerminator] using h : b = 0x0A ∨ b = 0x0D) with rfl | rfl <;> decide
  cases place with
  | quoted =>
    simp only [scan]
    by_cases hb : b = quote
    · exact ⟨_, _, .inr ⟨hb ▸ hquote, .inl (if_pos hb)⟩⟩
    · exact ⟨_, _, .inl (if_neg hb)⟩
  | outside | start | plain | closing =>
    simp only [scan]
    repeat' split
    all_goals first
      | exact ⟨_, _, .inl rfl⟩
      | (refine ⟨_, _, .inr ⟨?_, .inl rfl⟩⟩; simp_all)
      | (refine ⟨_, _, .inr ⟨?_, .inr (.inl rfl)⟩⟩; simp_all)
      | (refine ⟨.outside, _, .inr ⟨?_, .inr (.inr rfl)⟩⟩; simp_all)

/-- Bytes from 0x80 on all go into the cell at hand. -/
theorem scan_high {high : List UInt8} (h : ∀ b ∈ high, 0x80 ≤ b.toNat) (place : Place)
    (p : Position) (cell : List UInt8) (cells : List (List UInt8)) (s : List UInt8) :
    ∃ place' p', scan place p cell cells (high ++ s) =
      scan place' p' (high.reverse ++ cell) cells s := by
  induction high generalizing place p cell with
  | nil => exact ⟨place, p, rfl⟩
  | cons b high ih =>
    obtain ⟨hb, hhigh⟩ := List.forall_mem_cons.mp h
    obtain ⟨place', p', hstep | ⟨hlow, _⟩⟩ := scan_cons place p cell cells b (high ++ s)
    · obtain ⟨place'', p'', hrest⟩ := ih hhigh place' p' (b :: cell)
      refine ⟨place'', p'', ?_⟩
      rw [List.cons_append, hstep, hrest, List.reverse_cons, List.append_assoc]
      rfl
    · exact absurd hlow (by omega)

/-! ## Records -/

/-- Bytes that a text is written as. -/
def IsWritten (bytes : List UInt8) : Prop :=
  ∃ cs : List Char, bytes = cs.flatMap String.utf8EncodeChar

theorem isWritten_iff {bytes : List UInt8} : IsWritten bytes ↔ ∃ s, bytes = encode s := by
  constructor
  · rintro ⟨cs, rfl⟩
    exact ⟨String.ofList cs, by rw [encode, String.toList_ofList]⟩
  · rintro ⟨s, rfl⟩
    exact ⟨s.toList, rfl⟩

theorem IsWritten.append {a b : List UInt8} (ha : IsWritten a) (hb : IsWritten b) :
    IsWritten (a ++ b) := by
  obtain ⟨cs, rfl⟩ := ha
  obtain ⟨ds, rfl⟩ := hb
  exact ⟨cs ++ ds, List.flatMap_append.symm⟩

/-- The cells of a record that ends, the one at hand with the others. -/
theorem isWritten_ended {cell : List UInt8} {cells : List (List UInt8)}
    (hcell : IsWritten cell.reverse) (hcells : ∀ c ∈ cells, IsWritten c) :
    ∀ c ∈ (cell.reverse :: cells).reverse, IsWritten c := by
  intro c hc
  rcases List.mem_cons.mp (List.mem_reverse.mp hc) with rfl | hc
  · exact hcell
  · exact hcells c hc

/-- **A record of a text has texts in its cells**, and what is left of the file is a text again.
The induction is on the characters: before each of them what the cell at hand holds is a text. -/
theorem isWritten_of_scan {cs : List Char} {place : Place} {p q : Position} {cell rest : List UInt8}
    {cells found : List (List UInt8)} (hcell : IsWritten cell.reverse)
    (hcells : ∀ c ∈ cells, IsWritten c)
    (h : scan place p cell cells (cs.flatMap String.utf8EncodeChar) = some (found, q, rest)) :
    (∀ c ∈ found, IsWritten c) ∧ IsWritten rest := by
  induction cs generalizing place p cell cells with
  | nil =>
    rw [List.flatMap_nil] at h
    unfold scan at h
    split at h
    · cases h
    · cases h
      exact ⟨isWritten_ended hcell hcells, [], rfl⟩
    all_goals contradiction
  | cons c cs ih =>
    have hchar : IsWritten (String.utf8EncodeChar c) := ⟨[c], (List.flatMap_singleton ..).symm⟩
    rw [List.flatMap_cons] at h
    rcases encodeChar_cases c with ⟨hlow, hencode⟩ | ⟨_, hhigh⟩
    · rw [hencode] at h hchar
      obtain ⟨place', p', hstep | ⟨_, hstep | hstep | hstep⟩⟩ :=
        scan_cons place p cell cells (UInt8.ofNat c.toNat) (cs.flatMap String.utf8EncodeChar)
      all_goals rw [List.singleton_append, hstep] at h
      · refine ih ?_ hcells h
        rw [List.reverse_cons]
        exact hcell.append hchar
      · exact ih hcell hcells h
      · exact ih ⟨[], rfl⟩ (List.forall_mem_cons.mpr ⟨hcell, hcells⟩) h
      · cases h
        exact ⟨isWritten_ended hcell hcells, cs, rfl⟩
    · obtain ⟨place', p', hstep⟩ :=
        scan_high hhigh place p cell cells (cs.flatMap String.utf8EncodeChar)
      rw [hstep] at h
      refine ih ?_ hcells h
      rw [List.reverse_append, List.reverse_reverse]
      exact hcell.append hchar

/-- A byte order mark is a character, so a text without it is a text. -/
theorem isWritten_dropMark {bytes : List UInt8} (h : IsWritten bytes) :
    IsWritten (dropMark bytes) := by
  unfold dropMark
  split
  · rename_i hmark
    obtain ⟨rest, hrest⟩ := List.isPrefixOf_iff_prefix.mp hmark
    have hnext : Text.Utf8.next bytes = .char '\uFEFF' rest := next_eq_char_iff.mpr hrest.symm
    obtain ⟨cs, rfl⟩ := h
    cases cs with
    | nil => cases hnext
    | cons c cs =>
      have hfirst : Text.Utf8.next ((c :: cs).flatMap String.utf8EncodeChar) = .char c _ :=
        next_eq_char_iff.mpr List.flatMap_cons
      obtain ⟨rfl, rfl⟩ := Text.Utf8.Next.char.inj (hfirst.symm.trans hnext)
      exact ⟨cs, rfl⟩
  · exact h

theorem isWritten_recordsFrom (index : Nat) (p : Position) {bytes : List UInt8}
    (h : IsWritten bytes) : ∀ r ∈ recordsFrom index p bytes, ∀ c ∈ r.cells, IsWritten c := by
  fun_induction recordsFrom index p bytes with
  | case1 => exact nofun
  | case2 index p bytes cells q rest hscan ih =>
    obtain ⟨cs, rfl⟩ := h
    obtain ⟨hcells, hrest⟩ :=
      isWritten_of_scan ⟨[], rfl⟩ (fun _ hc => absurd hc List.not_mem_nil) hscan
    exact List.forall_mem_cons.mpr ⟨hcells, ih hrest⟩

/-- **If a file is text, so are the cells of all its records.** -/
theorem cells_of_records (text : String) :
    ∀ r ∈ records (encode text), ∀ cell ∈ r.cells, ∃ s, cell = encode s := by
  intro r hr cell hcell
  have hwritten : IsWritten (encode text) := isWritten_iff.mpr ⟨text, rfl⟩
  exact isWritten_iff.mp (isWritten_recordsFrom _ _ (isWritten_dropMark hwritten) r hr cell hcell)

end UsageFeed.Csv
