import UsageFeed.Proofs.ColumnNames
import UsageFeed.Proofs.CsvWriting

/-!
# `UsageFeed.Proofs.Loading` — a table is loaded as a whole or not at all

Reading a file fails at its first record that cannot be read, whatever is wrong with the rows of
those before it. Where all records can be read, their rows make a table just if each of them says
where it belongs.

## Contents
- **Rows.** `Row.IsPlaced`, and `ofRows_accepts`, which rows make a table.
- **Columns.** `Column.StandsAt`, under which header cell a column stands.
- **Records.** `IsReadable`, which records can be read, and `Flaw.Describes`, what is wrong with the
  others; `readRecord_reads` and `readRecord_describes`.
- **Messages.** `Flaw.firstNumber_message`: a message names the number of its record.
- **Files.** `Loads`, what comes of a file, and `loading_law`; `Loads.named`, which record is named.
-/

namespace UsageFeed

namespace Csv

/-- Records are numbered in their order. -/
theorem index_recordsFrom {index i : Nat} {p : Position} {s : List UInt8} {r : Record}
    (h : (recordsFrom index p s)[i]? = some r) : r.index = index + i := by
  induction i generalizing index p s with
  | zero =>
    cases hscan : scan .outside p [] [] s with
    | none =>
      rw [recordsFrom_none hscan] at h
      cases h
    | some found =>
      obtain ⟨cells, q, rest⟩ := found
      rw [recordsFrom_some hscan] at h
      cases h
      rfl
  | succ i ih =>
    cases hscan : scan .outside p [] [] s with
    | none =>
      rw [recordsFrom_none hscan] at h
      cases h
    | some found =>
      obtain ⟨cells, q, rest⟩ := found
      rw [recordsFrom_some hscan, List.getElem?_cons_succ] at h
      rw [ih h]
      omega

end Csv

namespace Report

open Csv (Spells texts_eq_ok_iff spells_iff_decode textsFrom)
open Text (trim allBlank isBlank)
open Text.Utf8 (encode decode)

/-! ## Rows -/

/-- The row says where it belongs. -/
def Row.IsPlaced (r : Row) : Prop := r.ns ≠ "" ∧ r.deployment ≠ ""

/-- The column is the first of namespace and deployment that the row does not give. -/
inductive Row.LacksPlace (r : Row) : String → Prop
  | ns (empty : r.ns = "") : r.LacksPlace "namespace"
  | deployment (some : r.ns ≠ "") (empty : r.deployment = "") : r.LacksPlace "deployment_name"

theorem missingPlace?_eq_none_iff (r : Row) : r.missingPlace? = none ↔ r.IsPlaced := by
  unfold Row.missingPlace? Row.IsPlaced
  by_cases hns : r.ns = "" <;> by_cases hdeployment : r.deployment = "" <;>
    simp [hns, hdeployment]

theorem missingPlace?_eq_some {r : Row} {column : String} (h : r.missingPlace? = some column) :
    r.LacksPlace column := by
  unfold Row.missingPlace? at h
  split at h
  · cases h
    exact .ns ‹_›
  · split at h
    · cases h
      exact .deployment ‹_› ‹_›
    · cases h

/-- The row of that number, counted from one, is the first that does not say where it belongs. -/
def FirstMisplaced (rows : List Row) (number : Nat) (column : String) : Prop :=
  ∃ before r after, rows = before ++ r :: after ∧ (∀ b ∈ before, b.IsPlaced) ∧
    r.LacksPlace column ∧ number = before.length + 1

theorem firstMisplaced?_eq_none_iff (n : Nat) (rows : List Row) :
    firstMisplaced? n rows = none ↔ ∀ r ∈ rows, r.IsPlaced := by
  induction rows generalizing n with
  | nil => simp [firstMisplaced?]
  | cons r rows ih =>
    rw [firstMisplaced?, List.forall_mem_cons, ← missingPlace?_eq_none_iff r]
    cases r.missingPlace? with
    | none => simp [ih]
    | some column => simp

theorem firstMisplaced?_eq_some {n number : Nat} {column : String} {rows : List Row}
    (h : firstMisplaced? n rows = some (number, column)) :
    ∃ k, FirstMisplaced rows (k + 1) column ∧ number = n + k := by
  induction rows generalizing n with
  | nil => cases h
  | cons r rows ih =>
    rw [firstMisplaced?] at h
    cases hplace : r.missingPlace? with
    | some lacking =>
      rw [hplace] at h
      cases h
      refine ⟨0, ⟨[], r, rows, rfl, ?_, missingPlace?_eq_some hplace, rfl⟩, rfl⟩
      exact fun _ hb => absurd hb List.not_mem_nil
    | none =>
      rw [hplace] at h
      obtain ⟨k, ⟨before, r', after, rfl, hbefore, hlacks, hk⟩, hnumber⟩ := ih h
      have hr := (missingPlace?_eq_none_iff r).mp hplace
      refine ⟨k + 1, ⟨r :: before, r', after, rfl, List.forall_mem_cons.mpr ⟨hr, hbefore⟩, hlacks,
        congrArg (· + 1) hk⟩, ?_⟩
      rw [hnumber]
      omega

/-- What comes of rows: a table of them all in their order if each says where it belongs, and
otherwise the first that does not is blamed. -/
structure Accepts (rows : List Row) (result : Except Failure Table) : Prop where
  accepted : (∃ t, result = .ok t) ↔ ∀ r ∈ rows, r.IsPlaced
  whole : ∀ t, result = .ok t → t.rows = rows
  blamed : ∀ f, result = .error f →
    ∃ number column, FirstMisplaced rows number column ∧ f = .malformedReport number column

/-- **Rows make a table just if each of them says where it belongs.** -/
theorem ofRows_accepts (rows : List Row) : Accepts rows (Table.ofRows rows) := by
  have haccepted := firstMisplaced?_eq_none_iff 1 rows
  unfold Table.ofRows
  cases hfirst : firstMisplaced? 1 rows with
  | none =>
    have hplaced := haccepted.mp hfirst
    refine ⟨⟨fun _ => hplaced, fun _ => ⟨_, rfl⟩⟩, ?_, nofun⟩
    rintro t ht
    cases ht
    rfl
  | some found =>
    obtain ⟨number, column⟩ := found
    rw [hfirst] at haccepted
    obtain ⟨k, hmisplaced, hnumber⟩ := firstMisplaced?_eq_some hfirst
    obtain rfl : number = k + 1 := by omega
    refine ⟨⟨nofun, fun hplaced => absurd (haccepted.mpr hplaced) nofun⟩, nofun, ?_⟩
    rintro f hf
    cases hf
    exact ⟨k + 1, column, hmisplaced, rfl⟩

/-! ## Columns -/

/-- The column stands at a place of a file's records: below the header cell with its name, or under
a header that is no text where it comes in the order of the columns. -/
inductive Column.StandsAt (c : Column) (header : Csv.Record) (place : Nat) : Prop
  | named {name : List UInt8} (text : IsText header) (heading : header.cells[place]? = some name)
      (spelled : Spells name c.name) : c.StandsAt header place
  | ordered (noText : ¬ IsText header) (order : Column.all[place]? = some c) :
      c.StandsAt header place

theorem standsAt_iff_named {header : Csv.Record} (h : IsText header) (c : Column) (place : Nat) :
    c.StandsAt header place ↔
      ∃ name, header.cells[place]? = some name ∧ Spells name c.name := by
  constructor
  · intro hstands
    cases hstands with
    | named _ hheading hspelled => exact ⟨_, hheading, hspelled⟩
    | ordered hnoText _ => exact absurd h hnoText
  · rintro ⟨name, hheading, hspelled⟩
    exact .named h hheading hspelled

theorem standsAt_iff_ordered {header : Csv.Record} (h : ¬ IsText header) (c : Column)
    (place : Nat) : c.StandsAt header place ↔ Column.all[place]? = some c := by
  constructor
  · intro hstands
    cases hstands with
    | named htext _ _ => exact absurd htext h
    | ordered _ horder => exact horder
  · exact .ordered h

/-! ## Records -/

/-- The record can be read under the header: it has as many cells, all of them are text, no column
stands at two places, what stands under a column of figures is empty or a number, and under a header
that is no text there is a cell for each column. -/
structure IsReadable (header record : Csv.Record) : Prop where
  width : record.cells.length = header.cells.length
  text : IsText record
  once : ∀ (c : Column) (i j : Nat), c.StandsAt header i → c.StandsAt header j → i = j
  numbers : ∀ (c : Column) (i : Nat) (value : List UInt8) (t : String), c.isFigure →
    c.StandsAt header i → record.cells[i]? = some value → Spells value t →
      t = "" ∨ ∃ x, Decimal.readFloat? t.toList = some x
  enough : ¬ IsText header → Column.all.length ≤ record.cells.length

/-- The flaw is one that the record has under the header. -/
inductive Flaw.Describes (header record : Csv.Record) : Flaw → Prop
  | length (differs : record.cells.length ≠ header.cells.length) :
      Describes header record (.length record.cells.length header.cells.length)
  | encoding {place validLength : Nat} {value : List UInt8}
      (stands : record.cells[place]? = some value) (noText : ∀ s, value ≠ encode s)
      (first : ∀ i < place, ∀ v, record.cells[i]? = some v → ∃ s, v = encode s) :
      Describes header record (.encoding ⟨place, validLength⟩)
  | number {place : Nat} {c : Column} {value : List UInt8} {t : String} (figure : c.isFigure)
      (column : c.StandsAt header place) (stands : record.cells[place]? = some value)
      (read : Spells value t) (some : t ≠ "") (noNumber : Decimal.readFloat? t.toList = none) :
      Describes header record (.number place)
  | repeated {c : Column} {i j : Nat} (differ : i ≠ j) (once : c.StandsAt header i)
      (again : c.StandsAt header j) : Describes header record (.repeated c.name)
  | tooShort {n : Nat} (noText : ¬ IsText header)
      (few : record.cells.length < Column.all.length) : Describes header record (.tooShort n)

/-- A record with a flaw cannot be read. -/
theorem Flaw.Describes.not_readable {header record : Csv.Record} {flaw : Flaw}
    (h : flaw.Describes header record) : ¬ IsReadable header record := by
  intro hreadable
  cases h with
  | length hdiffers => exact hdiffers hreadable.width
  | encoding hstands hnoText _ =>
    obtain ⟨s, hs⟩ := hreadable.text _ (List.mem_of_getElem? hstands)
    exact hnoText s hs
  | number hfigure hcolumn hstands hread hsome hnoNumber =>
    rcases hreadable.numbers _ _ _ _ hfigure hcolumn hstands hread with rfl | ⟨x, hx⟩
    · exact hsome rfl
    · rw [hnoNumber] at hx
      cases hx
  | repeated hdiffer honce hagain => exact hdiffer (hreadable.once _ _ _ honce hagain)
  | tooShort hnoText hfew => exact absurd (hreadable.enough hnoText) (Nat.not_le_of_lt hfew)

theorem headerNames?_eq_none_iff (header : Csv.Record) :
    headerNames? header = none ↔ ¬ IsText header := by
  rw [isText_iff, Option.eq_none_iff_forall_ne_some, not_exists]
  exact forall_congr' fun _ => not_congr headerNames?_eq_some_iff

theorem readCell_eq_error {c : Column} {field : Nat} {s : String} {flaw : Flaw}
    (h : c.readCell field s = .error flaw) :
    c.isFigure ∧ s ≠ "" ∧ Decimal.readFloat? s.toList = none ∧ flaw = .number field := by
  cases c with
  | ns | deployment | container | image => cases h
  | peak m | mean m =>
    rw [Column.readCell] at h
    split at h
    · cases h
    rename_i hs
    split at h
    · cases h
    · cases h
      exact ⟨rfl, hs, ‹_›, rfl⟩

/-- Cells are texts up to the first that is none. -/
theorem textsFrom_eq_error {field : Nat} {cells : List (List UInt8)} {bad : Csv.BadCell}
    (h : textsFrom field cells = .error bad) :
    ∃ (k : Nat) (value : List UInt8), cells[k]? = some value ∧ (∀ s, value ≠ encode s) ∧
      (∀ i < k, ∀ v, cells[i]? = some v → ∃ s, v = encode s) ∧ bad.field = field + k := by
  induction cells generalizing field with
  | nil => cases h
  | cons cell cells ih =>
    rw [textsFrom] at h
    cases hdecode : decode (Text.trimBy Text.isAsciiBlank cell) with
    | error d =>
      rw [hdecode] at h
      cases h
      refine ⟨0, cell, rfl, ?_, fun i hi => absurd hi (Nat.not_lt_zero i), rfl⟩
      intro s hs
      obtain ⟨t, ht, _⟩ := spells_iff_decode.mp ⟨s, hs, rfl⟩
      rw [hdecode] at ht
      cases ht
    | ok t =>
      rw [hdecode] at h
      obtain ⟨s, hs, _⟩ := spells_iff_decode.mpr ⟨t, hdecode, rfl⟩
      cases hmore : textsFrom (field + 1) cells with
      | ok ts =>
        rw [hmore] at h
        cases h
      | error bad' =>
        rw [hmore] at h
        cases h
        obtain ⟨k, value, hvalue, hnoText, hfirst, hfield⟩ := ih hmore
        refine ⟨k + 1, value, hvalue, hnoText, fun i hi v hv => ?_, by omega⟩
        cases i with
        | zero =>
          cases hv
          exact ⟨s, hs⟩
        | succ i => exact hfirst i (Nat.lt_of_succ_lt_succ hi) v hv

/-- Texts go into a row by their names up to one that is no number, or whose column has been met
before. -/
theorem rowByName_eq_error {field : Nat} {seen : List Column} {r : Row}
    {named : List (String × String)} {flaw : Flaw} (h : rowByName field seen r named = .error flaw) :
    (∃ (k : Nat) (c : Column) (s : String), named[k]? = some (c.name, s) ∧ c.isFigure ∧ s ≠ "" ∧
        Decimal.readFloat? s.toList = none ∧ flaw = .number (field + k)) ∨
      ∃ (k : Nat) (c : Column) (s : String), named[k]? = some (c.name, s) ∧
        (c ∈ seen ∨ ∃ i < k, ∃ t, named[i]? = some (c.name, t)) ∧ flaw = .repeated c.name := by
  induction named generalizing field seen r with
  | nil => cases h
  | cons head more ih =>
    obtain ⟨name, s⟩ := head
    rw [rowByName] at h
    cases hname : Column.ofName? name with
    | none =>
      rw [hname] at h
      rcases ih h with ⟨k, c, t, hk, hfigure, ht, hread, hflaw⟩ | ⟨k, c, t, hk, hmet, hflaw⟩
      · exact .inl ⟨k + 1, c, t, hk, hfigure, ht, hread, by rw [hflaw]; congr 1; omega⟩
      · refine .inr ⟨k + 1, c, t, hk, hmet.imp_right ?_, hflaw⟩
        rintro ⟨i, hi, u, hu⟩
        exact ⟨i + 1, Nat.succ_lt_succ hi, u, hu⟩
    | some d =>
      rw [hname] at h
      obtain rfl := ofName?_eq_some_iff.mp hname
      simp only at h
      split at h
      · rename_i hseen
        cases h
        exact .inr ⟨0, d, s, rfl, .inl hseen, rfl⟩
      split at h
      · rename_i hread
        cases h
        obtain ⟨hfigure, hs, hnone, rfl⟩ := readCell_eq_error hread
        exact .inl ⟨0, d, s, rfl, hfigure, hs, hnone, rfl⟩
      rcases ih h with ⟨k, c, t, hk, hfigure, ht, hread, hflaw⟩ | ⟨k, c, t, hk, hmet, hflaw⟩
      · exact .inl ⟨k + 1, c, t, hk, hfigure, ht, hread, by rw [hflaw]; congr 1; omega⟩
      · refine .inr ⟨k + 1, c, t, hk, ?_, hflaw⟩
        rcases hmet with hseen | ⟨i, hi, u, hu⟩
        · -- the column has been met before, or here
          rcases List.mem_cons.mp hseen with rfl | hseen
          · exact .inr ⟨0, Nat.succ_pos k, s, rfl⟩
          · exact .inl hseen
        · exact .inr ⟨i + 1, Nat.succ_lt_succ hi, u, hu⟩

/-- Texts go into a row by their places up to one that is no number, or until there are no more. -/
theorem rowByPlace_eq_error {field : Nat} {r : Row} {columns : List Column} {texts : List String}
    {flaw : Flaw} (h : rowByPlace field r columns texts = .error flaw) :
    (∃ (k : Nat) (c : Column) (s : String), columns[k]? = some c ∧ texts[k]? = some s ∧
        c.isFigure ∧ s ≠ "" ∧ Decimal.readFloat? s.toList = none ∧ flaw = .number (field + k)) ∨
      texts.length < columns.length ∧ ∃ n, flaw = .tooShort n := by
  induction columns generalizing field r texts with
  | nil => cases texts <;> cases h
  | cons c columns ih =>
    cases texts with
    | nil =>
      refine .inr ⟨Nat.succ_pos columns.length, ?_⟩
      cases c with
      | ns | deployment | container | image =>
        rcases ih h with ⟨_, _, _, _, htext, _⟩ | ⟨_, hflaw⟩
        · cases htext
        · exact hflaw
      | peak m | mean m =>
        cases h
        exact ⟨field, rfl⟩
    | cons s texts =>
      rw [rowByPlace] at h
      split at h
      · rename_i hread
        cases h
        obtain ⟨hfigure, hs, hnone, rfl⟩ := readCell_eq_error hread
        exact .inl ⟨0, c, s, rfl, rfl, hfigure, hs, hnone, rfl⟩
      · rcases ih h with ⟨k, d, t, hd, ht, hfigure, hsome, hread, hflaw⟩ | ⟨hlength, hflaw⟩
        · exact .inl ⟨k + 1, d, t, hd, ht, hfigure, hsome, hread, by rw [hflaw]; congr 1; omega⟩
        · exact .inr ⟨Nat.succ_lt_succ hlength, hflaw⟩

/-- **What is said to be wrong with a record is wrong with it.** -/
theorem readRecord_describes {header record : Csv.Record} {flaw : Flaw}
    (h : readRecord header.cells.length (headerNames? header) record = .error flaw) :
    flaw.Describes header record := by
  unfold readRecord at h
  split at h
  · cases h
    exact .length ‹_›
  cases htexts : record.texts with
  | error bad =>
    rw [htexts] at h
    cases h
    obtain ⟨k, value, hvalue, hnoText, hfirst, hfield⟩ := textsFrom_eq_error htexts
    obtain ⟨field, validLength⟩ := bad
    obtain rfl : field = k := by simpa using hfield
    exact .encoding hvalue hnoText hfirst
  | ok texts =>
    rw [htexts] at h
    have hvalues := texts_eq_ok_iff.mp htexts
    cases hnames : headerNames? header with
    | none =>
      rw [hnames] at h
      have hnoText := (headerNames?_eq_none_iff header).mp hnames
      rcases rowByPlace_eq_error h with
        ⟨k, c, t, hc, ht, hfigure, hsome, hread, rfl⟩ | ⟨hlength, n, rfl⟩
      · obtain ⟨value, hvalue, hspells⟩ := getElem?_of_forall₂ hvalues.flip ht
        rw [Nat.zero_add]
        exact .number hfigure (.ordered hnoText hc) hvalue hspells hsome hread
      · rw [← hvalues.length_eq] at hlength
        exact .tooShort hnoText hlength
    | some names =>
      rw [hnames] at h
      have hspelled := headerNames?_eq_some_iff.mp hnames
      have htext := (isText_iff header).mpr ⟨names, hspelled⟩
      -- a named text stands in the column of its name
      have hplace : ∀ {c : Column} {k : Nat} {t : String},
          (names.zip texts)[k]? = some (c.name, t) →
            c.StandsAt header k ∧ ∃ value, record.cells[k]? = some value ∧ Spells value t := by
        intro c k t hk
        obtain ⟨hname, ht⟩ := List.getElem?_zip_eq_some.mp hk
        obtain ⟨name, hheading, hname⟩ := getElem?_of_forall₂ hspelled.flip hname
        exact ⟨.named htext hheading hname, getElem?_of_forall₂ hvalues.flip ht⟩
      rcases rowByName_eq_error h with
        ⟨k, c, t, hk, hfigure, hsome, hread, rfl⟩ | ⟨k, c, t, hk, hmet, rfl⟩
      · obtain ⟨hcolumn, value, hvalue, hspells⟩ := hplace hk
        rw [Nat.zero_add]
        exact .number hfigure hcolumn hvalue hspells hsome hread
      · rcases hmet with hseen | ⟨i, hi, u, hu⟩
        · exact absurd hseen List.not_mem_nil
        · exact .repeated (Nat.ne_of_lt hi) (hplace hu).1 (hplace hk).1

/-- A row that ends in figures is filled by place only with a text for each column. -/
theorem length_le_of_rowByPlace {field : Nat} {r row : Row} {columns : List Column}
    {texts : List String} (h : rowByPlace field r columns texts = .ok row) {c : Column}
    (hlast : columns.getLast? = some c) (hfigure : c.isFigure) :
    columns.length ≤ texts.length := by
  induction columns generalizing field r texts with
  | nil => exact Nat.zero_le _
  | cons d columns ih =>
    cases texts with
    | nil =>
      -- the figures at the end cannot be left out
      have hmore : rowByPlace (field + 1) r columns [] = .ok row ∧ d.isFigure = false := by
        cases d with
        | ns | deployment | container | image => exact ⟨h, rfl⟩
        | peak m | mean m => cases h
      cases columns with
      | nil =>
        obtain rfl : d = c := by simpa using hlast
        rw [hmore.2] at hfigure
        cases hfigure
      | cons e columns =>
        rw [List.getLast?_cons_cons] at hlast
        exact absurd (ih hmore.1 hlast) (Nat.not_succ_le_zero _)
    | cons s texts =>
      rw [rowByPlace] at h
      split at h
      · cases h
      cases columns with
      | nil => exact Nat.succ_le_succ (Nat.zero_le _)
      | cons e columns =>
        rw [List.getLast?_cons_cons] at hlast
        exact Nat.succ_le_succ (ih h hlast)

/-- The row is what the record says under the header. -/
def Says (header record : Csv.Record) (row : Row) : Prop :=
  (IsText header → ReadsByName header record row) ∧ (¬ IsText header → ReadsByPlace record row)

/-- A cell that holds a text under a column of figures holds no text or a number. -/
theorem Column.Holds.number {c : Column} {t : String} {cell : Cell} (h : c.Holds t cell)
    (hfigure : c.isFigure) : t = "" ∨ ∃ x, Decimal.readFloat? t.toList = some x := by
  cases cell with
  | text s =>
    rw [h.1] at hfigure
    cases hfigure
  | figure x =>
    cases x with
    | none => exact .inl h.2
    | some x => exact .inr ⟨x, h.2.2⟩

/-- Under a header that is text a column stands where a row has its cell from. -/
theorem ReadsByName.holds {header record : Csv.Record} {row : Row}
    (h : ReadsByName header record row) {c : Column} {place : Nat} {name value : List UInt8}
    {t : String} (hheading : header.cells[place]? = some name) (hspelled : Spells name c.name)
    (hvalue : record.cells[place]? = some value) (hread : Spells value t) :
    c.Holds t (row.cell c) := by
  cases h.cells c with
  | named _ _ honly hbelow hread' hheld =>
    obtain rfl := honly place _ hheading hspelled
    cases hvalue.symm.trans hbelow
    obtain rfl := spells_unique hread hread'
    exact hheld
  | unnamed hnone _ => exact absurd hspelled (hnone _ (List.mem_of_getElem? hheading))

/-- What stands in a column of the record stands in the row. -/
theorem Says.holds {header record : Csv.Record} {row : Row} (h : Says header record row)
    {c : Column} {place : Nat} {value : List UInt8} {t : String}
    (hcolumn : c.StandsAt header place) (hvalue : record.cells[place]? = some value)
    (hread : Spells value t) : c.Holds t (row.cell c) := by
  cases hcolumn with
  | named htext hheading hspelled => exact (h.1 htext).holds hheading hspelled hvalue hread
  | ordered hnoText horder =>
    obtain ⟨t', hread', hheld⟩ := (h.2 hnoText).given c place value horder hvalue
    obtain rfl := spells_unique hread hread'
    exact hheld

/-- No column stands at two places if a row could be read by name. -/
theorem ReadsByName.once {header record : Csv.Record} {row : Row}
    (h : ReadsByName header record row) {c : Column} {i j : Nat} {name name' : List UInt8}
    (hi : header.cells[i]? = some name) (hname : Spells name c.name)
    (hj : header.cells[j]? = some name') (hname' : Spells name' c.name) : i = j := by
  cases h.cells c with
  | named _ _ honly _ _ _ => exact (honly i _ hi hname).trans (honly j _ hj hname').symm
  | unnamed hnone _ => exact absurd hname (hnone _ (List.mem_of_getElem? hi))

/-- No column stands at two places if there is a row for the record. -/
theorem Says.once {header record : Csv.Record} {row : Row} (h : Says header record row) {c : Column}
    {i j : Nat} (hi : c.StandsAt header i) (hj : c.StandsAt header j) : i = j := by
  by_cases hheader : IsText header
  · rw [standsAt_iff_named hheader] at hi hj
    obtain ⟨name, hi, hname⟩ := hi
    obtain ⟨name', hj, hname'⟩ := hj
    exact (h.1 hheader).once hi hname hj hname'
  · have hdistinct : Column.all.Nodup := by decide
    rw [standsAt_iff_ordered hheader] at hi hj
    exact (List.getElem?_inj (List.getElem?_eq_some_iff.mp hi).1 hdistinct).mp (hi.trans hj.symm)

/-- A record of texts with a row that it says can be read, if it is as long as it has to be. -/
theorem Says.isReadable {header record : Csv.Record} {row : Row} (h : Says header record row)
    (hwidth : record.cells.length = header.cells.length) (htext : IsText record)
    (henough : ¬ IsText header → Column.all.length ≤ record.cells.length) :
    IsReadable header record where
  width := hwidth
  text := htext
  once _ _ _ := h.once
  numbers _ _ _ _ hfigure hcolumn hvalue hread := (h.holds hcolumn hvalue hread).number hfigure
  enough := henough

/-- **A record that is read can be read, and its row is what it says.** -/
theorem readRecord_reads {header record : Csv.Record} {row : Row}
    (h : readRecord header.cells.length (headerNames? header) record = .ok row) :
    IsReadable header record ∧ Says header record row := by
  have hread := h
  unfold readRecord at h
  split at h
  · cases h
  rename_i hwidth
  rw [not_not] at hwidth
  cases htexts : record.texts with
  | error bad =>
    rw [htexts] at h
    cases h
  | ok texts =>
    rw [htexts] at h
    have hvalues := texts_eq_ok_iff.mp htexts
    have htext : IsText record := (isText_iff record).mpr ⟨texts, hvalues⟩
    cases hnames : headerNames? header with
    | none =>
      rw [hnames] at h hread
      have hnoText := (headerNames?_eq_none_iff header).mp hnames
      have hsaid : Says header record row :=
        ⟨fun hheader => absurd hheader hnoText, fun _ => readRecord_byPlace hread⟩
      refine ⟨hsaid.isReadable hwidth htext fun _ => ?_, hsaid⟩
      rw [hvalues.length_eq]
      exact length_le_of_rowByPlace h rfl rfl
    | some names =>
      rw [hnames] at hread
      have hspelled := headerNames?_eq_some_iff.mp hnames
      have hheader := (isText_iff header).mpr ⟨names, hspelled⟩
      have hsaid : Says header record row :=
        ⟨fun _ => readRecord_byName hspelled hread, fun hnoText => absurd hheader hnoText⟩
      exact ⟨hsaid.isReadable hwidth htext fun hnoText => absurd hheader hnoText, hsaid⟩

/-! ## Messages -/

/-- The first number in a text. -/
def firstNumber (s : String) : Nat :=
  Nat.ofDigitChars 10 ((s.toList.dropWhile (!·.isDigit)).takeWhile (·.isDigit)) 0

/-- A text without digits in front makes no difference. -/
theorem firstNumber_append {a : String} (h : ∀ c ∈ a.toList, c.isDigit = false) (b : String) :
    firstNumber (a ++ b) = firstNumber b := by
  rw [firstNumber, String.toList_append, List.dropWhile_append_of_pos (by simpa using h)]
  rfl

/-- A number at the front is the first, as far as its digits go. -/
theorem firstNumber_toString (n : Nat) {b : String} (h : ∀ c ∈ b.toList.head?, c.isDigit = false) :
    firstNumber (toString n ++ b) = n := by
  have hdigits : ∀ c ∈ Nat.toDigits 10 n, c.isDigit :=
    fun _ => Nat.isDigit_of_mem_toDigits (by decide) (by decide)
  have hdrop : (Nat.toDigits 10 n ++ b.toList).dropWhile (!·.isDigit) =
      Nat.toDigits 10 n ++ b.toList := by
    obtain ⟨d, ds, hds⟩ := List.exists_cons_of_ne_nil (Nat.toDigits_ne_nil (n := n) (b := 10))
    rw [hds] at hdigits ⊢
    exact List.dropWhile_cons_of_neg (by simp [hdigits d List.mem_cons_self])
  have hstop : b.toList.takeWhile (·.isDigit) = [] := by
    cases hb : b.toList with
    | nil => rfl
    | cons c cs => exact List.takeWhile_cons_of_neg (by simp [h c (by rw [hb]; rfl)])
  rw [firstNumber, String.toList_append, Nat.toString_eq_repr, Nat.toList_repr, hdrop,
    List.takeWhile_append_of_pos hdigits, hstop, List.append_nil]
  exact Nat.ofDigitChars_ten_toDigits

/-- **A message names the number of its record**, before any other. -/
theorem Flaw.firstNumber_message (record : Csv.Record) (flaw : Flaw) :
    firstNumber (flaw.message record) = record.index := by
  unfold message
  cases flaw with
  | encoding bad =>
    simp only [String.append_assoc]
    rw [firstNumber_append (by simp)]
    exact firstNumber_toString _ (by simp)
  | _ =>
    -- the place of the record comes right after what kind of error there is
    simp only [String.append_assoc]
    rw [firstNumber_append (by simp), firstNumber_append (by simp)]
    exact firstNumber_toString _ (by simp)

/-! ## Files -/

/-- Records are read up to the first that cannot be read. -/
theorem readRecords_eq_error {width : Nat} {names : Option (List String)}
    {body : List Csv.Record} {record : Csv.Record} {flaw : Flaw}
    (h : readRecords width names body = .error (record, flaw)) :
    ∃ before after, body = before ++ record :: after ∧
      (∀ b ∈ before, ∃ row, readRecord width names b = .ok row) ∧
      readRecord width names record = .error flaw := by
  induction body with
  | nil => cases h
  | cons first body ih =>
    rw [readRecords] at h
    cases hfirst : readRecord width names first with
    | error flaw' =>
      rw [hfirst] at h
      cases h
      exact ⟨[], body, rfl, fun _ hb => absurd hb List.not_mem_nil, hfirst⟩
    | ok row =>
      rw [hfirst] at h
      cases hmore : readRecords width names body with
      | ok rows =>
        rw [hmore] at h
        cases h
      | error found =>
        rw [hmore] at h
        cases h
        obtain ⟨before, after, rfl, hbefore, hrecord⟩ := ih hmore
        exact ⟨first :: before, after, rfl, List.forall_mem_cons.mpr ⟨⟨row, hfirst⟩, hbefore⟩,
          hrecord⟩

/-- What comes of a file with such a header and such records below it. Its first record that cannot
be read is blamed, and if all can be read, their rows are taken as a table, if they make one. A
blank cell under one of the columns that say where a row belongs lets no table through, and no table
lacks a row. -/
structure Loads (reference : String) (header : Csv.Record) (body : List Csv.Record)
    (result : Except Failure Table) : Prop where
  blamed : (∃ record ∈ body, ¬ IsReadable header record) →
    ∃ before record after flaw, body = before ++ record :: after ∧
      (∀ b ∈ before, IsReadable header b) ∧ Flaw.Describes header record flaw ∧
      record.index = before.length + 1 ∧
      result = .error (.unreadableReport reference (flaw.message record))
  handedOn : (∀ record ∈ body, IsReadable header record) →
    ∃ rows, List.Forall₂ (Says header) body rows ∧ result = Table.ofRows rows
  blank : ∀ record ∈ body, ∀ c ∈ [Column.ns, Column.deployment], ∀ (place : Nat) (t : String),
    c.StandsAt header place → record.cells[place]? = some (encode t) → allBlank t →
      ∃ f, result = .error f
  whole : ∀ t, result = .ok t → t.rows.length = body.length ∧ ∀ r ∈ t.rows, r.IsPlaced

/-- The text of the failure names the first record that cannot be read. -/
theorem Loads.named {reference : String} {header : Csv.Record} {body : List Csv.Record}
    {result : Except Failure Table} (h : Loads reference header body result)
    (hbad : ∃ record ∈ body, ¬ IsReadable header record) :
    ∃ before record after text, body = before ++ record :: after ∧
      (∀ b ∈ before, IsReadable header b) ∧ ¬ IsReadable header record ∧
      result = .error (.unreadableReport reference text) ∧
      firstNumber text = before.length + 1 := by
  obtain ⟨before, record, after, flaw, hbody, hbefore, hdescribes, hindex, hresult⟩ := h.blamed hbad
  exact ⟨before, record, after, _, hbody, hbefore, hdescribes.not_readable, hresult,
    (flaw.firstNumber_message record).trans hindex⟩

/-- Nothing is left of a blank text. -/
theorem trim_of_allBlank {t : String} (h : allBlank t) : trim t = "" := by
  have hnone : t.toList.dropWhile isBlank = [] :=
    List.dropWhile_eq_nil_iff.mpr (List.all_eq_true.mp h)
  unfold trim Text.trimBy
  rw [hnone]
  rfl

/-- A row whose namespace or deployment is blank in the file has no place. -/
theorem Says.not_placed {header record : Csv.Record} {row : Row} (h : Says header record row)
    {c : Column} (hc : c ∈ [Column.ns, Column.deployment]) {place : Nat} {t : String}
    (hcolumn : c.StandsAt header place) (hvalue : record.cells[place]? = some (encode t))
    (hblank : allBlank t) : ¬ row.IsPlaced := by
  have hholds := h.holds hcolumn hvalue ⟨t, rfl, trim_of_allBlank hblank⟩
  rintro ⟨hns, hdeployment⟩
  rcases List.mem_cons.mp hc with rfl | hc
  · exact hns hholds.2
  · obtain rfl := List.mem_singleton.mp hc
    exact hdeployment hholds.2

/-- **A file with a header is loaded as a whole or not at all.** -/
theorem ofCsv_loads {file : List UInt8} {header : Csv.Record} {body : List Csv.Record}
    (hrecords : Csv.records file = header :: body) (reference : String) :
    Loads reference header body (Table.ofCsv reference file) := by
  have hrows : readRows file = readRecords header.cells.length (headerNames? header) body := by
    rw [readRows, hrecords]
  rw [Table.ofCsv, hrows]
  cases hread : readRecords header.cells.length (headerNames? header) body with
  | error found =>
    obtain ⟨record, flaw⟩ := found
    obtain ⟨before, after, rfl, hbefore, hrecord⟩ := readRecords_eq_error hread
    have hdescribes := readRecord_describes hrecord
    have hindex : record.index = before.length + 1 := by
      have hat : (Csv.records file)[before.length + 1]? = some record := by
        rw [hrecords, List.getElem?_cons_succ, List.getElem?_append_right (Nat.le_refl _),
          Nat.sub_self]
        rfl
      have hnumber := Csv.index_recordsFrom hat
      omega
    refine ⟨fun _ => ⟨before, record, after, flaw, rfl, ?_, hdescribes, hindex, rfl⟩, ?_, ?_, ?_⟩
    · intro b hb
      obtain ⟨row, hrow⟩ := hbefore b hb
      exact (readRecord_reads hrow).1
    · intro hall
      exact absurd (hall record (by simp)) hdescribes.not_readable
    · exact fun _ _ _ _ _ _ _ _ _ => ⟨_, rfl⟩
    · intro t ht
      cases ht
  | ok rows =>
    show Loads reference header body (Table.ofRows rows)
    have hreads : List.Forall₂ (fun record row => IsReadable header record ∧ Says header record row)
        body rows := (readRecords_eq_ok_iff.mp hread).imp fun _ _ hrow => readRecord_reads hrow
    have haccepts := ofRows_accepts rows
    have hwhole : ∀ t, Table.ofRows rows = .ok t → t.rows = rows ∧ ∀ r ∈ rows, r.IsPlaced :=
      fun t ht => ⟨haccepts.whole t ht, haccepts.accepted.mp ⟨t, ht⟩⟩
    refine ⟨?_, fun _ => ⟨rows, hreads.imp fun _ _ h => h.2, rfl⟩, ?_, ?_⟩
    · rintro ⟨record, hrecord, hnot⟩
      obtain ⟨i, hi⟩ := List.mem_iff_getElem?.mp hrecord
      obtain ⟨row, _, hreadable, _⟩ := getElem?_of_forall₂ hreads hi
      exact absurd hreadable hnot
    · intro record hrecord c hc place t hcolumn hvalue hblank
      cases hresult : Table.ofRows rows with
      | error f => exact ⟨f, rfl⟩
      | ok table =>
        obtain ⟨i, hi⟩ := List.mem_iff_getElem?.mp hrecord
        obtain ⟨row, hrow, _, hsaid⟩ := getElem?_of_forall₂ hreads hi
        have hplaced := (hwhole table hresult).2 row (List.mem_of_getElem? hrow)
        exact absurd hplaced (hsaid.not_placed hc hcolumn hvalue hblank)
    · intro t ht
      obtain ⟨hrows, hplaced⟩ := hwhole t ht
      rw [hrows]
      exact ⟨hreads.length_eq.symm, hplaced⟩

/-- **A table is loaded as a whole or not at all**, from rows at hand as from a file: a table holds
all there is, in its order, and what is blamed for there being none is the first record that cannot
be read or else the first row that does not say where it belongs. -/
theorem loading_law (rows : List Row) (reference : String) (file : List UInt8) :
    Accepts rows (Table.ofRows rows) ∧
      match Csv.records file with
      | [] => Table.ofCsv reference file = .ok ⟨[]⟩
      | header :: body => Loads reference header body (Table.ofCsv reference file) := by
  refine ⟨ofRows_accepts rows, ?_⟩
  cases hrecords : Csv.records file with
  | nil =>
    rw [Table.ofCsv, readRows, hrecords]
    rfl
  | cons header body => exact ofCsv_loads hrecords reference

end Report
end UsageFeed
