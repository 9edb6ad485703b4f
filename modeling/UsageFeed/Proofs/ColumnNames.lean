import Mathlib
import UsageFeed.Proofs.CellTexts

/-!
# `UsageFeed.Proofs.ColumnNames` — which cells go into a row

Under a header that is text, every cell of a row is the one whose column has the right name. Under
any other header, cells are taken in the order of the columns, whatever stands in the header.

## Contents
- **Cells of rows.** `Row.cell`, with the laws of `Row.put`; `Column.Holds`, what a text stands for
  under a column.
- **By name.** `rowByName_cell`, and `ReadsByName` for a record under a header.
- **By place.** `rowByPlace_cell` and `ReadsByPlace`.
- **Files.** `ofCsv_reads`, and `ofCsv_foreign_name`, where a column of no meaning changes the
  columns of all cells.
-/

namespace UsageFeed.Report

open Csv (Spells texts_eq_ok_iff)
open Text (trim)
open Text.Utf8 (encode)

/-! ## Cells of rows -/

/-- What stands in a row under a column. -/
def Row.cell (r : Row) : Column → Cell
  | .ns => .text r.ns
  | .deployment => .text r.deployment
  | .container => .text r.container
  | .image => .text r.image
  | .peak m => .figure (r.measure m).peak
  | .mean m => .figure (r.measure m).mean

/-- Whether figures stand in a column. -/
def Column.isFigure : Column → Bool
  | peak _ | mean _ => true
  | _ => false

/-- The cell is what a text stands for under a column: itself where texts stand, and a figure where
figures stand, if it is not empty. -/
def Column.Holds (c : Column) (s : String) : Cell → Prop
  | .text t => c.isFigure = false ∧ t = s
  | .figure none => c.isFigure = true ∧ s = ""
  | .figure (some x) => c.isFigure = true ∧ s ≠ "" ∧ Decimal.readFloat? s.toList = some x

theorem readCell_eq_ok_iff {c : Column} {field : Nat} {s : String} {cell : Cell} :
    c.readCell field s = .ok cell ↔ c.Holds s cell := by
  have hfigure (m : Metric) : (Column.peak m).readCell field s = .ok cell ↔
      (Column.peak m).Holds s cell := by
    by_cases hs : s = ""
    · rcases cell with t | _ | x <;> simp [Column.readCell, hs, Column.Holds, Column.isFigure]
    · rw [Column.readCell, if_neg hs]
      cases hread : Decimal.readFloat? s.toList with
      | none => rcases cell with t | _ | x <;> simp [hs, hread, Column.Holds, Column.isFigure]
      | some y => rcases cell with t | _ | x <;> simp [hs, hread, Column.Holds, Column.isFigure]
  cases c with
  | ns | deployment | container | image =>
    rcases cell with t | _ | x <;> simp [Column.readCell, Column.Holds, Column.isFigure, eq_comm]
  | peak m | mean m => exact hfigure m

/-- A cell stands where it has been put, and all others stay. -/
theorem cell_put {c : Column} {s : String} {cell : Cell} (h : c.Holds s cell) (r : Row)
    (d : Column) : (r.put c cell).cell d = if d = c then cell else r.cell d := by
  cases cell with
  | text t =>
    cases c with
    | ns | deployment | container | image => cases d <;> simp [Row.put, Row.cell, Row.measure]
    | peak m | mean m => cases h.1
  | figure x =>
    have hfigure : c.isFigure := by
      cases x with
      | none => exact h.1
      | some x => exact h.1
    -- a figure is put by replacing the figures of its metric
    have hmeasure : ∀ (m : Metric) (v : Measure) (d : Column),
        (r.setMeasure m v).cell d =
          if d = .peak m then .figure v.peak else if d = .mean m then .figure v.mean
          else r.cell d := by
      intro m v d
      cases d with
      | ns | deployment | container | image => cases m <;> rfl
      | peak n =>
        simp only [Row.cell, Row.measure_setMeasure, Column.peak.injEq, reduceCtorEq, if_false]
        split <;> rfl
      | mean n =>
        simp only [Row.cell, Row.measure_setMeasure, Column.mean.injEq, reduceCtorEq, if_false]
        split <;> rfl
    cases c with
    | ns | deployment | container | image => cases hfigure
    | peak m =>
      rw [Row.put, hmeasure]
      by_cases hd : d = .mean m
      · simp [hd, Row.cell]
      · rw [if_neg hd]
    | mean m =>
      rw [Row.put, hmeasure]
      by_cases hd : d = .peak m
      · simp [hd, Row.cell]
      · rw [if_neg hd]

/-- A row is known by its cells. -/
theorem Row.ext_cell {r s : Row} (h : ∀ c, r.cell c = s.cell c) : r = s := by
  have hmeasure : ∀ m, r.measure m = s.measure m := by
    intro m
    have hpeak : (r.measure m).peak = (s.measure m).peak := Cell.figure.inj (h (.peak m))
    have hmean : (r.measure m).mean = (s.measure m).mean := Cell.figure.inj (h (.mean m))
    cases hr : r.measure m
    cases hs : s.measure m
    rw [hr, hs] at hpeak hmean
    exact congrArg₂ Measure.mk hpeak hmean
  have hns : r.ns = s.ns := Cell.text.inj (h .ns)
  have hdeployment : r.deployment = s.deployment := Cell.text.inj (h .deployment)
  have hcontainer : r.container = s.container := Cell.text.inj (h .container)
  have himage : r.image = s.image := Cell.text.inj (h .image)
  cases r
  cases s
  simp only [Row.mk.injEq]
  exact ⟨hns, hdeployment, hcontainer, himage, hmeasure .cpuRequest, hmeasure .cpuLimit,
    hmeasure .cpuUsage, hmeasure .cpuThrottle, hmeasure .memoryRequest, hmeasure .memoryLimit,
    hmeasure .memoryUsage, hmeasure .memoryRss⟩

/-! ## By name -/

theorem ofName?_name (c : Column) : Column.ofName? c.name = some c := by
  cases c with
  | ns | deployment | container | image => rfl
  | peak m | mean m => cases m <;> rfl

theorem ofName?_eq_some_iff {name : String} {c : Column} :
    Column.ofName? name = some c ↔ name = c.name := by
  constructor
  · intro h
    have hfound : (c.name == name) = true :=
      List.find?_some (p := fun c : Column => c.name == name) h
    exact (beq_iff_eq.mp hfound).symm
  · rintro rfl
    exact ofName?_name c

theorem name_inj {c d : Column} (h : c.name = d.name) : c = d :=
  Option.some.inj ((ofName?_name c).symm.trans (h ▸ ofName?_name d))

/-- Of named texts, the one with the name of a column, if there is one. It has no second. -/
inductive Found (c : Column) : List (String × String) → Option String → Prop
  | nowhere : Found c [] none
  | other {name s : String} {more : List (String × String)} {found : Option String}
      (differs : name ≠ c.name) (rest : Found c more found) : Found c ((name, s) :: more) found
  | here {s : String} {more : List (String × String)} (rest : Found c more none) :
      Found c ((c.name, s) :: more) (some s)

/-- **Under every column stands the text that has its name**; where there is none, the row is as it
was. No column is met twice. -/
theorem rowByName_cell {field : Nat} {seen : List Column} {r row : Row}
    {named : List (String × String)} (h : rowByName field seen r named = .ok row) (c : Column) :
    ∃ found, Found c named found ∧
      match found with
      | none => row.cell c = r.cell c
      | some s => c ∉ seen ∧ c.Holds s (row.cell c) := by
  induction named generalizing field seen r with
  | nil =>
    cases h
    exact ⟨none, .nowhere, rfl⟩
  | cons head more ih =>
    obtain ⟨name, s⟩ := head
    rw [rowByName] at h
    cases hname : Column.ofName? name with
    | none =>
      rw [hname] at h
      obtain ⟨found, hfound, hcell⟩ := ih h
      refine ⟨found, .other ?_ hfound, hcell⟩
      rintro rfl
      rw [ofName?_name] at hname
      cases hname
    | some d =>
      rw [hname] at h
      obtain rfl := ofName?_eq_some_iff.mp hname
      simp only at h
      split at h
      · cases h
      rename_i hseen
      split at h
      · cases h
      rename_i cell hread
      have hholds := readCell_eq_ok_iff.mp hread
      obtain ⟨found, hfound, hcell⟩ := ih h
      by_cases hc : c = d
      · -- the column has been met here, so it is met nowhere in the rest
        subst hc
        cases found with
        | some t => exact absurd List.mem_cons_self hcell.1
        | none =>
          refine ⟨some s, .here hfound, hseen, ?_⟩
          rw [hcell, cell_put hholds, if_pos rfl]
          exact hholds
      · refine ⟨found, .other (fun h => hc (name_inj h.symm)) hfound, ?_⟩
        cases found with
        | none => rw [hcell, cell_put hholds, if_neg hc]
        | some t => exact ⟨fun h => hcell.1 (List.mem_cons_of_mem d h), hcell.2⟩

theorem Found.eq_none {c : Column} {named : List (String × String)} (h : Found c named none)
    (t : String) : (c.name, t) ∉ named := by
  generalize hfound : (none : Option String) = found at h
  induction h with
  | nowhere => exact List.not_mem_nil
  | other hdiffers _ ih =>
    rintro (_ | ⟨_, hmem⟩)
    · exact hdiffers rfl
    · exact ih hfound hmem
  | here => cases hfound

theorem Found.eq_some {c : Column} {named : List (String × String)} {s : String}
    (h : Found c named (some s)) :
    ∃ i : Nat, named[i]? = some (c.name, s) ∧
      ∀ (j : Nat) (t : String), named[j]? = some (c.name, t) → j = i := by
  generalize hfound : some s = found at h
  induction h with
  | nowhere => cases hfound
  | other hdiffers _ ih =>
    obtain ⟨i, hi, honly⟩ := ih hfound
    refine ⟨i + 1, hi, fun j t hj => ?_⟩
    cases j with
    | zero =>
      cases hj
      exact absurd rfl hdiffers
    | succ j => exact congrArg (· + 1) (honly j t hj)
  | @here s' more hrest _ =>
    cases hfound
    refine ⟨0, rfl, fun j t hj => ?_⟩
    cases j with
    | zero => rfl
    | succ j =>
      rw [List.getElem?_cons_succ] at hj
      exact absurd (List.mem_of_getElem? hj) (hrest.eq_none t)

/-- Where a row has a cell from: from below the one header cell with the name of the column, or from
nowhere if there is none. -/
inductive FromColumn (header record : Csv.Record) (c : Column) (cell : Cell) : Prop
  | named {i : Nat} {name value : List UInt8} {t : String} (heading : header.cells[i]? = some name)
      (spelled : Spells name c.name)
      (only : ∀ j other, header.cells[j]? = some other → Spells other c.name → j = i)
      (below : record.cells[i]? = some value) (read : Spells value t) (held : c.Holds t cell)
  | unnamed (none : ∀ name ∈ header.cells, ¬ Spells name c.name) (blank : c.Holds "" cell)

/-- The row is what the record says under the header. -/
structure ReadsByName (header record : Csv.Record) (row : Row) : Prop where
  width : record.cells.length = header.cells.length
  cells : ∀ c : Column, FromColumn header record c (row.cell c)

/-- A cell spells one text. -/
theorem spells_unique {cell : List UInt8} {s t : String} (hs : Spells cell s)
    (ht : Spells cell t) : s = t := by
  obtain ⟨s, rfl, rfl⟩ := hs
  obtain ⟨t, ht, rfl⟩ := ht
  have hread := Text.Utf8.decode_encode s
  rw [ht, Text.Utf8.decode_encode] at hread
  cases hread
  rfl

theorem getElem?_of_forall₂ {α β : Type} {R : α → β → Prop} {as : List α} {bs : List β}
    (h : List.Forall₂ R as bs) {i : Nat} {a : α} (ha : as[i]? = some a) :
    ∃ b, bs[i]? = some b ∧ R a b := by
  induction h generalizing i with
  | nil => cases ha
  | @cons _ b _ _ hab _ ih =>
    cases i with
    | zero =>
      cases ha
      exact ⟨b, rfl, hab⟩
    | succ i => exact ih ha

/-- Without a text nothing stands under a column. -/
theorem holds_blank (c : Column) : c.Holds "" (({} : Row).cell c) := by
  cases c with
  | ns | deployment | container | image => exact ⟨rfl, rfl⟩
  | peak m | mean m => cases m <;> exact ⟨rfl, rfl⟩

theorem readRecord_byName {header record : Csv.Record} {names : List String} {row : Row}
    (hnames : List.Forall₂ Spells header.cells names)
    (h : readRecord header.cells.length (some names) record = .ok row) :
    ReadsByName header record row := by
  unfold readRecord at h
  split at h
  · cases h
  rename_i hwidth
  rw [not_not] at hwidth
  cases htexts : record.texts with
  | error bad =>
    rw [htexts] at h
    cases h
  | ok texts =>
    rw [htexts] at h
    have hvalues := texts_eq_ok_iff.mp htexts
    have hlength : names.length = texts.length := by
      rw [← hnames.length_eq, ← hvalues.length_eq, hwidth]
    -- a header cell of that name stands above a text
    have habove : ∀ {c : Column} {i : Nat} {name : List UInt8}, header.cells[i]? = some name →
        Spells name c.name → ∃ t, (names.zip texts)[i]? = some (c.name, t) := by
      intro c i name hi hspells
      obtain ⟨n, hn, hspells'⟩ := getElem?_of_forall₂ hnames hi
      obtain rfl := spells_unique hspells' hspells
      have hlt : i < texts.length := hlength ▸ (List.getElem?_eq_some_iff.mp hn).1
      exact ⟨_, List.getElem?_zip_eq_some.mpr ⟨hn, List.getElem?_eq_getElem hlt⟩⟩
    refine ⟨hwidth, fun c => ?_⟩
    obtain ⟨found, hfound, hcell⟩ := rowByName_cell h c
    cases found with
    | none =>
      refine .unnamed (fun name hname hspells => ?_) (hcell ▸ holds_blank c)
      obtain ⟨i, hi⟩ := List.mem_iff_getElem?.mp hname
      obtain ⟨t, ht⟩ := habove hi hspells
      exact hfound.eq_none t (List.mem_of_getElem? ht)
    | some s =>
      obtain ⟨i, hi, honly⟩ := hfound.eq_some
      obtain ⟨hname, htext⟩ := List.getElem?_zip_eq_some.mp hi
      obtain ⟨name, hheading, hspelled⟩ := getElem?_of_forall₂ hnames.flip hname
      obtain ⟨value, hbelow, hread⟩ := getElem?_of_forall₂ hvalues.flip htext
      refine .named hheading hspelled (fun j other hj hother => ?_) hbelow hread hcell.2
      obtain ⟨t, ht⟩ := habove hj hother
      exact honly j t ht

/-! ## By place -/

/-- **Columns are filled in order**, and those for which there is no text stay as they are. -/
theorem rowByPlace_cell {field : Nat} {r row : Row} {columns : List Column} {texts : List String}
    (h : rowByPlace field r columns texts = .ok row) (hdistinct : columns.Nodup) (c : Column) :
    (c ∉ columns → row.cell c = r.cell c) ∧
      ∀ i : Nat, columns[i]? = some c →
        match texts[i]? with
        | some s => c.Holds s (row.cell c)
        | none => row.cell c = r.cell c := by
  induction columns generalizing field r texts with
  | nil =>
    cases texts <;> cases h <;> exact ⟨fun _ => rfl, nofun⟩
  | cons d columns ih =>
    obtain ⟨hnew, hdistinct⟩ := List.nodup_cons.mp hdistinct
    cases texts with
    | nil =>
      -- only columns of texts may be left over, and nothing is put there
      have hrest : rowByPlace (field + 1) r columns [] = .ok row := by
        cases d with
        | ns | deployment | container | image => exact h
        | peak m | mean m => cases h
      obtain ⟨hout, hin⟩ := ih hrest hdistinct
      refine ⟨fun hc => hout fun hmem => hc (List.mem_cons_of_mem d hmem), fun i hi => ?_⟩
      cases i with
      | zero =>
        cases hi
        exact hout hnew
      | succ i => exact hin i hi
    | cons s texts =>
      rw [rowByPlace] at h
      split at h
      · cases h
      rename_i cell hread
      have hholds := readCell_eq_ok_iff.mp hread
      obtain ⟨hout, hin⟩ := ih h hdistinct
      constructor
      · intro hc
        obtain ⟨hne, hrest⟩ := not_or.mp (mt List.mem_cons.mpr hc)
        rw [hout hrest, cell_put hholds, if_neg hne]
      · intro i hi
        cases i with
        | zero =>
          cases hi
          show c.Holds s (row.cell c)
          rw [hout hnew, cell_put hholds, if_pos rfl]
          exact hholds
        | succ i =>
          have hmem : c ∈ columns := List.mem_of_getElem? hi
          have hne : c ≠ d := fun heq => hnew (heq ▸ hmem)
          have hcell := hin i hi
          rw [cell_put hholds, if_neg hne] at hcell
          exact hcell

/-- The row is what the record says in the order of the columns. -/
structure ReadsByPlace (record : Csv.Record) (row : Row) : Prop where
  given : ∀ (c : Column) (i : Nat) (value : List UInt8), Column.all[i]? = some c →
    record.cells[i]? = some value → ∃ t, Spells value t ∧ c.Holds t (row.cell c)
  lacking : ∀ (c : Column) (i : Nat), Column.all[i]? = some c → record.cells[i]? = none →
    c.Holds "" (row.cell c)

theorem readRecord_byPlace {width : Nat} {record : Csv.Record} {row : Row}
    (h : readRecord width none record = .ok row) : ReadsByPlace record row := by
  unfold readRecord at h
  split at h
  · cases h
  cases htexts : record.texts with
  | error bad =>
    rw [htexts] at h
    cases h
  | ok texts =>
    rw [htexts] at h
    have hvalues := texts_eq_ok_iff.mp htexts
    have hdistinct : Column.all.Nodup := by decide
    constructor
    · intro c i value hc hvalue
      obtain ⟨t, ht, hspells⟩ := getElem?_of_forall₂ hvalues hvalue
      have hcell := (rowByPlace_cell h hdistinct c).2 i hc
      rw [ht] at hcell
      exact ⟨t, hspells, hcell⟩
    · intro c i hc hvalue
      have hcell := (rowByPlace_cell h hdistinct c).2 i hc
      rw [List.getElem?_eq_none_iff, hvalues.length_eq, ← List.getElem?_eq_none_iff] at hvalue
      rw [hvalue] at hcell
      exact hcell ▸ holds_blank c

/-! ## Files -/

/-- Each record makes a row. -/
theorem readRecords_eq_ok_iff {width : Nat} {names : Option (List String)}
    {body : List Csv.Record} {rows : List Row} :
    readRecords width names body = .ok rows ↔
      List.Forall₂ (fun record row => readRecord width names record = .ok row) body rows := by
  induction body generalizing rows with
  | nil =>
    rw [List.forall₂_nil_left_iff, readRecords]
    exact ⟨fun h => (Except.ok.inj h).symm, fun h => congrArg _ h.symm⟩
  | cons record body ih =>
    rw [List.forall₂_cons_left_iff, readRecords]
    cases hrow : readRecord width names record with
    | error flaw => simp
    | ok row =>
      simp only [← ih]
      cases readRecords width names body with
      | error e => simp [Except.map]
      | ok more => simp [Except.map, eq_comm]

theorem rows_of_ofCsv {reference : String} {file : List UInt8} {table : Table}
    (h : Table.ofCsv reference file = .ok table) : readRows file = .ok table.rows := by
  unfold Table.ofCsv at h
  cases hrows : readRows file with
  | error e =>
    rw [hrows] at h
    cases h
  | ok rows =>
    rw [hrows] at h
    unfold Table.ofRows at h
    simp only at h
    split at h
    · cases h
    · cases h
      rfl

/-- Whether all cells of a header are text. -/
def IsText (header : Csv.Record) : Prop := ∀ cell ∈ header.cells, ∃ s, cell = encode s

theorem isText_iff (header : Csv.Record) :
    IsText header ↔ ∃ names, List.Forall₂ Spells header.cells names := by
  unfold IsText
  generalize header.cells = cells
  constructor
  · intro h
    induction cells with
    | nil => exact ⟨[], .nil⟩
    | cons cell cells ih =>
      obtain ⟨⟨s, hs⟩, hcells⟩ := List.forall_mem_cons.mp h
      obtain ⟨names, hnames⟩ := ih hcells
      exact ⟨trim s :: names, .cons ⟨s, hs, rfl⟩ hnames⟩
  · rintro ⟨names, hnames⟩ cell hcell
    obtain ⟨i, hi⟩ := List.mem_iff_getElem?.mp hcell
    obtain ⟨_, _, s, hs, _⟩ := getElem?_of_forall₂ hnames hi
    exact ⟨s, hs⟩

/-- Under a header that is text each cell of a row is taken from the column of its name. -/
theorem readsByName_of_readRows {file : List UInt8} {rows : List Row} {header : Csv.Record}
    {body : List Csv.Record} (hrecords : Csv.records file = header :: body)
    (hrows : readRows file = .ok rows) (htext : IsText header) :
    List.Forall₂ (ReadsByName header) body rows := by
  unfold readRows at hrows
  rw [hrecords] at hrows
  obtain ⟨names, hnames⟩ := (isText_iff header).mp htext
  have hbody := readRecords_eq_ok_iff.mp hrows
  rw [headerNames?_eq_some_iff.mpr hnames] at hbody
  exact hbody.imp fun _ _ hrow => readRecord_byName hnames hrow

/-- **Each record of a file makes a row, in order.** Under a header that is text, each cell is taken
from the column of its name; under a header that is not, from the column of its place. -/
theorem ofCsv_reads {reference : String} {file : List UInt8} {table : Table}
    (h : Table.ofCsv reference file = .ok table) :
    match Csv.records file with
    | [] => table.rows = []
    | header :: body =>
      (IsText header → List.Forall₂ (ReadsByName header) body table.rows) ∧
        (¬ IsText header → List.Forall₂ ReadsByPlace body table.rows) := by
  have hread := rows_of_ofCsv h
  have hrows := hread
  unfold readRows at hrows
  cases hrecords : Csv.records file with
  | nil =>
    rw [hrecords] at hrows
    exact (Except.ok.inj hrows).symm
  | cons header body =>
    rw [hrecords] at hrows
    have hbody := readRecords_eq_ok_iff.mp hrows
    refine ⟨readsByName_of_readRows hrecords hread, fun htext => ?_⟩
    have hnames : headerNames? header = none := by
      rw [Option.eq_none_iff_forall_ne_some]
      intro names hnames
      exact htext ((isText_iff header).mpr ⟨names, headerNames?_eq_some_iff.mp hnames⟩)
    rw [hnames] at hbody
    exact hbody.imp fun _ _ hrow => readRecord_byPlace hrow

/-- A file with its columns in an unusual order. -/
def shuffled : List UInt8 := encode "deployment_name, namespace\n\"d,e\",n\n"

theorem ofCsv_reads_shuffled :
    Table.ofCsv "report.csv" shuffled = .ok ⟨[{ ns := "n", deployment := "d,e" }]⟩ ∧
      match Csv.records shuffled with
      | [] => [{ ns := "n", deployment := "d,e" }] = ([] : List Row)
      | header :: body =>
        (IsText header →
          List.Forall₂ (ReadsByName header) body [{ ns := "n", deployment := "d,e" }]) ∧
        (¬ IsText header →
          List.Forall₂ ReadsByPlace body [{ ns := "n", deployment := "d,e" }]) := by
  have hrecords : Csv.records shuffled =
      [⟨0, ⟨0, 1⟩, [encode "deployment_name", encode " namespace"]⟩,
        ⟨1, ⟨27, 2⟩, [encode "d,e", encode "n"]⟩] := by cbv
  have hnames : headerNames? ⟨0, ⟨0, 1⟩, [encode "deployment_name", encode " namespace"]⟩ =
      some ["deployment_name", "namespace"] := by cbv
  have htexts : Csv.Record.texts ⟨1, ⟨27, 2⟩, [encode "d,e", encode "n"]⟩ =
      .ok ["d,e", "n"] := by cbv
  have hrow : rowByName 0 [] {} [("deployment_name", "d,e"), ("namespace", "n")] =
      .ok { ns := "n", deployment := "d,e" } := rfl
  have hread : Table.ofCsv "report.csv" shuffled =
      .ok ⟨[{ ns := "n", deployment := "d,e" }]⟩ := by
    rw [Table.ofCsv, readRows, hrecords]
    simp only [hnames, readRecords, readRecord, htexts, List.length_cons, List.length_nil,
      ne_eq, not_true_eq_false, if_false, List.zip_cons_cons, List.zip_nil_left, hrow]
    rfl
  exact ⟨hread, ofCsv_reads hread⟩

/-- Names and cells of a file whose last header cell is no text. -/
def foreignName : List UInt8 :=
  encode "deployment_name,namespace,,,,,,,,,,,,,,,,,," ++ [0xFF] ++
    encode "\ndep,ns,,,,,,,,,,,,,,,,,,\n"

/-- Under such a header what the record gives as its deployment is read as its namespace. -/
theorem ofCsv_foreign_name :
    ¬ ∀ (reference : String) (file : List UInt8) (table : Table),
        Table.ofCsv reference file = .ok table →
          match Csv.records file with
          | [] => table.rows = []
          | header :: body => List.Forall₂ (ReadsByName header) body table.rows := by
  intro h
  have hread : Table.ofCsv "report.csv" foreignName =
      .ok ⟨[{ ns := "dep", deployment := "ns" }]⟩ := by cbv
  have hrecords : Csv.records foreignName =
      [⟨0, ⟨0, 1⟩, encode "deployment_name" :: encode "namespace" ::
          (List.replicate 17 [] ++ [[0xFF]])⟩,
        ⟨1, ⟨45, 2⟩, encode "dep" :: encode "ns" :: List.replicate 18 []⟩] := by cbv
  have hrows := h "report.csv" foreignName _ hread
  rw [hrecords] at hrows
  have hspelled : Spells (encode "namespace") Column.ns.name := ⟨_, rfl, rfl⟩
  cases hrows with
  | cons hrow _ =>
    cases hrow.cells .ns with
    | named _ _ honly hbelow hspells hholds =>
      -- the name is in the second cell of the header, and below it stands another text
      obtain rfl := honly 1 _ rfl hspelled
      cases hbelow
      obtain rfl := spells_unique hspells ⟨"ns", rfl, rfl⟩
      exact absurd hholds.2 (by decide)
    | unnamed hnone _ => exact hnone (encode "namespace") (by simp) hspelled

end UsageFeed.Report
