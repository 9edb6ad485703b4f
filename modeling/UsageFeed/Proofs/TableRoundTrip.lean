import UsageFeed.Proofs.Loading

/-!
# `UsageFeed.Proofs.TableRoundTrip` — a table that was written down is read back

However a table is written down, with its columns in any order and columns of no meaning among
them, with any quotes, ends of lines and spellings of figures, reading the file gives the table.

## Contents
- **Layouts.** `Layout`, the choices in writing a table down, `Layout.write`, and `Layout.Fits`, the
  choices that keep what the rows say.
- **The header.** `Heading.ReadAs`, the names that may be read of a heading, and `header_read`, also
  when the file has no mark but its first name looks like one.
- **Rows.** `Heading.Answers`, a heading with a name that serves it, and `rowByName_write`, by which
  each row is read as it was (`readRecord_write`).
- **Files.** `ofCsv_write`.
-/

namespace UsageFeed.Report

open Csv (Spells texts_eq_ok_iff LineEnd blanks writeCell writeRecord writeRecords)
open Text (trim isBlank)
open Text.Utf8 (encode byteOrderMark dropMark)

/-! ## Layouts -/

/-- A column of a file. -/
inductive Heading where
  | known (c : Column)
  /-- A column of no meaning, with its cells row by row. -/
  | extra (name : String) (cells : Nat → String)

/-- What is written over a column. -/
def Heading.name : Heading → String
  | known c => c.name
  | extra name _ => name

/-- The column of rows that stands there, if any does. -/
def Heading.column? : Heading → Option Column
  | known c => some c
  | extra _ _ => none

/-- The choices in writing a table down. -/
structure Layout where
  /-- Whether the file opens with a byte order mark. -/
  marked : Bool
  /-- The blank lines before the header. -/
  opening : List LineEnd
  columns : List Heading
  /-- The texts of the figures, row by row. -/
  spelling : Nat → Column → String
  /-- The cells that are quoted in any case, line by line, the header being the first. -/
  quoted : Nat → Nat → Bool
  /-- How each line ends; further ends of lines are those of blank lines. -/
  ends : Nat → List LineEnd

namespace Layout

/-- The text of a row under a heading. -/
def text (l : Layout) (i : Nat) (row : Row) : Heading → String
  | .known c =>
    match row.cell c with
    | .text s => s
    | .figure _ => l.spelling i c
  | .extra _ cells => cells i

/-- The texts of a line as they are written, with the ends of lines after them. -/
def line (l : Layout) (i : Nat) (texts : List String) :
    List (Bool × List UInt8) × List LineEnd :=
  (texts.mapIdx fun j t => (l.quoted i j, encode t), l.ends i)

/-- The header. -/
def header (l : Layout) : List (Bool × List UInt8) × List LineEnd :=
  l.line 0 (l.columns.map Heading.name)

/-- The lines below the header. -/
def body (l : Layout) (rows : List Row) : List (List (Bool × List UInt8) × List LineEnd) :=
  rows.mapIdx fun i row => l.line (i + 1) (l.columns.map (l.text i row))

/-- The rows as they are written down. -/
def write (l : Layout) (rows : List Row) : List UInt8 :=
  (if l.marked then byteOrderMark else []) ++
    (blanks l.opening ++ writeRecords (l.header :: l.body rows))

end Layout

/-- The text without a byte order mark at its front. -/
def withoutMark (s : String) : String :=
  match s.toList with
  | '\uFEFF' :: more => String.ofList more
  | _ => s

/-- The layout keeps what the rows say. -/
structure Layout.Fits (l : Layout) (rows : List Row) : Prop where
  /-- No column of rows stands there twice. -/
  once : (l.columns.filterMap Heading.column?).Nodup
  /-- A column of no meaning has no name that has one. -/
  foreign : ∀ (name : String) (cells : Nat → String), .extra name cells ∈ l.columns →
    ∀ c : Column, trim name ≠ c.name ∧ trim (withoutMark name) ≠ c.name
  /-- A column of rows is left out only if no row has anything there. -/
  complete : ∀ c : Column, .known c ∉ l.columns → ∀ row ∈ rows, c.Holds "" (row.cell c)
  /-- Each figure is spelled as a number with its value, or not at all if it is absent. -/
  spelled : ∀ (i : Nat) (row : Row), rows[i]? = some row → ∀ c : Column, .known c ∈ l.columns →
    c.isFigure = true → c.Holds (l.spelling i c) (row.cell c)
  /-- Every line is ended, except perhaps the last one. -/
  ended : ∀ i < rows.length, l.ends i ≠ []

/-- The row says where it belongs, and its texts have no white space around them. -/
structure Row.IsTidy (row : Row) : Prop where
  placed : row.ns ≠ "" ∧ row.deployment ≠ ""
  trimmed : ∀ (c : Column) (s : String), row.cell c = .text s → trim s = s

/-! ## The header -/

theorem trim_name (c : Column) : trim c.name = c.name := by
  refine Text.trim_eq_self (Text.isBlank_of_all ?_)
  cases c with
  | ns | deployment | container | image => rfl
  | peak m | mean m => cases m <;> rfl

theorem withoutMark_name (c : Column) : withoutMark c.name = c.name := by
  cases c with
  | ns | deployment | container | image => rfl
  | peak m | mean m => cases m <;> rfl

/-- Of a file that opens with a text and a byte of its own after it, a mark at the front is the
beginning of the text. -/
theorem eq_of_mark {name : String} {rest u : List UInt8} (hrest : ∀ b ∈ rest.head?, b.toNat < 0x80)
    (h : encode name ++ rest = byteOrderMark ++ u) :
    encode name = byteOrderMark ++ encode (withoutMark name) ∧
      u = encode (withoutMark name) ++ rest := by
  have hmark : byteOrderMark = String.utf8EncodeChar '\uFEFF' := by decide
  unfold withoutMark
  cases hname : name.toList with
  | nil =>
    -- then the mark would begin with the byte that stands after the text
    have hempty : encode name = [] := by rw [encode, hname, List.flatMap_nil]
    rw [hempty, List.nil_append] at h
    have hlow := hrest 0xEF (by rw [h]; rfl)
    exact absurd hlow (by decide)
  | cons c more =>
    have hencode : encode name = String.utf8EncodeChar c ++ more.flatMap String.utf8EncodeChar := by
      rw [encode, hname, List.flatMap_cons]
    have hnext : Text.Utf8.next (encode name ++ rest) = .char c _ :=
      Text.Utf8.next_eq_char_iff.mpr (by rw [hencode, List.append_assoc])
    have hnext' : Text.Utf8.next (encode name ++ rest) = .char '\uFEFF' u :=
      Text.Utf8.next_eq_char_iff.mpr (by rw [h, hmark])
    obtain ⟨rfl, rfl⟩ := Text.Utf8.Next.char.inj (hnext'.symm.trans hnext)
    simp only
    rw [hencode, hmark, encode, String.toList_ofList]
    exact ⟨rfl, rfl⟩

/-- What is read of a line are the bytes of its texts. -/
theorem cells_line (l : Layout) (i : Nat) (texts : List String) :
    (l.line i texts).1.map Prod.snd = texts.map encode := by
  refine List.ext_getElem (by simp [Layout.line]) fun j _ _ => ?_
  simp [Layout.line]

theorem spells_map (texts : List String) :
    List.Forall₂ Spells (texts.map encode) (texts.map trim) := by
  rw [List.forall₂_map_left_iff, List.forall₂_map_right_iff, List.forall₂_same]
  exact fun t _ => ⟨t, rfl, rfl⟩

/-- The name that is read of a heading: it may have lost what looked like the mark of the file. -/
def Heading.ReadAs (h : Heading) (name : String) : Prop :=
  name = trim h.name ∨ name = trim (withoutMark h.name)

theorem dropMark_mark (bytes : List UInt8) : dropMark (byteOrderMark ++ bytes) = bytes := rfl

theorem toNat_lt_of_isTerminator {b : UInt8} (h : Csv.isTerminator b) : b.toNat < 0x80 := by
  rcases (by simpa [Csv.isTerminator] using h : b = 0x0A ∨ b = 0x0D) with rfl | rfl <;> decide

/-- If a header opens with what looks like the mark of the file, its first name does, and it is
written without quotes. -/
theorem firstName_read {l : Layout} {h : Heading} {more : List Heading} {tail u : List UInt8}
    (hcolumns : l.columns = h :: more) (htail : Csv.EndsRecord tail)
    (hfile : writeRecord l.header.1 ++ tail = byteOrderMark ++ u) :
    ∃ written, u = writeRecord written ++ tail ∧
      written.map Prod.snd = (withoutMark h.name :: more.map Heading.name).map encode := by
  obtain ⟨quoted, rest, hheader⟩ : ∃ quoted rest, l.header.1 = (quoted, encode h.name) :: rest := by
    rw [Layout.header, Layout.line, hcolumns, List.map_cons, List.mapIdx_cons]
    exact ⟨_, _, rfl⟩
  have hrest : rest.map Prod.snd = (more.map Heading.name).map encode := by
    have hcells := cells_line l 0 (l.columns.map Heading.name)
    rw [← Layout.header, hheader, hcolumns] at hcells
    exact (List.cons.inj hcells).2
  rw [hheader, Csv.writeRecord_cons, List.append_assoc] at hfile
  -- after the first name stands a comma or the end of the line
  have hafter : ∀ b ∈ ((rest.flatMap fun d => Csv.comma :: writeCell d.1 d.2) ++ tail).head?,
      b.toNat < 0x80 := by
    cases rest with
    | nil => exact fun b hb => toNat_lt_of_isTerminator (htail b hb)
    | cons d rest =>
      rintro _ ⟨⟩
      decide
  unfold writeCell at hfile
  split at hfile
  · cases (List.cons.inj hfile).1
  rename_i hbare
  obtain ⟨hname, hu⟩ := eq_of_mark hafter hfile
  refine ⟨(false, encode (withoutMark h.name)) :: rest, ?_, ?_⟩
  · have hquotes : Csv.needsQuotes (encode (withoutMark h.name)) = false := by
      simp only [Bool.or_eq_true, not_or, Bool.not_eq_true, hname, Csv.needsQuotes,
        List.any_append] at hbare
      exact hbare.2.2
    rw [hu, Csv.writeRecord_cons, writeCell, hquotes]
    exact (List.append_assoc _ _ _).symm
  · rw [List.map_cons, hrest]
    rfl

/-- **The header is read below its mark.** If the file has none, the first name may look like one,
and is read without. -/
theorem header_read (l : Layout) {tail : List UInt8} (htail : Csv.EndsRecord tail) :
    ∃ written names,
      dropMark ((if l.marked then byteOrderMark else []) ++
          (blanks l.opening ++ (writeRecord l.header.1 ++ tail))) =
        blanks l.opening ++ (writeRecord written ++ tail) ∧
      List.Forall₂ Spells (written.map Prod.snd) names ∧
      List.Forall₂ Heading.ReadAs l.columns names := by
  -- as a rule, the names are those that were written
  have hplain : List.Forall₂ Spells (l.header.1.map Prod.snd)
        ((l.columns.map Heading.name).map trim) ∧
      List.Forall₂ Heading.ReadAs l.columns ((l.columns.map Heading.name).map trim) := by
    refine ⟨?_, ?_⟩
    · rw [Layout.header, cells_line]
      exact spells_map _
    · rw [List.map_map, List.forall₂_map_right_iff, List.forall₂_same]
      exact fun h _ => .inl rfl
  by_cases hmarked : l.marked = true
  · rw [if_pos hmarked, dropMark_mark]
    exact ⟨l.header.1, _, rfl, hplain⟩
  rw [if_neg hmarked, List.nil_append]
  generalize hfile : blanks l.opening ++ (writeRecord l.header.1 ++ tail) = file
  by_cases hmark : byteOrderMark <+: file
  · obtain ⟨u, rfl⟩ := hmark
    rw [dropMark_mark]
    -- no line ends with a byte of the mark, so it stands at the very beginning
    have hopening : blanks l.opening = [] := by
      cases hblanks : blanks l.opening with
      | nil => rfl
      | cons b bytes =>
        rw [hblanks] at hfile
        have hb := Csv.isTerminator_blanks l.opening b (hblanks ▸ List.mem_cons_self)
        rw [(List.cons.inj hfile).1] at hb
        cases hb
    simp only [hopening, List.nil_append] at hfile ⊢
    cases hcolumns : l.columns with
    | nil =>
      have hnone : writeRecord l.header.1 = [] := by
        rw [Layout.header, hcolumns]
        rfl
      rw [hnone, List.nil_append] at hfile
      have hb := htail 0xEF (by rw [hfile]; rfl)
      cases hb
    | cons h more =>
      obtain ⟨written, hwritten, hcells⟩ := firstName_read hcolumns htail hfile
      refine ⟨written, (withoutMark h.name :: more.map Heading.name).map trim, hwritten, ?_, ?_⟩
      · rw [hcells]
        exact spells_map _
      · rw [List.map_cons, List.map_map]
        refine .cons (.inr rfl) ?_
        rw [List.forall₂_map_right_iff, List.forall₂_same]
        exact fun h _ => .inl rfl
  · have hsame : dropMark file = file := by
      rw [dropMark, if_neg]
      rwa [List.isPrefixOf_iff_prefix]
    rw [hsame, ← hfile]
    exact ⟨l.header.1, _, rfl, hplain⟩

/-! ## Rows -/

/-- The name serves the heading: over a column of rows it is the name of that column, over any other
it is no column's. -/
def Heading.Answers : Heading → String → Prop
  | known c, name => name = c.name
  | extra _ _, name => ∀ c : Column, name ≠ c.name

theorem holds_unique {c : Column} {s : String} {a b : Cell} (ha : c.Holds s a)
    (hb : c.Holds s b) : a = b := by
  have hread : c.readCell 0 s = .ok a := readCell_eq_ok_iff.mpr ha
  exact Except.ok.inj (hread.symm.trans (readCell_eq_ok_iff.mpr hb))

/-- **A row is read as it was**, cell by cell, wherever its columns stand and whatever stands among
them. -/
theorem rowByName_write {columns : List Heading} {names texts : List String} {row : Row}
    (hnames : List.Forall₂ Heading.Answers columns names)
    (htexts : List.Forall₂ (fun h t => ∀ c, h = .known c → c.Holds t (row.cell c)) columns texts)
    (honce : (columns.filterMap Heading.column?).Nodup) (seen : List Column)
    (hseen : ∀ c ∈ seen, .known c ∉ columns) (field : Nat) (r : Row) :
    ∃ result, rowByName field seen r (names.zip texts) = .ok result ∧
      ∀ c, (.known c ∈ columns → result.cell c = row.cell c) ∧
        (.known c ∉ columns → result.cell c = r.cell c) := by
  induction hnames generalizing texts seen field r with
  | nil => exact ⟨r, rfl, fun c => ⟨nofun, fun _ => rfl⟩⟩
  | @cons h name columns names hname _ ih =>
    cases htexts with
    | @cons _ t _ texts ht htexts =>
      rw [List.zip_cons_cons, rowByName]
      cases h with
      | extra s cells =>
        have hnone : Column.ofName? name = none := by
          rw [Option.eq_none_iff_forall_ne_some]
          intro c hc
          exact hname c (ofName?_eq_some_iff.mp hc)
        have hmem : ∀ {c : Column}, .known c ∈ Heading.extra s cells :: columns ↔
            Heading.known c ∈ columns := by simp
        obtain ⟨result, hresult, hcells⟩ := ih htexts honce seen
          (fun c hc hmem => hseen c hc (List.mem_cons_of_mem _ hmem)) (field + 1) r
        rw [hnone]
        exact ⟨result, hresult, fun c => by rw [hmem]; exact hcells c⟩
      | known d =>
        obtain rfl : name = d.name := hname
        have hholds : d.Holds t (row.cell d) := ht d rfl
        have hread : d.readCell field t = .ok (row.cell d) := readCell_eq_ok_iff.mpr hholds
        obtain ⟨hfirst, honce⟩ := List.nodup_cons.mp honce
        have hnew : d ∉ seen := fun hd => hseen d hd List.mem_cons_self
        have hrest : .known d ∉ columns := fun hd =>
          hfirst (List.mem_filterMap.mpr ⟨.known d, hd, rfl⟩)
        have hseen : ∀ c ∈ d :: seen, .known c ∉ columns := by
          rintro c (_ | ⟨_, hc⟩)
          · exact hrest
          · exact fun hmem => hseen c hc (List.mem_cons_of_mem _ hmem)
        obtain ⟨result, hresult, hcells⟩ :=
          ih htexts honce (d :: seen) hseen (field + 1) (r.put d (row.cell d))
        simp only [ofName?_name, if_neg hnew, hread]
        refine ⟨result, hresult, fun c => ?_⟩
        by_cases hc : c = d
        · subst hc
          refine ⟨fun _ => ?_, fun hnone => absurd List.mem_cons_self hnone⟩
          rw [(hcells c).2 hrest, cell_put hholds, if_pos rfl]
        · have hmem : .known c ∈ Heading.known d :: columns ↔ Heading.known c ∈ columns := by
            simp [hc]
          rw [hmem]
          refine ⟨(hcells c).1, fun hnone => ?_⟩
          rw [(hcells c).2 hnone, cell_put hholds, if_neg hc]

theorem isFigure_cell (row : Row) (c : Column) :
    match row.cell c with
    | .text _ => c.isFigure = false
    | .figure _ => c.isFigure = true := by
  cases c <;> rfl

/-- The text of a row under a column means what the row has there, and is trimmed. -/
theorem text_holds {l : Layout} {rows : List Row} (hl : l.Fits rows) {i : Nat} {row : Row}
    (hrow : rows[i]? = some row) (htidy : row.IsTidy) {c : Column} (hc : .known c ∈ l.columns) :
    c.Holds (trim (l.text i row (.known c))) (row.cell c) := by
  have hkind := isFigure_cell row c
  cases hcell : row.cell c with
  | text s =>
    rw [hcell] at hkind
    have htext : l.text i row (.known c) = s := by simp only [Layout.text, hcell]
    rw [htext, htidy.trimmed c s hcell]
    exact ⟨hkind, rfl⟩
  | figure x =>
    rw [hcell] at hkind
    have hspelling : l.text i row (.known c) = l.spelling i c := by simp only [Layout.text, hcell]
    have hspelled := hl.spelled i row hrow c hc hkind
    rw [hcell] at hspelled
    -- the text of a number has no white space that trimming could take off
    have htrim : trim (l.spelling i c) = l.spelling i c := by
      cases x with
      | none =>
        rw [hspelled.2]
        rfl
      | some x => exact Text.trim_eq_self (Decimal.isBlank_readFloat? hspelled.2.2)
    rwa [hspelling, htrim]

/-- What is read of a heading serves it. -/
theorem answers_of_readAs {l : Layout} {rows : List Row} (hl : l.Fits rows) {h : Heading}
    (hmem : h ∈ l.columns) {name : String} (hname : h.ReadAs name) : h.Answers name := by
  cases h with
  | known c =>
    rcases hname with rfl | rfl
    · exact trim_name c
    · show trim (withoutMark c.name) = c.name
      rw [withoutMark_name, trim_name]
  | extra s cells =>
    intro c
    rcases hname with rfl | rfl
    · exact (hl.foreign s cells hmem c).1
    · exact (hl.foreign s cells hmem c).2

/-- **Each line is read as its row.** -/
theorem readRecord_write {l : Layout} {rows : List Row} (hl : l.Fits rows) {names : List String}
    (hnames : List.Forall₂ Heading.ReadAs l.columns names) {i : Nat} {row : Row}
    (hrow : rows[i]? = some row) (htidy : row.IsTidy) {record : Csv.Record}
    (hrecord : record.cells = (l.columns.map (l.text i row)).map encode) :
    readRecord l.columns.length (some names) record = .ok row := by
  have hanswers : List.Forall₂ Heading.Answers l.columns names :=
    ((List.forall₂_and_left l.columns names).mpr ⟨fun _ hmem => hmem, hnames⟩).imp
      fun _ _ h => answers_of_readAs hl h.1 h.2
  have htexts : record.texts = .ok ((l.columns.map (l.text i row)).map trim) := by
    rw [texts_eq_ok_iff, hrecord]
    exact spells_map _
  have hholds : List.Forall₂ (fun h t => ∀ c, h = .known c → c.Holds t (row.cell c)) l.columns
      ((l.columns.map (l.text i row)).map trim) := by
    rw [List.map_map, List.forall₂_map_right_iff, List.forall₂_same]
    rintro _ hmem c rfl
    exact text_holds hl hrow htidy hmem
  obtain ⟨result, hresult, hcells⟩ :=
    rowByName_write hanswers hholds hl.once [] nofun 0 {}
  have hsame : result = row := by
    refine Row.ext_cell fun c => ?_
    by_cases hc : .known c ∈ l.columns
    · exact (hcells c).1 hc
    · rw [(hcells c).2 hc]
      exact holds_unique (holds_blank c) (hl.complete c hc row (List.mem_of_getElem? hrow))
  unfold readRecord
  rw [if_neg (by simp [hrecord]), htexts]
  exact hresult.trans (congrArg Except.ok hsame)

/-! ## Files -/

theorem ofRows_tidy {rows : List Row} (h : ∀ row ∈ rows, row.IsTidy) :
    Table.ofRows rows = .ok ⟨rows⟩ := by
  have haccepts := ofRows_accepts rows
  obtain ⟨⟨rows'⟩, htable⟩ := haccepts.accepted.mpr fun row hrow => (h row hrow).placed
  obtain rfl : rows' = rows := haccepts.whole _ htable
  exact htable

/-- A file of tidy rows has two columns at least, for where the rows belong. -/
theorem two_le_columns {l : Layout} {rows : List Row} (hl : l.Fits rows) {row : Row}
    (hrow : row ∈ rows) (htidy : row.IsTidy) : 2 ≤ l.columns.length := by
  have hns : .known .ns ∈ l.columns := by
    by_contra hout
    exact htidy.placed.1 (hl.complete .ns hout row hrow).2
  have hdeployment : .known .deployment ∈ l.columns := by
    by_contra hout
    exact htidy.placed.2 (hl.complete .deployment hout row hrow).2
  match hcolumns : l.columns with
  | [] =>
    rw [hcolumns] at hns
    cases hns
  | [h] =>
    rw [hcolumns, List.mem_singleton] at hns hdeployment
    rw [← hdeployment] at hns
    cases hns
  | _ :: _ :: _ => exact Nat.le_add_left 2 _

/-- The lines of a file of tidy rows are read one by one. -/
theorem records_write {l : Layout} {rows : List Row} (hl : l.Fits rows)
    (hrows : ∀ row ∈ rows, row.IsTidy) (hsome : rows ≠ [])
    {written : List (Bool × List UInt8)} (hwritten : written.length = l.columns.length)
    (p : Csv.Position) :
    (Csv.recordsFrom 0 p (blanks l.opening ++
        writeRecords ((written, l.ends 0) :: l.body rows))).map Csv.Record.cells =
      written.map Prod.snd ::
        rows.mapIdx fun i row => (l.columns.map (l.text i row)).map encode := by
  obtain ⟨row, hrow⟩ := List.exists_mem_of_ne_nil rows hsome
  have hcolumns := two_le_columns hl hrow (hrows row hrow)
  have hbody : (l.body rows).length = rows.length := List.length_mapIdx
  rw [Csv.recordsFrom_write ?_ ?_ (Csv.isTerminator_blanks l.opening), List.map_cons]
  · refine congrArg (_ :: ·) (List.ext_getElem (by simp [hbody]) fun i _ _ => ?_)
    simp [Layout.body, cells_line]
  · rintro r (_ | ⟨_, hr⟩)
    · exact Csv.writeRecord_ne_nil (hwritten ▸ hcolumns)
    · obtain ⟨i, hi, rfl⟩ := List.mem_mapIdx.mp hr
      refine Csv.writeRecord_ne_nil ?_
      rw [Layout.line, List.length_mapIdx, List.length_map]
      exact hcolumns
  · intro i r hr hi
    rw [List.length_cons, hbody] at hi
    have hended := hl.ended i (Nat.lt_of_succ_lt_succ hi)
    cases i with
    | zero =>
      cases hr
      exact hended
    | succ i =>
      rw [List.getElem?_cons_succ, Layout.body, List.getElem?_mapIdx] at hr
      obtain ⟨row, _, rfl⟩ := Option.map_eq_some_iff.mp hr
      exact hended

/-- A header alone makes one record, or none if nothing is written of it. -/
theorem records_header (l : Layout) (written : List (Bool × List UInt8)) (p : Csv.Position) :
    (Csv.recordsFrom 0 p (blanks l.opening ++ writeRecords [(written, l.ends 0)])).length ≤ 1 := by
  by_cases hempty : writeRecord written = []
  · have hblank : ∀ b ∈ blanks l.opening ++ writeRecords [(written, l.ends 0)],
        Csv.isTerminator b := by
      rw [writeRecords, List.flatMap_singleton, hempty, List.nil_append]
      exact List.forall_mem_append.mpr
        ⟨Csv.isTerminator_blanks l.opening, Csv.isTerminator_blanks (l.ends 0)⟩
    rw [Csv.recordsFrom_blank hblank]
    exact Nat.zero_le 1
  · have hwritten : ∀ r ∈ [(written, l.ends 0)], writeRecord r.1 ≠ [] := by simpa using hempty
    have hcells := Csv.recordsFrom_write hwritten (fun i _ _ hi => absurd hi (by simp))
      (Csv.isTerminator_blanks l.opening) 0 p
    rw [← List.length_map (f := Csv.Record.cells), hcells]
    exact Nat.le_refl 1

/-- **Reading a table that has been written down gives the table.** -/
theorem ofCsv_write {l : Layout} {rows : List Row} (hl : l.Fits rows)
    (hrows : ∀ row ∈ rows, row.IsTidy) (reference : String) :
    Table.ofCsv reference (l.write rows) = .ok ⟨rows⟩ := by
  have hended : l.body rows = [] ∨ l.ends 0 ≠ [] := by
    cases rows with
    | nil => exact .inl rfl
    | cons row rows => exact .inr (hl.ended 0 (Nat.succ_pos _))
  obtain ⟨written, names, hfile, hnames, hreadAs⟩ :=
    header_read l (Csv.endsRecord_blanks hended).1
  have hlength : written.length = l.columns.length := by
    rw [← List.length_map (f := Prod.snd), hnames.length_eq, hreadAs.length_eq]
  -- below the mark stand the lines, the header first
  have hbody : dropMark (l.write rows) =
      blanks l.opening ++ writeRecords ((written, l.ends 0) :: l.body rows) := by
    rw [Layout.write, writeRecords, writeRecords, List.flatMap_cons, List.flatMap_cons,
      List.append_assoc, List.append_assoc]
    exact hfile
  have hread : readRows (l.write rows) = .ok rows := by
    unfold readRows Csv.records
    simp only [hbody]
    generalize (⟨_, 1⟩ : Csv.Position) = p
    by_cases hnone : rows = []
    · subst hnone
      have hone : (Csv.recordsFrom 0 p (blanks l.opening ++
          writeRecords ((written, l.ends 0) :: l.body []))).length ≤ 1 := records_header l written p
      split
      · rfl
      · rename_i header body hrecords
        rw [hrecords, List.length_cons] at hone
        rw [List.length_eq_zero_iff.mp (Nat.le_zero.mp (Nat.le_of_succ_le_succ hone))]
        rfl
    · have hcells := records_write hl hrows hnone hlength p
      obtain ⟨header, body, hrecords, hheader, hlines⟩ := List.map_eq_cons_iff.mp hcells
      rw [hrecords]
      simp only
      have hwidth : header.cells.length = l.columns.length := by
        rw [hheader, List.length_map, hlength]
      rw [hwidth, headerNames?_eq_some_iff.mpr (hheader ▸ hnames), readRecords_eq_ok_iff]
      have hcount := congrArg List.length hlines
      rw [List.length_map, List.length_mapIdx] at hcount
      refine List.forall₂_iff_get.mpr ⟨hcount, fun i hi hi' => ?_⟩
      refine readRecord_write hl hreadAs (List.getElem?_eq_getElem hi') ?_ ?_
      · exact hrows _ (List.getElem_mem hi')
      · have hline := List.getElem_of_eq hlines (by simpa using hi)
        simpa using hline
  unfold Table.ofCsv
  rw [hread]
  exact ofRows_tidy hrows

/-- Two rows, one of them with a figure and with a comma in a text. -/
def notedRows : List Row :=
  [{ ns := "n", deployment := "a,b",
     cpuRequest := { peak := some (Decimal.Literal.value ⟨false, [1], [5], 0⟩) } },
    { ns := "m", deployment := "d" }]

/-- They are written down beside notes, under a name that looks like the mark of the file. -/
def noted : Layout where
  marked := false
  opening := []
  columns := [.extra "\uFEFFnote" fun _ => "x\"\r\n", .known .deployment,
    .known (.peak .cpuRequest), .known .ns]
  spelling i _ := if i = 0 then "1.5e0" else ""
  quoted i j := i = j
  ends i := if i = 2 then [] else [.both, .feed]

theorem ofCsv_write_noted :
    noted.Fits notedRows ∧ (∀ row ∈ notedRows, row.IsTidy) ∧
      Table.ofCsv "report.csv" (noted.write notedRows) = .ok ⟨notedRows⟩ := by
  have hfits : noted.Fits notedRows := by
    constructor
    case once => decide
    case foreign =>
      intro name cells hmem c
      obtain ⟨rfl, -⟩ : name = "\uFEFFnote" ∧ _ := by simpa [noted] using hmem
      cases c with
      | ns | deployment | container | image => decide
      | peak m | mean m => cases m <;> decide
    case complete =>
      intro c hout row hrow
      have hin : c ≠ .deployment ∧ c ≠ .peak .cpuRequest ∧ c ≠ .ns := by simpa [noted] using hout
      rcases (by simpa [notedRows] using hrow : row = _ ∨ row = _) with rfl | rfl
      all_goals
        cases c with
        | ns | deployment => simp at hin
        | container | image => exact ⟨rfl, rfl⟩
        | peak m | mean m => cases m <;> first | exact ⟨rfl, rfl⟩ | simp at hin
    case spelled =>
      intro i row hrow c hc hfigure
      obtain rfl : c = .peak .cpuRequest := by
        rcases (by simpa [noted] using hc : c = .deployment ∨ c = _ ∨ c = .ns) with rfl | rfl | rfl
        · cases hfigure
        · rfl
        · cases hfigure
      match i, hrow with
      | 0, hrow =>
        cases hrow
        exact ⟨rfl, by decide, rfl⟩
      | 1, hrow =>
        cases hrow
        exact ⟨rfl, rfl⟩
    case ended => decide
  have htidy : ∀ row ∈ notedRows, row.IsTidy := by
    intro row hrow
    rcases (by simpa [notedRows] using hrow : row = _ ∨ row = _) with rfl | rfl
    all_goals
      refine ⟨by decide, fun c s hs => ?_⟩
      cases c with
      | ns | deployment | container | image =>
        obtain rfl := Cell.text.inj hs
        rfl
      | peak m | mean m => cases hs
  exact ⟨hfits, htidy, ofCsv_write hfits htidy "report.csv"⟩

end UsageFeed.Report
