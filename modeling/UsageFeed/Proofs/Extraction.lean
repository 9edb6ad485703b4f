import UsageFeed.Proofs.ColumnNames
import UsageFeed.Proofs.RowCoverage
import UsageFeed.Proofs.TextFiles

/-!
# `UsageFeed.Proofs.Extraction` — from the cells of a report to what is told of a container

A container is told of if its sixteen figures are there and finite. Otherwise the first of them that
is not is blamed, and of the containers of a deployment the first that cannot be told of.

## Contents
- **Columns.** `Metric.listing`, the columns and the unit of each metric written out, and
  `listing_eq`, that the model's tables agree with it.
- **Rows.** `Row.figures`, the sixteen figures in order; `Extracts`, what comes of a container with
  such figures, and `containerMetrics_extracts`.
- **Records.** `TextUnder` and `FigureUnder`, what a record of a file gives under a name.
- **Deployments.** `containerMetricsOf_eq`, the row that is blamed for a deployment.
- `extraction_law`, all of it.
-/

namespace UsageFeed

namespace Report

open Csv (Spells)
open Text.Utf8 (encode)

/-! ## Columns -/

/-- How a metric is listed: the columns of its two figures, what the first of them is, and the
unit of both. -/
structure Metric.Listing where
  peakColumn : String
  meanColumn : String
  peak : Peak
  units : Units

/-- The columns, the statistic and the unit of each metric. -/
def Metric.listing : Metric → Metric.Listing
  | cpuRequest => ⟨"cpu_request_sum_container", "cpu_request_avg_container", .sum, .cores⟩
  | cpuLimit => ⟨"cpu_limit_sum_container", "cpu_limit_avg_container", .sum, .cores⟩
  | cpuUsage => ⟨"cpu_usage_max_container", "cpu_usage_avg_container", .max, .cores⟩
  | cpuThrottle => ⟨"cpu_throttle_max_container", "cpu_throttle_avg_container", .max, .cores⟩
  | memoryRequest => ⟨"mem_request_sum_container", "mem_request_avg_container", .sum, .mebibytes⟩
  | memoryLimit => ⟨"mem_limit_sum_container", "mem_limit_avg_container", .sum, .mebibytes⟩
  | memoryUsage => ⟨"mem_usage_max_container", "mem_usage_avg_container", .max, .mebibytes⟩
  | memoryRss =>
    ⟨"mem-rss_usage_max_container", "mem-rss_usage_avg_container", .max, .mebibytes⟩

/-- Where figures are read from, how they are told and what is blamed for them go by one listing. -/
theorem Metric.listing_eq (m : Metric) :
    m.listing = ⟨m.peakColumn, m.meanColumn, m.peak, m.units⟩ := by
  cases m <;> rfl

/-- The columns of the figures in order: metric by metric, the sum or maximum before the mean. -/
def figureColumns : List String :=
  Metric.all.flatMap fun m => [m.listing.peakColumn, m.listing.meanColumn]

example : figureColumns.length = 16 ∧ figureColumns.Nodup := by decide

/-! ## Rows -/

/-- A figure that can be told: it is there and finite. -/
def Fit (x : Option Float) : Prop := ∃ y, x = some y ∧ Decimal.isFinite y

/-- The figures of a row for some metrics, with their columns. -/
def Row.figures (r : Row) (metrics : List Metric) : List (String × Option Float) :=
  metrics.flatMap fun m =>
    [(m.listing.peakColumn, (r.measure m).peak), (m.listing.meanColumn, (r.measure m).mean)]

/-- The column is that of the first figure that cannot be told. -/
def FirstUnfit (figures : List (String × Option Float)) (column : String) : Prop :=
  ∃ before x after, figures = before ++ (column, x) :: after ∧ (∀ y ∈ before, Fit y.2) ∧ ¬ Fit x

/-- The statistic that a metric has beside the mean. -/
def Statistics.peak (m : Metric) (s : Statistics) : Option Float :=
  match m.listing.peak with
  | .sum => s.sum
  | .max => s.max

/-- The statistic that a metric does not have. -/
def Statistics.other (m : Metric) (s : Statistics) : Option Float :=
  match m.listing.peak with
  | .sum => s.max
  | .max => s.sum

/-- The figures that statistics hold, with the columns that these have in a report. -/
def ContainerMetrics.figures (c : ContainerMetrics) : List (String × Option Float) :=
  c.metrics.flatMap fun x =>
    [(x.1.listing.peakColumn, x.2.peak x.1), (x.1.listing.meanColumn, some x.2.mean)]

/-- What comes of a container with two names and such figures: it is told of if all can be told, with
these names and figures and nothing else, and otherwise the first that cannot be told is blamed. -/
structure Extracts (container image : String) (figures : List (String × Option Float))
    (result : Except Failure ContainerMetrics) : Prop where
  succeeds : (∃ c, result = .ok c) ↔ ∀ x ∈ figures, Fit x.2
  names : ∀ c, result = .ok c → c.container = container ∧ c.image = image
  metrics : ∀ c, result = .ok c → c.metrics.map (·.1) = Metric.all
  values : ∀ c, result = .ok c → c.figures = figures
  other : ∀ c, result = .ok c → ∀ x ∈ c.metrics, x.2.other x.1 = none
  units : ∀ c, result = .ok c → ∀ x ∈ c.metrics, x.2.units = x.1.listing.units
  blamed : ∀ f, result = .error f →
    ∃ column, FirstUnfit figures column ∧ f = .missingMetric container column

theorem FirstUnfit.append {figures : List (String × Option Float)} {column : String}
    (h : FirstUnfit figures column) (more : List (String × Option Float)) :
    FirstUnfit (figures ++ more) column := by
  obtain ⟨before, x, after, rfl, hbefore, hx⟩ := h
  exact ⟨before, x, after ++ more, by rw [List.append_assoc, List.cons_append], hbefore, hx⟩

theorem FirstUnfit.append_left {figures more : List (String × Option Float)} {column : String}
    (hfit : ∀ x ∈ figures, Fit x.2) (h : FirstUnfit more column) :
    FirstUnfit (figures ++ more) column := by
  obtain ⟨before, x, after, rfl, hbefore, hx⟩ := h
  exact ⟨figures ++ before, x, after, (List.append_assoc ..).symm,
    List.forall_mem_append.mpr ⟨hfit, hbefore⟩, hx⟩

/-- Not all figures can be told where one of them cannot. -/
theorem FirstUnfit.not_all {figures : List (String × Option Float)} {column : String}
    (h : FirstUnfit figures column) : ¬ ∀ x ∈ figures, Fit x.2 := by
  obtain ⟨before, x, after, rfl, _, hx⟩ := h
  exact fun hall => hx (hall (column, x) (List.mem_append_right _ List.mem_cons_self))

namespace Row

variable (r : Row)

theorem figure_cases (column : String) (x : Option Float) :
    (Fit x ∧ ∃ y, r.figure column x = .ok y) ∨
      ¬ Fit x ∧ r.figure column x = .error (.missingMetric r.container column) := by
  unfold figure Fit
  cases h : x.filter Decimal.isFinite with
  | some y => exact .inl ⟨⟨y, Option.filter_eq_some_iff.mp h⟩, y, rfl⟩
  | none =>
    refine .inr ⟨?_, rfl⟩
    rintro ⟨y, rfl, hy⟩
    rw [Option.filter_some, if_pos hy] at h
    cases h

/-- One metric is told if both figures can be, of which the mean comes second. -/
theorem statistics_cases (m : Metric) :
    ((∀ x ∈ r.figures [m], Fit x.2) ∧ ∃ s, r.statistics m = .ok s) ∨
      ∃ column, FirstUnfit (r.figures [m]) column ∧
        r.statistics m = .error (.missingMetric r.container column) := by
  have hfigures : r.figures [m] =
      [(m.peakColumn, (r.measure m).peak), (m.meanColumn, (r.measure m).mean)] := by
    unfold figures
    rw [List.flatMap_singleton, m.listing_eq]
  rw [hfigures]
  unfold statistics
  rcases r.figure_cases m.peakColumn (r.measure m).peak with ⟨hpeak, y, hy⟩ | ⟨hpeak, herror⟩
  · rw [hy]
    rcases r.figure_cases m.meanColumn (r.measure m).mean with ⟨hmean, z, hz⟩ | ⟨hmean, herror⟩
    · rw [hz]
      refine .inl ⟨by simp [hpeak, hmean], ?_⟩
      simp only [bind, Except.bind]
      cases m.peak <;> exact ⟨_, rfl⟩
    · rw [herror]
      exact .inr ⟨_, ⟨[_], _, [], rfl, List.forall_mem_singleton.mpr hpeak, hmean⟩, rfl⟩
  · rw [herror]
    exact .inr ⟨_, ⟨[], _, [_], rfl, nofun, hpeak⟩, rfl⟩

theorem figures_cons (m : Metric) (more : List Metric) :
    r.figures (m :: more) = r.figures [m] ++ r.figures more := by
  unfold figures
  rw [List.flatMap_singleton, List.flatMap_cons]

/-- Metrics are told one after another, up to the first figure that cannot be told. -/
theorem statisticsOf_cases (metrics : List Metric) :
    ((∀ x ∈ r.figures metrics, Fit x.2) ∧ ∃ entries, r.statisticsOf metrics = .ok entries) ∨
      ∃ column, FirstUnfit (r.figures metrics) column ∧
        r.statisticsOf metrics = .error (.missingMetric r.container column) := by
  induction metrics with
  | nil => exact .inl ⟨nofun, [], rfl⟩
  | cons m more ih =>
    rw [figures_cons, statisticsOf]
    rcases r.statistics_cases m with ⟨hfit, s, hs⟩ | ⟨column, hfirst, herror⟩
    · rw [hs]
      rcases ih with ⟨hmore, entries, hentries⟩ | ⟨column, hfirst, herror⟩
      · rw [hentries]
        exact .inl ⟨List.forall_mem_append.mpr ⟨hfit, hmore⟩, _, rfl⟩
      · rw [herror]
        exact .inr ⟨column, .append_left hfit hfirst, rfl⟩
    · rw [herror]
      exact .inr ⟨column, hfirst.append _, rfl⟩

variable {r}

/-- Statistics that show a row's figures hold these and no other. -/
theorem Shows.figures {m : Metric} {s : Statistics} (h : r.Shows m s) :
    (r.measure m).peak = s.peak m ∧ (r.measure m).mean = some s.mean ∧ s.other m = none ∧
      s.units = m.listing.units := by
  unfold Statistics.peak Statistics.other
  rw [m.listing_eq]
  refine ⟨?_, h.mean, ?_, h.units⟩
  · cases hm : m.peak with
    | sum => exact (h.sum.trans (if_pos hm)).symm
    | max => exact (h.max.trans (if_pos hm)).symm
  · cases hm : m.peak with
    | sum => exact h.max.trans (if_neg (by simp [hm]))
    | max => exact h.sum.trans (if_neg (by simp [hm]))

/-- **What comes of a row**, whatever figures it has. -/
theorem containerMetrics_extracts (r : Row) :
    Extracts r.container r.image (r.figures Metric.all) r.containerMetrics := by
  have hreported : ∀ c, r.containerMetrics = .ok c → r.ReportedAs c := fun _ =>
    reportedAs_of_containerMetrics
  have hcases : ((∀ x ∈ r.figures Metric.all, Fit x.2) ∧ ∃ c, r.containerMetrics = .ok c) ∨
      ∃ column, FirstUnfit (r.figures Metric.all) column ∧
        r.containerMetrics = .error (.missingMetric r.container column) := by
    unfold containerMetrics
    rcases r.statisticsOf_cases Metric.all with ⟨hfit, entries, h⟩ | ⟨column, hfirst, h⟩
    · rw [h]
      exact .inl ⟨hfit, _, rfl⟩
    · rw [h]
      exact .inr ⟨column, hfirst, rfl⟩
  refine ⟨?succeeds, fun c h => ⟨(hreported c h).container, (hreported c h).image⟩,
    fun c h => (hreported c h).metrics, ?values, ?other, ?units, ?blamed⟩
  case succeeds =>
    rcases hcases with ⟨hfit, hok⟩ | ⟨column, hfirst, herror⟩
    · exact ⟨fun _ => hfit, fun _ => hok⟩
    · refine ⟨?_, fun hfit => absurd hfit hfirst.not_all⟩
      rintro ⟨c, hc⟩
      rw [herror] at hc
      cases hc
  case values =>
    intro c h
    obtain ⟨-, -, hmetrics, hshows⟩ := hreported c h
    unfold ContainerMetrics.figures Row.figures
    rw [← hmetrics, List.flatMap_map]
    refine List.flatMap_congr fun x hx => ?_
    obtain ⟨hpeak, hmean, -, -⟩ := (hshows x hx).figures
    rw [hpeak, hmean]
  case other => exact fun c h x hx => ((hreported c h).shows x hx).figures.2.2.1
  case units => exact fun c h x hx => ((hreported c h).shows x hx).figures.2.2.2
  case blamed =>
    intro f hf
    rcases hcases with ⟨-, c, hc⟩ | ⟨column, hfirst, herror⟩
    · rw [hc] at hf
      cases hf
    · rw [herror] at hf
      cases hf
      exact ⟨column, hfirst, rfl⟩

end Row

/-! ## Records -/

section Records

variable (header record : Csv.Record)

/-- What a record gives under a name: the text below the only heading that spells the name, or
nothing if no heading does. -/
inductive TextUnder (name : String) : Option String → Prop
  | given {i : Nat} {heading cell : List UInt8} {t : String}
      (column : header.cells[i]? = some heading) (named : Spells heading name)
      (only : ∀ j other, header.cells[j]? = some other → Spells other name → j = i)
      (below : record.cells[i]? = some cell) (read : Spells cell t) : TextUnder name (some t)
  | missing (unnamed : ∀ heading ∈ header.cells, ¬ Spells heading name) : TextUnder name none

/-- The figure that a text stands for: there is none without a text, and none if it is empty. -/
inductive FigureOf : Option String → Option Float → Prop
  | missing : FigureOf none none
  | empty : FigureOf (some "") none
  | number {t : String} {x : Float} (filled : t ≠ "")
      (read : Decimal.readFloat? t.toList = some x) : FigureOf (some t) (some x)

/-- What a record gives under a name is the figure, or there is none and it gives none. -/
def FigureUnder (name : String) (x : Option Float) : Prop :=
  ∃ t, TextUnder header record name t ∧ FigureOf t x

/-- What comes of a record under a header: what comes of a container with the names and the figures
that the record gives under the names of their columns. -/
inductive ExtractsFrom (result : Except Failure ContainerMetrics) : Prop
  | intro (container image : Option String) (figures : List (String × Option Float))
      (named : TextUnder header record "container_name" container)
      (pictured : TextUnder header record "image_name" image)
      (columns : figures.map (·.1) = figureColumns)
      (given : ∀ x ∈ figures, FigureUnder header record x.1 x.2)
      (extracts : Extracts (container.getD "") (image.getD "") figures result)

variable {header record}

theorem FromColumn.textUnder {c : Column} {cell : Cell} (h : FromColumn header record c cell) :
    ∃ t, TextUnder header record c.name t ∧ c.Holds (t.getD "") cell := by
  cases h with
  | named heading spelled only below read held =>
    exact ⟨_, .given heading spelled only below read, held⟩
  | unnamed none blank => exact ⟨_, .missing none, blank⟩

theorem FromColumn.figureUnder {c : Column} {x : Option Float}
    (h : FromColumn header record c (.figure x)) : FigureUnder header record c.name x := by
  obtain ⟨t, ht, hholds⟩ := h.textUnder
  refine ⟨t, ht, ?_⟩
  cases x with
  | none =>
    cases t with
    | none => exact .missing
    | some t =>
      obtain rfl : t = "" := hholds.2
      exact .empty
  | some x =>
    cases t with
    | none => exact absurd rfl hholds.2.1
    | some t => exact .number hholds.2.1 hholds.2.2

/-- **What comes of a row is what comes of its record.** -/
theorem ReadsByName.extractsFrom {row : Row} (h : ReadsByName header record row) :
    ExtractsFrom header record row.containerMetrics := by
  obtain ⟨container, hcontainer, hname⟩ := (h.cells .container).textUnder
  obtain ⟨image, himage, hpicture⟩ := (h.cells .image).textUnder
  refine .intro container image (row.figures Metric.all) hcontainer himage rfl ?_ ?_
  · intro x hx
    obtain ⟨m, -, hx⟩ := List.mem_flatMap.mp hx
    rw [m.listing_eq] at hx
    rcases List.mem_pair.mp hx with rfl | rfl
    · exact (h.cells (.peak m)).figureUnder
    · exact (h.cells (.mean m)).figureUnder
  · rw [← hname.2, ← hpicture.2]
    exact row.containerMetrics_extracts

end Records

/-- **Every record of a text is told of, or blamed, by its own cells.** -/
theorem ofCsv_extracts {reference text : String} {table : Table}
    (h : Table.ofCsv reference (encode text) = .ok table) :
    match Csv.records (encode text) with
    | [] => table.rows = []
    | header :: body =>
      List.Forall₂ (fun record row => ExtractsFrom header record row.containerMetrics) body
        table.rows := by
  have hrows := rows_of_ofCsv h
  have hcells := Csv.cells_of_records text
  cases hrecords : Csv.records (encode text) with
  | nil =>
    unfold readRows at hrows
    rw [hrecords] at hrows
    exact (Except.ok.inj hrows).symm
  | cons header body =>
    have htext : IsText header := hcells header (hrecords ▸ List.mem_cons_self)
    exact (readsByName_of_readRows hrecords hrows htext).imp fun _ _ hrow => hrow.extractsFrom

/-! ## Deployments -/

/-- Why a row cannot be told of. -/
def Row.failure? (r : Row) : Option Failure :=
  match r.containerMetrics with
  | .error f => some f
  | .ok _ => none

/-- The first row that cannot be told of is blamed. -/
theorem containerMetricsOf_eq (rows : List Row) :
    match rows.findSome? Row.failure? with
    | some f => containerMetricsOf rows = .error f
    | none => ∃ metrics, containerMetricsOf rows = .ok metrics := by
  induction rows with
  | nil => exact ⟨[], rfl⟩
  | cons r more ih =>
    rw [List.findSome?_cons, containerMetricsOf, Row.failure?]
    cases r.containerMetrics with
    | error f => rfl
    | ok c =>
      cases hmore : more.findSome? Row.failure? with
      | some f =>
        rw [hmore] at ih
        simp only at ih
        rw [ih]
        rfl
      | none =>
        rw [hmore] at ih
        obtain ⟨metrics, hmetrics⟩ := ih
        rw [hmetrics]
        exact ⟨c :: metrics, rfl⟩

end Report

open Report (Row Table DeploymentUnit Metric)
open Text.Utf8 (encode)

variable {p : Pipeline} {c : Context}

/-- In the second phase one error is kept for each deployment with such a row. -/
theorem errors_foldl_visit (t : Trial) (answer : Answers) (s : Updates)
    (units : List DeploymentUnit) :
    (units.foldl (Updates.visit p c t answer) s).errors =
      s.errors ++ (units.filterMap fun u => u.rows.findSome? Row.failure?).map Failure.message := by
  induction units generalizing s with
  | nil => exact (List.append_nil _).symm
  | cons u more ih =>
    rw [List.foldl_cons, ih, List.filterMap_cons]
    have hrows := Report.containerMetricsOf_eq u.rows
    unfold Updates.visit updateFor
    cases hfirst : u.rows.findSome? Row.failure? with
    | some f =>
      rw [hfirst] at hrows
      simp only at hrows
      rw [hrows]
      simp [Except.map]
    | none =>
      rw [hfirst] at hrows
      obtain ⟨metrics, hmetrics⟩ := hrows
      rw [hmetrics]
      simp [Except.map]

/-- What is told of containers, and what is blamed where nothing is told. -/
structure ExtractionLaw : Prop where
  /-- Any row. -/
  rows : ∀ r : Row, Report.Extracts r.container r.image (r.figures Metric.all) r.containerMetrics
  /-- A row from a file that is text, by what stands under the header of the file. -/
  records : ∀ (reference text : String) (table : Table),
    Table.ofCsv reference (encode text) = .ok table →
      match Csv.records (encode text) with
      | [] => table.rows = []
      | header :: body =>
        List.Forall₂ (fun record row => Report.ExtractsFrom header record row.containerMetrics) body
          table.rows
  /-- The rows of a deployment, in the order of the file. -/
  deployments : ∀ (w : World) (p : Pipeline) (c : Context) (j : Journal) (reference : String)
    (table : Table), (w.load j reference).2 = .ok table →
      ((processReport p c reference).run w j).2.updateErrors =
        ((namedIds table).filterMap fun d =>
          (table.rowsOf d).findSome? Row.failure?).map Failure.message

/-- **A container is told of by its sixteen figures, or its first bad one is blamed.** -/
theorem extraction_law : ExtractionLaw where
  rows := Row.containerMetrics_extracts
  records _ _ _ := Report.ofCsv_extracts
  deployments := by
    intro w p c j reference table h
    obtain ⟨i, answer, -, -, houtcome⟩ := processReport_run (p := p) (c := c) h
    rw [houtcome]
    unfold tableOutcome
    simp only [errors_foldl_visit, List.nil_append]
    rw [kept_eq, units_named, List.filterMap_map]
    rfl

/-- A report on one deployment, both of whose rows lack figures. -/
def faultyReport : String :=
  "image_name,container_name,cpu_request_sum_container,namespace,deployment_name\n" ++
    "i,web,NaN,n,d\ni,log,,n,d\n"

theorem extraction_law_faulty :
    let web : Row :=
      { ns := "n", deployment := "d", container := "web", image := "i",
        cpuRequest := ⟨some Decimal.notANumber, none⟩ }
    let log : Row := { ns := "n", deployment := "d", container := "log", image := "i" }
    let w := World.still ⟨[web, log]⟩ fun _ => .error (.io "unplugged")
    Table.ofCsv "a.csv" (encode faultyReport) = .ok ⟨[web, log]⟩ ∧
      (match Csv.records (encode faultyReport) with
        | [] => [web, log] = []
        | header :: body =>
          List.Forall₂ (fun record row => Report.ExtractsFrom header record row.containerMetrics)
            body [web, log]) ∧
      ((processReport {} ⟨"", none, "org", "cluster", none⟩ "a.csv").run w []).2.updateErrors =
        [(Failure.missingMetric "web" "cpu_request_sum_container").message] := by
  intro web log w
  have hrecords : Csv.records (encode faultyReport) =
      [⟨0, ⟨0, 1⟩, [encode "image_name", encode "container_name",
          encode "cpu_request_sum_container", encode "namespace", encode "deployment_name"]⟩,
        ⟨1, ⟨78, 2⟩, [encode "i", encode "web", encode "NaN", encode "n", encode "d"]⟩,
        ⟨2, ⟨92, 3⟩, [encode "i", encode "log", [], encode "n", encode "d"]⟩] := by cbv
  have hnames : Report.headerNames? ⟨0, ⟨0, 1⟩, [encode "image_name", encode "container_name",
      encode "cpu_request_sum_container", encode "namespace", encode "deployment_name"]⟩ =
      some ["image_name", "container_name", "cpu_request_sum_container", "namespace",
        "deployment_name"] := by cbv
  have hweb : Csv.Record.texts ⟨1, ⟨78, 2⟩,
      [encode "i", encode "web", encode "NaN", encode "n", encode "d"]⟩ =
      .ok ["i", "web", "NaN", "n", "d"] := by cbv
  have hlog : Csv.Record.texts ⟨2, ⟨92, 3⟩,
      [encode "i", encode "log", [], encode "n", encode "d"]⟩ =
      .ok ["i", "log", "", "n", "d"] := by cbv
  have hwebRow : Report.rowByName 0 [] {} [("image_name", "i"), ("container_name", "web"),
      ("cpu_request_sum_container", "NaN"), ("namespace", "n"), ("deployment_name", "d")] =
      .ok web := rfl
  have hlogRow : Report.rowByName 0 [] {} [("image_name", "i"), ("container_name", "log"),
      ("cpu_request_sum_container", ""), ("namespace", "n"), ("deployment_name", "d")] =
      .ok log := rfl
  have hread : Table.ofCsv "a.csv" (encode faultyReport) = .ok ⟨[web, log]⟩ := by
    rw [Table.ofCsv, Report.readRows, hrecords]
    simp only [hnames, Report.readRecords, Report.readRecord, hweb, hlog, List.length_cons,
      List.length_nil, ne_eq, not_true_eq_false, if_false, List.zip_cons_cons, List.zip_nil_left,
      hwebRow, hlogRow]
    rfl
  have herrors := extraction_law.deployments w {} ⟨"", none, "org", "cluster", none⟩ [] "a.csv"
    ⟨[web, log]⟩ rfl
  refine ⟨hread, extraction_law.records "a.csv" faultyReport ⟨[web, log]⟩ hread, herrors.trans ?_⟩
  have hids : namedIds ⟨[web, log]⟩ = [("n", "d")] := by cbv
  have hrows : Table.rowsOf ⟨[web, log]⟩ ("n", "d") = [web, log] := by cbv
  have hbad : web.failure? = some (.missingMetric "web" "cpu_request_sum_container") := by
    have hnan : Decimal.isFinite Decimal.notANumber = false := by decide +kernel
    have hfigure : web.figure Metric.cpuRequest.peakColumn (some Decimal.notANumber) =
        .error (.missingMetric "web" "cpu_request_sum_container") := by
      rw [Row.figure, Option.filter_some, hnan]
      rfl
    have hstatistics : web.statistics .cpuRequest =
        .error (.missingMetric "web" "cpu_request_sum_container") := by
      show web.figure Metric.cpuRequest.peakColumn (some Decimal.notANumber) >>= _ = _
      rw [hfigure]
      rfl
    have hall : web.statisticsOf Metric.all =
        .error (.missingMetric "web" "cpu_request_sum_container") := by
      rw [Metric.all, Row.statisticsOf, hstatistics]
      rfl
    rw [Row.failure?, Row.containerMetrics, hall]
    rfl
  simp [hids, hrows, hbad]

end UsageFeed
