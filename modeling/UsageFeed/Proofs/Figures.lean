import Mathlib.Data.List.Forall2
import UsageFeed.Report.ContainerMetrics

/-!
# `UsageFeed.Proofs.Figures` — what is told of a container is what its row says

## Contents
- **One metric.** `Row.Shows`, statistics that are the row's own, and `statistics_shows`.
- **One container.** `Row.ReportedAs` and `reportedAs_of_containerMetrics`; that there is something to
  tell if all figures are there (`exists_containerMetrics`).
- **Several.** `forall₂_reportedAs`, row by row.
-/

namespace UsageFeed

/-- A computation that succeeds does so step by step. -/
theorem exists_ok_of_bind {ε α β : Type} {x : Except ε α} {f : α → Except ε β} {b : β}
    (h : x >>= f = .ok b) : ∃ a, x = .ok a ∧ f a = .ok b := by
  cases x with
  | error e => cases h
  | ok a => exact ⟨a, rfl, h⟩

namespace Report

/-! ## One metric -/

/-- Statistics show the two figures of a row for a metric: the mean, and beside it the sum or the
maximum, whichever the metric has. -/
structure Row.Shows (r : Row) (m : Metric) (s : Statistics) : Prop where
  mean : (r.measure m).mean = some s.mean
  peak : (r.measure m).peak.isSome
  sum : s.sum = if m.peak = .sum then (r.measure m).peak else none
  max : s.max = if m.peak = .max then (r.measure m).peak else none
  units : s.units = m.units

/-- Statistics by metric and the names of a container are those of a row. -/
structure Row.ReportedAs (r : Row) (c : ContainerMetrics) : Prop where
  container : c.container = r.container
  image : c.image = r.image
  metrics : c.metrics.map (·.1) = Metric.all
  shows : ∀ x ∈ c.metrics, r.Shows x.1 x.2

namespace Row

variable {r : Row}

theorem eq_some_of_figure {column : String} {x : Option Float} {y : Float}
    (h : r.figure column x = .ok y) : x = some y := by
  unfold figure at h
  cases hx : x.filter Decimal.isFinite with
  | none => simp [hx] at h
  | some z =>
    simp only [hx, Except.ok.injEq] at h
    rw [← h]
    exact (Option.filter_eq_some_iff.mp hx).1

theorem statistics_shows {m : Metric} {s : Statistics} (h : r.statistics m = .ok s) :
    r.Shows m s := by
  obtain ⟨peak, hpeak, h⟩ := exists_ok_of_bind h
  obtain ⟨mean, hmean, h⟩ := exists_ok_of_bind h
  have hp : (r.measure m).peak = some peak := eq_some_of_figure hpeak
  have hm : (r.measure m).mean = some mean := eq_some_of_figure hmean
  cases hkind : m.peak with
  | sum =>
    have hs : ⟨some peak, mean, none, m.units⟩ = s := by simpa [hkind] using h
    subst hs
    exact ⟨hm, by simp [hp], by simp [hkind, hp], by simp [hkind], rfl⟩
  | max =>
    have hs : ⟨none, mean, some peak, m.units⟩ = s := by simpa [hkind] using h
    subst hs
    exact ⟨hm, by simp [hp], by simp [hkind], by simp [hkind, hp], rfl⟩

/-- Several metrics are shown one after another. -/
theorem statisticsOf_shows {metrics : List Metric} {entries : List (Metric × Statistics)}
    (h : r.statisticsOf metrics = .ok entries) :
    entries.map (·.1) = metrics ∧ ∀ x ∈ entries, r.Shows x.1 x.2 := by
  induction metrics generalizing entries with
  | nil =>
    have he : [] = entries := by simpa [statisticsOf] using h
    subst he
    exact ⟨rfl, fun x hx => absurd hx List.not_mem_nil⟩
  | cons m more ih =>
    obtain ⟨s, hs, h⟩ := exists_ok_of_bind h
    obtain ⟨rest, hrest, h⟩ := exists_ok_of_bind h
    have he : (m, s) :: rest = entries := by simpa using h
    subst he
    obtain ⟨hnames, hshows⟩ := ih hrest
    refine ⟨by rw [List.map_cons, hnames], ?_⟩
    exact List.forall_mem_cons.mpr ⟨statistics_shows hs, hshows⟩

/-! ## One container -/

/-- **What is told of a container is what its row says.** -/
theorem reportedAs_of_containerMetrics {c : ContainerMetrics} (h : r.containerMetrics = .ok c) :
    r.ReportedAs c := by
  obtain ⟨entries, hentries, h⟩ := exists_ok_of_bind h
  have hc : ⟨r.container, r.image, entries⟩ = c := by simpa using h
  subst hc
  obtain ⟨hnames, hshows⟩ := statisticsOf_shows hentries
  exact ⟨rfl, rfl, hnames, hshows⟩

theorem figure_of_finite {x : Float} (h : Decimal.isFinite x) (column : String) :
    r.figure column (some x) = .ok x := by
  unfold figure
  rw [Option.filter_some, if_pos h]

/-- A container can be told of if all figures of its row are there and finite. -/
theorem exists_containerMetrics
    (h : ∀ m, ∃ x y, r.measure m = ⟨some x, some y⟩ ∧ Decimal.isFinite x ∧ Decimal.isFinite y) :
    ∃ c, r.containerMetrics = .ok c := by
  have hone : ∀ m, ∃ s, r.statistics m = .ok s := by
    intro m
    obtain ⟨x, y, hm, hx, hy⟩ := h m
    unfold statistics
    simp only [hm, figure_of_finite hx, figure_of_finite hy, bind, Except.bind]
    cases m.peak <;> exact ⟨_, rfl⟩
  have hseveral : ∀ metrics, ∃ entries, r.statisticsOf metrics = .ok entries := by
    intro metrics
    induction metrics with
    | nil => exact ⟨[], rfl⟩
    | cons m metrics ih =>
      obtain ⟨s, hs⟩ := hone m
      obtain ⟨entries, hentries⟩ := ih
      refine ⟨(m, s) :: entries, ?_⟩
      simp only [statisticsOf, hs, hentries, bind, Except.bind]
  obtain ⟨entries, hentries⟩ := hseveral Metric.all
  refine ⟨⟨r.container, r.image, entries⟩, ?_⟩
  simp only [containerMetrics, hentries, bind, Except.bind]

end Row

/-! ## Several -/

/-- Of several rows each is told of in its place. -/
theorem forall₂_reportedAs {rows : List Row} {metrics : List ContainerMetrics}
    (h : containerMetricsOf rows = .ok metrics) : List.Forall₂ Row.ReportedAs rows metrics := by
  induction rows generalizing metrics with
  | nil =>
    have hm : [] = metrics := by simpa [containerMetricsOf] using h
    subst hm
    exact List.Forall₂.nil
  | cons r more ih =>
    obtain ⟨c, hc, h⟩ := exists_ok_of_bind h
    obtain ⟨rest, hrest, h⟩ := exists_ok_of_bind h
    have hm : c :: rest = metrics := by simpa using h
    subst hm
    exact List.Forall₂.cons (Row.reportedAs_of_containerMetrics hc) (ih hrest)

end Report
end UsageFeed
