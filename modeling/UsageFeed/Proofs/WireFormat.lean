import Mathlib.Data.List.Nodup
import UsageFeed.Proofs.Figures
import UsageFeed.Proofs.JsonRecords
import UsageFeed.Proofs.Phases
import UsageFeed.Proofs.Requests

/-!
# `UsageFeed.Proofs.WireFormat` — what is written is read back as it was

For each kind of value with a JSON form there is one theorem, named `reads`, that follows its
fields. It says within how many open containers the value is read.

## Contents
- **Events, experiments, calls.** Values of texts, numbers and lists.
- **Statistics and results.** `IsSound`, the values that can be kept, and what order entries come
  back in (`inMetricOrder_eq`); `UpdateResults.refuses`, results with a value that nests too deep.
- **Health.** Parts and reports.
- **What is sent.** `Json.NullFree`, and `updateFor_isSound`: results are made of sound statistics.
- **Requests.** `Service.Call.Posts`, what is read of the requests of a call; `Call.Posts.sent`, that
  there is one.
- **The wire format.** `WireFormat` and `wireFormat`.
-/

namespace UsageFeed

open Json (Decoder Reads Refuses Fills Stops Survives survives_half IsValue reads_text reads_bool
  reads_count reads_long reads_float reads_variant reads_ofOption reads_list reads_map reads_record
  refuses_list refuses_record)

variable {n : Nat}

/-! ## Events -/

theorem Event.Metadata.reads (m : Event.Metadata) :
    Reads (n + 1) Event.Metadata.shape.decode m.toJson m := by
  refine reads_record (by decide) ?_
  refine Fills.defaulted (reads_ofOption reads_text (fun _ => rfl) m.orgId) ?_
  refine Fills.defaulted (reads_ofOption reads_text (fun _ => rfl) m.account) ?_
  refine Fills.defaulted (reads_ofOption reads_text (fun _ => rfl) m.clusterId) ?_
  exact Fills.done

theorem Event.reads (e : Event) : Reads (n + 2) Event.shape.decode e.toJson e := by
  refine reads_record (by decide) ?_
  refine Fills.defaulted (reads_ofOption reads_text (fun _ => rfl) e.requestId) ?_
  refine Fills.defaulted (reads_ofOption reads_text (fun _ => rfl) e.identity) ?_
  refine Fills.defaulted (reads_ofOption Event.Metadata.reads (fun _ => rfl) e.metadata) ?_
  refine Fills.defaulted (reads_list fun t _ => reads_text t) ?_
  exact Fills.done

/-! ## Experiments and calls -/

theorem Experiment.reads (e : Experiment) :
    Reads (n + 1) Experiment.shape.decode e.toJson e := by
  refine reads_record (by decide) ?_
  refine Fills.field (reads_text _) ?_
  refine Fills.field (reads_text _) ?_
  refine Fills.field (reads_text _) ?_
  exact Fills.done

theorem Trial.reads {t : Trial} (h : t.number < Nat.pow 2 32) :
    Reads (n + 1) Trial.shape.decode t.toJson t := by
  refine reads_record (by decide) ?_
  refine Fills.field (reads_count h) ?_
  refine Fills.field (reads_text _) ?_
  exact Fills.done

theorem ListQuery.reads (q : ListQuery) : Reads (n + 1) ListQuery.shape.decode q.toJson q := by
  refine reads_record (by decide) ?_
  refine Fills.field (reads_text _) ?_
  refine Fills.field (reads_text _) ?_
  refine Fills.field (reads_text _) ?_
  exact Fills.done

theorem ContainerIdentity.reads (c : ContainerIdentity) :
    Reads (n + 1) ContainerIdentity.shape.decode c.toJson c := by
  refine reads_record (by decide) ?_
  refine Fills.field (reads_text _) ?_
  refine Fills.field (reads_text _) ?_
  exact Fills.done

theorem CreateExperiment.reads (p : CreateExperiment) :
    Reads (n + 3) CreateExperiment.shape.decode p.toJson p := by
  have htrial : Reads (n + 2) CreateExperiment.trialSettingsShape.decode
      (.object [("measurement_duration", .text p.measurementDuration)]) p.measurementDuration :=
    reads_record (by decide) (Fills.field (reads_text _) Fills.done)
  have hthreshold : Reads (n + 2) CreateExperiment.recommendationSettingsShape.decode
      (.object [("threshold", .text p.threshold)]) p.threshold :=
    reads_record (by decide) (Fills.field (reads_text _) Fills.done)
  refine reads_record (by decide) ?_
  refine Fills.field (reads_text _) ?_
  refine Fills.field (reads_text _) ?_
  refine Fills.field (reads_text _) ?_
  refine Fills.field htrial ?_
  refine Fills.field hthreshold ?_
  refine Fills.field (reads_text _) ?_
  refine Fills.field (reads_text _) ?_
  refine Fills.field (reads_text _) ?_
  refine Fills.field (reads_list fun c _ => c.reads) ?_
  exact Fills.done

/-! ## Statistics -/

namespace Report

/-- The figures among statistics. -/
def Statistics.figures (s : Statistics) : List Float := s.sum.toList ++ s.mean :: s.max.toList

theorem isNull_float {x : Float} (h : Decimal.isFinite x) : (Json.float x).isNull = false := by
  simp [Json.float, Json.isNull, h]

theorem Statistics.reads_info {s : Statistics} (h : ∀ x ∈ s.figures, Survives x) :
    Reads (n + 1) Statistics.infoShape.decode (.object (Statistics.optional "sum" s.sum ++
      [("mean", .float s.mean)] ++ Statistics.optional "max" s.max ++
      [("units", .text s.units.name)])) s := by
  have hmembers : Statistics.optional "sum" s.sum ++ [("mean", .float s.mean)] ++
      Statistics.optional "max" s.max ++ [("units", .text s.units.name)] =
      (s.sum.map fun x => ("sum", .float x)).toList ++ ("mean", .float s.mean) ::
        ((s.max.map fun x => ("max", .float x)).toList ++ [("units", .text s.units.name)]) := by
    cases s.sum <;> cases s.max <;> rfl
  have hfigure : ∀ {x}, Survives x → Reads n .float (.float x) x ∧ (Json.float x).isNull = false :=
    fun hx => ⟨reads_float hx, isNull_float hx.finite⟩
  have hunits : Units.byName.lookup s.units.name = some s.units := by cases s.units <;> decide
  rw [hmembers]
  refine reads_record (by decide) ?_
  refine Fills.ofOption (fun x hx => hfigure (h x (by simp [figures, hx]))) rfl ?_
  refine Fills.field (reads_float (h _ (by simp [figures]))) ?_
  refine Fills.ofOption (fun x hx => hfigure (h x (by simp [figures, hx]))) rfl ?_
  refine Fills.field (reads_variant hunits) ?_
  exact Fills.done

theorem Statistics.reads {s : Statistics} (h : ∀ x ∈ s.figures, Survives x) :
    Reads (n + 3) Statistics.shape.decode s.toJson s := by
  refine reads_record (by decide) (Fills.field ?_ Fills.done)
  exact reads_record (by decide) (Fills.field (Statistics.reads_info h) Fills.done)

theorem lookup_reverse_eq_none {κ α : Type} [BEq κ] [LawfulBEq κ] {k : κ}
    {entries : List (κ × α)} (h : k ∉ entries.map (·.1)) : entries.reverse.lookup k = none := by
  rw [List.lookup_eq_none_iff]
  intro e he
  have hne : k ≠ e.1 := by
    rintro rfl
    exact h (List.mem_map.mpr ⟨e, List.mem_reverse.mp he, rfl⟩)
  simpa using hne

/-- Entries in the order of their keys are found key by key. -/
theorem filterMap_lookup {κ α : Type} [BEq κ] [LawfulBEq κ] {keys : List κ} (hkeys : keys.Nodup)
    {entries : List (κ × α)} (h : (entries.map (·.1)).Sublist keys) :
    keys.filterMap (fun k => (entries.reverse.lookup k).map fun a => (k, a)) = entries := by
  induction keys generalizing entries with
  | nil =>
    rw [List.map_eq_nil_iff.mp (List.sublist_nil.mp h)]
    rfl
  | cons k keys ih =>
    obtain ⟨hnot, hnodup⟩ := List.nodup_cons.mp hkeys
    cases entries with
    | nil => simp
    | cons e entries =>
      rw [List.map_cons, List.cons_sublist_cons'] at h
      rcases h with h | ⟨rfl, h⟩
      · -- the first key has no entry
        have hnone : (e :: entries).reverse.lookup k = none :=
          lookup_reverse_eq_none fun hk => hnot (h.subset hk)
        rw [List.filterMap_cons_none (by rw [hnone]; rfl)]
        exact ih hnodup h
      · -- the first entry is that of the first key, and no other key finds it
        have hfirst : (e :: entries).reverse.lookup e.1 = some e.2 := by
          rw [List.reverse_cons, List.lookup_append,
            lookup_reverse_eq_none fun hk => hnot (h.subset hk)]
          exact List.lookup_cons_self
        have hrest : ∀ k ∈ keys, (e :: entries).reverse.lookup k = entries.reverse.lookup k := by
          intro k hk
          have hne : (k == e.1) = false := by
            rw [beq_eq_false_iff_ne]
            rintro rfl
            exact hnot hk
          rw [List.reverse_cons, List.lookup_append, List.lookup_cons, hne]
          exact Option.or_none
        rw [List.filterMap_cons_some (by rw [hfirst]; rfl),
          List.filterMap_congr fun k hk => by rw [hrest k hk], ih hnodup h]

/-- Statistics in the order of their metrics, one of each, are left as they are. -/
theorem inMetricOrder_eq {entries : List (Metric × Statistics)}
    (h : (entries.map (·.1)).Sublist Metric.all) : inMetricOrder entries = entries := by
  have hall : Metric.all.Nodup := by decide
  exact filterMap_lookup hall h

/-- The statistics of a container as they are kept: by metric in the order of the metrics, with
figures that survive. -/
structure ContainerMetrics.IsSound (c : ContainerMetrics) : Prop where
  ordered : (c.metrics.map (·.1)).Sublist Metric.all
  survive : ∀ e ∈ c.metrics, ∀ x ∈ e.2.figures, Survives x

theorem ContainerMetrics.reads {c : ContainerMetrics} (h : c.IsSound) :
    Reads (n + 5) ContainerMetrics.shape.decode c.toJson c := by
  have hmetrics : Reads (n + 4) (.map (Json.readVariant Metric.byName) Statistics.shape.decode)
      (.object (c.metrics.map fun e => (e.1.name, e.2.toJson))) c.metrics := by
    refine reads_map ?_ fun e he => Statistics.reads (h.survive e he)
    intro e _ s t hs
    have hname : Metric.byName.lookup e.1.name = some e.1 := by cases e.1 <;> decide
    exact Json.readVariant_known hname hs
  refine reads_record (by decide) ?_
  refine Fills.field (reads_text _) ?_
  refine Fills.field (reads_text _) ?_
  refine Fills.field hmetrics ?_
  have hordered := inMetricOrder_eq h.ordered
  simp only [hordered]
  exact Fills.done

end Report

/-! ## Results -/

/-- The results of a deployment as they are kept: its values are values, within so many containers,
and the statistics of its containers are sound. -/
structure DeploymentResults.IsSound (n : Nat) (d : DeploymentResults) : Prop where
  values : ∀ v ∈ d.podMetrics, IsValue v ∧ v.nesting ≤ n
  containers : ∀ c ∈ d.containers, c.IsSound

theorem DeploymentResults.reads {d : DeploymentResults} (h : d.IsSound n) (hn : 5 ≤ n) :
    Reads (n + 2) DeploymentResults.shape.decode d.toJson d := by
  have hvalues : Reads (n + 1) (.list Json.readValue) (.list (d.podMetrics.map id)) d.podMetrics :=
    reads_list fun v hv => (h.values v hv).1.reads (h.values v hv).2
  rw [List.map_id] at hvalues
  obtain ⟨k, rfl⟩ : ∃ k, n = k + 5 := ⟨n - 5, by omega⟩
  refine reads_record (by decide) ?_
  refine Fills.field (reads_text _) ?_
  refine Fills.field (reads_text _) ?_
  refine Fills.field hvalues ?_
  refine Fills.field (reads_list fun c hc => Report.ContainerMetrics.reads (h.containers c hc)) ?_
  exact Fills.done

/-- Results with a value that nests deeper are refused. -/
theorem DeploymentResults.refuses {d : DeploymentResults} (h : d.IsSound n) {m : Nat}
    (hdeep : ¬d.IsSound m) : Refuses (m + 2) DeploymentResults.shape.decode d.toJson := by
  have hone : ∃ v ∈ d.podMetrics, Refuses m Json.readValue v := by
    by_contra hnone
    refine hdeep ⟨fun v hv => ⟨(h.values v hv).1, ?_⟩, h.containers⟩
    by_contra hlt
    exact hnone ⟨v, hv, (h.values v hv).1.refuses (Nat.lt_of_not_le hlt)⟩
  have heach : ∀ v ∈ d.podMetrics, Reads m Json.readValue v v ∨ Refuses m Json.readValue v := by
    intro v hv
    have hvalue := (h.values v hv).1
    exact (Nat.lt_or_ge m v.nesting).symm.imp hvalue.reads hvalue.refuses
  have hvalues : Refuses (m + 1) (.list Json.readValue) (.list (d.podMetrics.map id)) :=
    refuses_list heach hone
  rw [List.map_id] at hvalues
  refine refuses_record (by decide) ?_
  refine Stops.field (reads_text _) ?_
  refine Stops.field (reads_text _) ?_
  exact Stops.here hvalues

/-- Results as they are kept: the number of the trial has 32 bits. -/
structure UpdateResults.IsSound (n : Nat) (p : UpdateResults) : Prop where
  number : p.trial.number < Nat.pow 2 32
  deployments : ∀ d ∈ p.deployments, d.IsSound n

/-- Results that are sound within fewer containers are so within more. -/
theorem UpdateResults.IsSound.mono {m : Nat} {p : UpdateResults} (h : p.IsSound n) (hm : n ≤ m) :
    p.IsSound m where
  number := h.number
  deployments d hd :=
    ⟨fun v hv => ⟨((h.deployments d hd).values v hv).1,
        Nat.le_trans ((h.deployments d hd).values v hv).2 hm⟩, (h.deployments d hd).containers⟩

theorem UpdateResults.reads_info {p : UpdateResults} (h : p.IsSound n) {m : Nat} :
    Reads (m + 2) UpdateResults.infoShape.decode (.object [("trial_info", p.trial.toJson)])
      p.trial :=
  reads_record (by decide) (Fills.field (Trial.reads h.number) Fills.done)

theorem UpdateResults.reads {p : UpdateResults} (h : p.IsSound n) (hn : 5 ≤ n) :
    Reads (n + 4) UpdateResults.shape.decode p.toJson p := by
  refine reads_record (by decide) ?_
  refine Fills.field (reads_text _) ?_
  refine Fills.field (UpdateResults.reads_info h) ?_
  refine Fills.field (reads_list fun d hd => DeploymentResults.reads (h.deployments d hd) hn) ?_
  exact Fills.done

theorem UpdateResults.refuses {p : UpdateResults} (h : p.IsSound n) {m : Nat} (hm : 5 ≤ m)
    (hdeep : ¬p.IsSound m) : Refuses (m + 4) UpdateResults.shape.decode p.toJson := by
  have heach : ∀ d ∈ p.deployments, Reads (m + 2) DeploymentResults.shape.decode d.toJson d ∨
      Refuses (m + 2) DeploymentResults.shape.decode d.toJson := by
    intro d hd
    by_cases hsound : d.IsSound m
    · exact .inl (DeploymentResults.reads hsound hm)
    · exact .inr (DeploymentResults.refuses (h.deployments d hd) hsound)
  have hone : ∃ d ∈ p.deployments, Refuses (m + 2) DeploymentResults.shape.decode d.toJson := by
    by_contra hnone
    refine hdeep ⟨h.number, fun d hd => ?_⟩
    by_contra hsound
    exact hnone ⟨d, hd, DeploymentResults.refuses (h.deployments d hd) hsound⟩
  refine refuses_record (by decide) ?_
  refine Stops.field (reads_text _) ?_
  refine Stops.field (UpdateResults.reads_info h) ?_
  exact Stops.here (refuses_list heach hone)

/-! ## Health -/

namespace Health

theorem lookup_status (s : Status) : Status.byName.lookup s.name = some s := by
  cases s <;> decide

/-- A part as it is kept: the number of its failures has 32 bits, and the time of its check 64. -/
structure Checked.IsSound (c : Checked) : Prop where
  failures : c.component.failures < Nat.pow 2 32
  early : -Nat.pow 2 63 ≤ c.time
  late : c.time < Nat.pow 2 63

theorem Checked.reads {c : Checked} (h : c.IsSound) :
    Reads (n + 1) Checked.shape.decode c.toJson c := by
  have hmembers : [("status", Json.text c.component.status.name)] ++
      optionalText "message" c.component.message ++
      [("consecutive_failures", .nat c.component.failures), ("last_check_timestamp", .int c.time)] =
      ("status", .text c.component.status.name) ::
        ((c.component.message.map fun s => ("message", Json.text s)).toList ++
          [("consecutive_failures", .nat c.component.failures),
            ("last_check_timestamp", .int c.time)]) := by
    cases c.component.message <;> rfl
  unfold Checked.toJson
  rw [hmembers]
  refine reads_record (by decide) ?_
  refine Fills.field (reads_variant (lookup_status _)) ?_
  refine Fills.ofOption (fun t _ => ⟨reads_text t, rfl⟩) rfl ?_
  refine Fills.field (reads_count h.failures) ?_
  refine Fills.field (reads_long h.early h.late) ?_
  exact Fills.done

/-- Parts with names that differ are left as they are. -/
theorem distinctParts_eq {parts : List (String × Checked)} (h : (parts.map (·.1)).Nodup) :
    distinctParts parts = parts := by
  induction parts using List.reverseRecOn with
  | nil => rfl
  | append_singleton parts p ih =>
    rw [List.map_append, List.nodup_append] at h
    obtain ⟨hparts, -, hdistinct⟩ := h
    have hkeep : parts.filter (·.1 != p.1) = parts := by
      rw [List.filter_eq_self]
      intro q hq
      simpa using hdistinct q.1 (List.mem_map.mpr ⟨q, hq, rfl⟩) p.1 List.mem_cons_self
    unfold distinctParts at ih ⊢
    rw [List.foldl_append, ih hparts]
    show parts.filter (·.1 != p.1) ++ [p] = _
    rw [hkeep]

/-- A report as it is kept: there is one entry for each name. -/
structure CheckedReport.IsSound (r : CheckedReport) : Prop where
  distinct : (r.components.map (·.1)).Nodup
  parts : ∀ p ∈ r.components, p.2.IsSound

theorem CheckedReport.reads {r : CheckedReport} (h : r.IsSound) :
    Reads (n + 3) CheckedReport.shape.decode r.toJson r := by
  have hparts : Reads (n + 2) (.map Json.readText Checked.shape.decode)
      (.object (r.components.map fun p => (p.1, p.2.toJson))) r.components :=
    reads_map (fun _ _ _ _ hs => hs) fun p hp => Checked.reads (h.parts p hp)
  refine reads_record (by decide) ?_
  refine Fills.field (reads_variant (lookup_status _)) ?_
  refine Fills.field hparts ?_
  have hdistinct := distinctParts_eq h.distinct
  simp only [hdistinct]
  exact Fills.done

theorem Readiness.reads (r : Readiness) : Reads (n + 1) Readiness.shape.decode r.toJson r := by
  have hmembers : [("ready", Json.bool r.ready)] ++ optionalText "reason" r.reason =
      ("ready", .bool r.ready) ::
        ((r.reason.map fun s => ("reason", Json.text s)).toList ++ []) := by
    cases r.reason <;> rfl
  unfold Readiness.toJson
  rw [hmembers]
  refine reads_record (by decide) ?_
  refine Fills.field (reads_bool _) ?_
  refine Fills.ofOption (fun t _ => ⟨reads_text t, rfl⟩) rfl ?_
  exact Fills.done

end Health

/-! ## What is sent -/

/-- Null is written nowhere in a document. -/
inductive Json.NullFree : Json → Prop
  | bool (b : Bool) : NullFree (.bool b)
  | whole (n : Int) : NullFree (.number (.whole n))
  | float {x : Float} (finite : Decimal.isFinite x) : NullFree (.number (.float x))
  | text (t : String) : NullFree (.text t)
  | list {items : List Json} (h : ∀ j ∈ items, NullFree j) : NullFree (.list items)
  | object {members : List (String × Json)} (h : ∀ m ∈ members, NullFree m.2) :
      NullFree (.object members)

namespace Report

/-- The figures of a row survive. -/
def Row.Survives (r : Row) : Prop :=
  ∀ m x, (r.measure m).peak = some x ∨ (r.measure m).mean = some x → Json.Survives x

/-- Statistics show no figures but those of the row. -/
theorem Row.Shows.survive {r : Row} (h : r.Survives) {m : Metric} {s : Statistics}
    (hs : r.Shows m s) : ∀ x ∈ s.figures, Json.Survives x := by
  have hpeak : ∀ x, (r.measure m).peak = some x → Json.Survives x := fun x hx => h m x (.inl hx)
  intro x hx
  simp only [Statistics.figures, List.mem_append, List.mem_cons, Option.mem_toList] at hx
  rcases hx with hx | rfl | hx
  · rw [hs.sum] at hx
    split at hx
    · exact hpeak x hx
    · cases hx
  · exact h m _ (.inr hs.mean)
  · rw [hs.max] at hx
    split at hx
    · exact hpeak x hx
    · cases hx

theorem Row.ReportedAs.isSound {r : Row} (h : r.Survives) {c : ContainerMetrics}
    (hc : r.ReportedAs c) : c.IsSound where
  ordered := by rw [hc.metrics]
  survive e he := (hc.shows e he).survive h

theorem Statistics.nullFree {s : Statistics} (h : ∀ x ∈ s.figures, Json.Survives x) :
    s.toJson.NullFree := by
  have hfloat : ∀ x ∈ s.figures, (Json.float x).NullFree := fun x hx => .float (h x hx).finite
  have hoptional : ∀ name (o : Option Float), (∀ x, o = some x → x ∈ s.figures) →
      ∀ m ∈ optional name o, m.2.NullFree := by
    intro name o ho m hm
    cases o with
    | none => exact absurd hm List.not_mem_nil
    | some x =>
      rw [List.mem_singleton.mp hm]
      exact hfloat x (ho x rfl)
  have hinfo : ∀ m ∈ optional "sum" s.sum ++ [("mean", Json.float s.mean)] ++
      optional "max" s.max ++ [("units", .text s.units.name)], m.2.NullFree := by
    simp only [List.forall_mem_append, List.forall_mem_singleton]
    refine ⟨⟨⟨hoptional _ _ ?_, hfloat _ (by simp [figures])⟩, hoptional _ _ ?_⟩, .text _⟩
    · exact fun x hx => by simp [figures, hx]
    · exact fun x hx => by simp [figures, hx]
  refine .object (List.forall_mem_singleton.mpr ?_)
  refine .object (List.forall_mem_singleton.mpr ?_)
  exact .object hinfo

theorem ContainerMetrics.nullFree {c : ContainerMetrics} (h : c.IsSound) : c.toJson.NullFree := by
  have hmetrics : ∀ m ∈ c.metrics.map fun e => (e.1.name, e.2.toJson), m.2.NullFree := by
    intro m hm
    obtain ⟨e, he, rfl⟩ := List.mem_map.mp hm
    exact Statistics.nullFree (h.survive e he)
  refine .object ?_
  simp only [List.forall_mem_cons]
  exact ⟨.text _, .text _, .object hmetrics, fun _ h => absurd h List.not_mem_nil⟩

/-- Rows of which each can be told of can be told of together. -/
theorem exists_containerMetricsOf {rows : List Row}
    (h : ∀ r ∈ rows, ∃ c, r.containerMetrics = .ok c) :
    ∃ metrics, containerMetricsOf rows = .ok metrics := by
  induction rows with
  | nil => exact ⟨[], rfl⟩
  | cons r rows ih =>
    obtain ⟨⟨c, hc⟩, hrows⟩ := List.forall_mem_cons.mp h
    obtain ⟨metrics, hmetrics⟩ := ih hrows
    refine ⟨c :: metrics, ?_⟩
    simp only [containerMetricsOf, hc, hmetrics, bind, Except.bind]

/-- Of several rows each is told of with its own figures. -/
theorem isSound_of_reportedAs {rows : List Row} {metrics : List ContainerMetrics}
    (h : List.Forall₂ Row.ReportedAs rows metrics) (hrows : ∀ r ∈ rows, r.Survives) :
    ∀ c ∈ metrics, c.IsSound := by
  induction h with
  | nil => exact fun _ hc => absurd hc List.not_mem_nil
  | cons hc _ ih =>
    obtain ⟨hr, hmore⟩ := List.forall_mem_cons.mp hrows
    exact List.forall_mem_cons.mpr ⟨hc.isSound hr, ih hmore⟩

end Report

/-- Results are free of null where the values among them are. -/
theorem UpdateResults.nullFree {p : UpdateResults} (h : p.IsSound n)
    (hvalues : ∀ d ∈ p.deployments, ∀ v ∈ d.podMetrics, v.NullFree) : p.toJson.NullFree := by
  have hnone : ∀ m ∈ ([] : List (String × Json)), m.2.NullFree := fun _ hm =>
    absurd hm List.not_mem_nil
  have hdeployment : ∀ d ∈ p.deployments, d.toJson.NullFree := by
    intro d hd
    have hcontainers : ∀ j ∈ d.containers.map Report.ContainerMetrics.toJson, j.NullFree := by
      intro j hj
      obtain ⟨c, hc, rfl⟩ := List.mem_map.mp hj
      exact Report.ContainerMetrics.nullFree ((h.deployments d hd).containers c hc)
    refine .object ?_
    simp only [List.forall_mem_cons]
    exact ⟨.text _, .text _, .list (hvalues d hd), .list hcontainers, hnone⟩
  have hdeployments : ∀ j ∈ p.deployments.map DeploymentResults.toJson, j.NullFree := by
    intro j hj
    obtain ⟨d, hd, rfl⟩ := List.mem_map.mp hj
    exact hdeployment d hd
  have htrial : p.trial.toJson.NullFree := by
    refine .object ?_
    simp only [List.forall_mem_cons]
    exact ⟨.whole _, .text _, hnone⟩
  refine .object ?_
  simp only [List.forall_mem_cons]
  exact ⟨.text _, .object (List.forall_mem_singleton.mpr htrial), .list hdeployments, hnone⟩

/-- **The results of a deployment whose rows can all be told of are made**, and they are sound and
free of null. -/
theorem updateFor_isSound {p : Pipeline} {c : Context} {t : Trial} {u : Report.DeploymentUnit}
    (ht : t.number < Nat.pow 2 32)
    (hrows : ∀ r ∈ u.rows, (∃ m, r.containerMetrics = .ok m) ∧ r.Survives) :
    ∃ r, updateFor p c t u = .ok r ∧ (∀ n, r.IsSound n) ∧ r.toJson.NullFree := by
  obtain ⟨metrics, hmetrics⟩ := Report.exists_containerMetricsOf fun r hr => (hrows r hr).1
  have hcontainers := Report.isSound_of_reportedAs (Report.forall₂_reportedAs hmetrics)
    fun r hr => (hrows r hr).2
  -- no values are sent with the results of a deployment
  have hsound : ∀ n, (UpdateResults.of c p.separator t u.ns u.deployment metrics).IsSound n :=
    fun n => ⟨ht, List.forall_mem_singleton.mpr
      ⟨fun _ hv => absurd hv List.not_mem_nil, hcontainers⟩⟩
  refine ⟨.of c p.separator t u.ns u.deployment metrics, ?_, hsound, ?_⟩
  · unfold updateFor
    rw [hmetrics]
    rfl
  · refine UpdateResults.nullFree (hsound 0) (List.forall_mem_singleton.mpr ?_)
    exact fun _ hv => absurd hv List.not_mem_nil

/-- A row of halves. -/
def Report.Row.halves : Report.Row :=
  let half : Report.Measure := ⟨some 0.5, some 0.5⟩
  { ns := "ns", deployment := "d", container := "c\n", image := "i"
    cpuRequest := half, cpuLimit := half, cpuUsage := half, cpuThrottle := half
    memoryRequest := half, memoryLimit := half, memoryUsage := half, memoryRss := half }

theorem Report.Row.measure_halves (m : Report.Metric) :
    Report.Row.halves.measure m = ⟨some 0.5, some 0.5⟩ := by
  cases m <;> rfl

/-! ## Requests -/

namespace Service

variable {α : Type}

/-- Whatever is sent with a call is a list of one document, which is read as this value. -/
def Call.Posts (call : Call) (d : Decoder α) (a : α) : Prop :=
  ∀ k : Client, ∀ r ∈ k.sent call,
    r.method = .post ∧ Decoder.run d.list (Text.Utf8.encode r.body) = .ok [a]

/-- A call posts what is read of its document, if one more container may be open around it. -/
theorem Call.posts {call : Call} {d : Decoder α} {j : Json} {a : α}
    (hcall : ∀ u, (Client.requestTo u call).method = .post ∧
      (Client.requestTo u call).document = some (.list [j]))
    (h : Reads n d j a) (hn : n + 1 ≤ Json.nestingLimit) : call.Posts d a := by
  intro k r hr
  obtain ⟨u, -, hcleared⟩ := Client.mem_sent hr
  obtain ⟨-, rfl⟩ := Http.Request.cleared_eq_ok_iff.mp hcleared
  obtain ⟨hmethod, hdocument, -⟩ := (Client.requestTo u call).withUser_keeps
  obtain ⟨hpost, hlist⟩ := hcall u
  have hread : Reads (n + 1) d.list (.list ([a].map fun _ => j)) [a] :=
    reads_list (List.forall_mem_singleton.mpr h)
  refine ⟨hmethod.trans hpost, ?_⟩
  have hbody : (Client.requestTo u call).withUser.body = (Json.list [j]).write := by
    unfold Http.Request.body
    rw [hdocument, hlist]
    rfl
  rw [hbody]
  exact hread.run hn

/-- Where a call can be sent, one request is posted, and it is read as this value. -/
theorem Call.Posts.sent {call : Call} {d : Decoder α} {a : α} (h : call.Posts d a) {k : Client}
    {u : Url} (hu : k.endpoint call.operation = .ok u) (hweb : u.scheme.isWeb) (hhost : u.hasHost)
    (hsendable : Http.isSendable (Client.requestTo u call).withUser.url) :
    ∃ r, k.sent call = [r] ∧ r.method = .post ∧
      Decoder.run d.list (Text.Utf8.encode r.body) = .ok [a] := by
  have hone := Client.sent_eq_singleton hu hweb hhost hsendable
  exact ⟨_, hone, h k _ (hone ▸ List.mem_singleton_self _)⟩

end Service

/-! ## The wire format -/

/-- What the text of a document is read as. -/
def Json.readBack {α : Type} (d : Decoder α) (j : Json) : Except Json.Error α :=
  Decoder.run d (Text.Utf8.encode j.write)

/-- Results are read back just if the values among them nest within what four containers leave. -/
theorem UpdateResults.IsSound.readBack_eq_ok_iff {p : UpdateResults} (h : p.IsSound n) :
    Json.readBack UpdateResults.shape.decode p.toJson = .ok p ↔
      ∃ m, m + 4 < 128 ∧ p.IsSound m := by
  constructor
  · intro hread
    by_contra hdeep
    have hnot : ¬p.IsSound 123 := fun hsound => hdeep ⟨123, by decide, hsound⟩
    exact (UpdateResults.refuses h (by decide) hnot).run hread
  · rintro ⟨m, hm, hsound⟩
    exact (UpdateResults.reads (hsound.mono (by omega : m ≤ 123)) (by decide)).run (by decide)

/-- **Whatever is written is read back as it was**: each kind of value that has a JSON form, and
what is sent to the service. -/
structure WireFormat : Prop where
  event : ∀ e : Event, Json.readBack Event.shape.decode e.toJson = .ok e
  metadata : ∀ m : Event.Metadata, Json.readBack Event.Metadata.shape.decode m.toJson = .ok m
  experiment : ∀ e : Experiment, Json.readBack Experiment.shape.decode e.toJson = .ok e
  trial : ∀ t : Trial, t.number < Nat.pow 2 32 → Json.readBack Trial.shape.decode t.toJson = .ok t
  create : ∀ p : CreateExperiment, Json.readBack CreateExperiment.shape.decode p.toJson = .ok p
  /-- The values among results stand within four containers, and the decoder does not open the 128th
  one. Results that nest deeper are refused. -/
  update : ∀ (n : Nat) (p : UpdateResults), p.IsSound n →
    (Json.readBack UpdateResults.shape.decode p.toJson = .ok p ↔ ∃ m, m + 4 < 128 ∧ p.IsSound m)
  /-- So are values by themselves. -/
  value : ∀ v : Json, IsValue v → (Json.readBack Json.readValue v = .ok v ↔ v.nesting < 128)
  list : ∀ q : ListQuery, Json.readBack ListQuery.shape.decode q.toJson = .ok q
  containerMetrics : ∀ c : Report.ContainerMetrics, c.IsSound →
    Json.readBack Report.ContainerMetrics.shape.decode c.toJson = .ok c
  componentHealth : ∀ c : Health.Checked, c.IsSound →
    Json.readBack Health.Checked.shape.decode c.toJson = .ok c
  health : ∀ r : Health.CheckedReport, r.IsSound →
    Json.readBack Health.CheckedReport.shape.decode r.toJson = .ok r
  readiness : ∀ r : Health.Readiness, Json.readBack Health.Readiness.shape.decode r.toJson = .ok r
  /-- Results are sent for a deployment whose rows can all be told of, without null. -/
  sent : ∀ (p : Pipeline) (c : Context) (t : Trial) (u : Report.DeploymentUnit),
    t.number < Nat.pow 2 32 →
    (∀ r ∈ u.rows, (∃ m, r.containerMetrics = .ok m) ∧ r.Survives) →
    ∃ r, updateFor p c t u = .ok r ∧ r.toJson.NullFree ∧
      Json.readBack UpdateResults.shape.decode r.toJson = .ok r ∧
      (Service.Call.update r).Posts UpdateResults.shape.decode r
  /-- What is posted is a list, one container more. -/
  updatePosted : ∀ (n : Nat) (p : UpdateResults), n + 5 < 128 → p.IsSound n →
    (Service.Call.update p).Posts UpdateResults.shape.decode p
  createPosted : ∀ p : CreateExperiment,
    (Service.Call.create p).Posts CreateExperiment.shape.decode p

/-- **The wire format keeps every value.** -/
theorem wireFormat : WireFormat where
  event e := (e.reads (n := 0)).run (by decide)
  metadata m := (m.reads (n := 0)).run (by decide)
  experiment e := (e.reads (n := 0)).run (by decide)
  trial t ht := (Trial.reads ht (n := 0)).run (by decide)
  create p := (p.reads (n := 0)).run (by decide)
  update n p hp := hp.readBack_eq_ok_iff
  value v hv := hv.read_eq_ok_iff.trans Nat.lt_succ_iff.symm
  list q := (q.reads (n := 0)).run (by decide)
  containerMetrics c hc := (Report.ContainerMetrics.reads hc (n := 0)).run (by decide)
  componentHealth c hc := (Health.Checked.reads hc (n := 0)).run (by decide)
  health r hr := (Health.CheckedReport.reads hr (n := 0)).run (by decide)
  readiness r := (r.reads (n := 0)).run (by decide)
  sent p c t u ht hrows := by
    obtain ⟨r, hr, hsound, hnull⟩ := updateFor_isSound (p := p) (c := c) ht hrows
    have hreads := UpdateResults.reads (hsound 5) (Nat.le_refl 5)
    exact ⟨r, hr, hnull, hreads.run (by decide),
      Service.Call.posts (fun _ => ⟨rfl, rfl⟩) hreads (by decide)⟩
  updatePosted n p hn hp := by
    have hsound : p.IsSound 122 := hp.mono (by omega)
    have hreads := UpdateResults.reads hsound (by decide)
    exact Service.Call.posts (fun _ => ⟨rfl, rfl⟩) hreads (by decide)
  createPosted p := Service.Call.posts (fun _ => ⟨rfl, rfl⟩) (p.reads (n := 0)) (by decide)

/-- A value within two containers stands among results, and a row of halves is sent. -/
theorem wireFormat_halves :
    let nested : Json := .object [("a", .list [.null, .int (-1), .float 0.5]), ("b", .bool true)]
    let results : UpdateResults := ⟨"e", ⟨98, "20230102030405"⟩, [⟨"d", "ns", [nested], []⟩]⟩
    Json.readBack UpdateResults.shape.decode results.toJson = .ok results ∧
      ∃ r, updateFor {} ⟨"r", none, "o", "c", none⟩ ⟨98, "20230102030405"⟩
          ⟨"ns", "d", [Report.Row.halves]⟩ = .ok r ∧ r.toJson.NullFree ∧
        Json.readBack UpdateResults.shape.decode r.toJson = .ok r ∧
        (Service.Call.update r).Posts UpdateResults.shape.decode r := by
  intro nested results
  constructor
  · have hlist : ∀ j ∈ [Json.null, .int (-1), .float 0.5], IsValue j := by
      simp only [List.forall_mem_cons]
      exact ⟨.null, .whole (by decide) (by decide), .float survives_half,
        fun _ hj => absurd hj List.not_mem_nil⟩
    have hvalue : IsValue nested := by
      refine .object (by decide) ?_
      simp only [List.forall_mem_cons]
      exact ⟨.list hlist, .bool true, fun _ hm => absurd hm List.not_mem_nil⟩
    have hsound : results.IsSound 2 := by
      refine ⟨by decide, List.forall_mem_singleton.mpr ?_⟩
      refine ⟨List.forall_mem_singleton.mpr ⟨hvalue, ?_⟩, fun _ hc => absurd hc List.not_mem_nil⟩
      exact Nat.le_of_eq rfl
    exact (wireFormat.update 2 results hsound).mpr ⟨2, by decide, hsound⟩
  · have hhalf : Decimal.isFinite 0.5 := survives_half.finite
    refine wireFormat.sent _ _ _ _ (by decide) (List.forall_mem_singleton.mpr ⟨?_, ?_⟩)
    · exact Report.Row.exists_containerMetrics fun m =>
        ⟨0.5, 0.5, Report.Row.measure_halves m, hhalf, hhalf⟩
    · intro m x hx
      rw [Report.Row.measure_halves, or_self, Option.some.injEq] at hx
      rw [← hx]
      exact survives_half

end UsageFeed
