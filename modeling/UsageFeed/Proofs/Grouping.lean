import Mathlib.Data.List.Induction
import Mathlib.Data.List.Nodup
import UsageFeed.Report.Hierarchy

/-!
# `UsageFeed.Proofs.Grouping` — the hierarchy of a report is its grouping by deployment

`Hierarchy.ofTable` builds its groups in one pass, row by row, and looks up where a row goes. This
module compares them with the naive grouping, which goes over the table once for every namespace and
once for every deployment.

## Contents
- `DeploymentId`, the names that tell a deployment from all others; `Row.owner`, `Table.rowsOf` and
  `Table.unitOf`.
- **Distinct names.** `addName` and its agreement with `List.eraseDups`.
- **The naive grouping.** `groupsOf`, and what one more row does to its parts.
- **The pass.** `Locates`, look-ups that find a name where it stands, and `enter_name`;
  `Pass.Tells`, what holds of the pass after any rows, and `groups_ofTable`.
- **Units.** `units_eq`: one unit for each deployment that occurs, with all of its rows.
- **Asking.** What is found for a namespace or a deployment, and `places_perm`: each place of the
  table is found once.
- **A hierarchy.** `GroupsNaively` and `ofTable_groupsNaively`, all that a hierarchy says.
-/

namespace UsageFeed.Report

/-- A deployment as it is named: its namespace and its own name. -/
abbrev DeploymentId := String × String

/-- The deployment that a row belongs to. -/
def Row.owner (r : Row) : DeploymentId := (r.ns, r.deployment)

/-- The names of a unit's deployment. -/
def DeploymentUnit.id (u : DeploymentUnit) : DeploymentId := (u.ns, u.deployment)

/-- The rows of a deployment, in the order of the table. -/
def Table.rowsOf (t : Table) (d : DeploymentId) : List Row := t.rows.filter (·.owner == d)

/-- A deployment with all of its rows. -/
def Table.unitOf (t : Table) (d : DeploymentId) : DeploymentUnit := ⟨d.1, d.2, t.rowsOf d⟩

@[simp] theorem Table.rows_unitOf (t : Table) (d : DeploymentId) :
    (t.unitOf d).rows = t.rowsOf d := rfl

namespace Hierarchy

/-! ## Distinct names -/

/-- Names with another one at the end, unless it is there already. -/
def addName (n : String) (names : List String) : List String :=
  if n ∈ names then names else names ++ [n]

theorem nodup_addName {n : String} {names : List String} (h : names.Nodup) :
    (addName n names).Nodup := by
  unfold addName
  by_cases hn : n ∈ names
  · rw [if_pos hn]; exact h
  · rw [if_neg hn]
    exact List.nodup_append.mpr ⟨h, List.nodup_singleton n, by
      intro a ha b hb he
      rw [List.mem_singleton] at hb
      subst hb
      exact hn (he ▸ ha)⟩

/-- Erasing duplicates keeps a name at its first appearance. -/
theorem eraseDups_snoc (names : List String) (n : String) :
    (names ++ [n]).eraseDups = addName n names.eraseDups := by
  rw [List.eraseDups_append]
  unfold addName
  by_cases h : n ∈ names
  · rw [if_pos (List.mem_eraseDups.mpr h)]
    simp [List.removeAll, h]
  · rw [if_neg (fun hm => h (List.mem_eraseDups.mp hm))]
    simp [List.removeAll, h, List.eraseDups_cons]

theorem nodup_eraseDups (names : List String) : names.eraseDups.Nodup := by
  induction names using List.reverseRecOn with
  | nil => exact List.nodup_nil
  | append_singleton names n ih =>
    rw [eraseDups_snoc]
    exact nodup_addName ih

/-! ## The naive grouping -/

/-- The namespaces of rows, in the order of first appearance. -/
def nsOf (rows : List Row) : List String := (rows.map (·.ns)).eraseDups

/-- The deployments of a namespace, in the order of first appearance. -/
def deploymentsOf (rows : List Row) (ns : String) : List String :=
  ((rows.filter (·.ns == ns)).map (·.deployment)).eraseDups

/-- Where the rows of a deployment stand. -/
def indicesOf (rows : List Row) (d : DeploymentId) : List Nat :=
  (rows.zipIdx.filter (·.1.owner == d)).map (·.2)

/-- The rows grouped by namespace, and within a namespace by deployment. -/
def groupsOf (rows : List Row) : List NamespaceGroup :=
  (nsOf rows).map fun ns =>
    ⟨ns, (deploymentsOf rows ns).map fun d => ⟨d, indicesOf rows (ns, d)⟩⟩

/-! ### One more row -/

theorem nsOf_snoc (rows : List Row) (r : Row) :
    nsOf (rows ++ [r]) = addName r.ns (nsOf rows) := by
  unfold nsOf
  rw [List.map_append]
  exact eraseDups_snoc _ _

theorem deploymentsOf_snoc (rows : List Row) (r : Row) (ns : String) :
    deploymentsOf (rows ++ [r]) ns =
      if ns = r.ns then addName r.deployment (deploymentsOf rows ns) else deploymentsOf rows ns := by
  unfold deploymentsOf
  rw [List.filter_append]
  by_cases h : ns = r.ns
  · subst h
    rw [if_pos rfl, List.filter_singleton, List.map_append]
    simpa using eraseDups_snoc _ _
  · have hr : (r.ns == ns) = false := by simpa using fun he => h he.symm
    rw [if_neg h, List.filter_singleton, hr]
    simp

theorem indicesOf_snoc (rows : List Row) (r : Row) (d : DeploymentId) :
    indicesOf (rows ++ [r]) d =
      if d = r.owner then indicesOf rows d ++ [rows.length] else indicesOf rows d := by
  unfold indicesOf
  rw [List.zipIdx_append, List.filter_append, List.map_append]
  by_cases h : d = r.owner
  · subst h
    simp
  · have hr : (r.owner == d) = false := by simpa using fun he => h he.symm
    simp [h, hr]

theorem mem_nsOf {rows : List Row} {ns : String} :
    ns ∈ nsOf rows ↔ ∃ r ∈ rows, r.ns = ns := by
  simp [nsOf]

theorem mem_deploymentsOf {rows : List Row} {ns d : String} :
    d ∈ deploymentsOf rows ns ↔ ∃ r ∈ rows, r.owner = (ns, d) := by
  simp [deploymentsOf, Row.owner, and_assoc]

theorem nodup_nsOf (rows : List Row) : (nsOf rows).Nodup := nodup_eraseDups _

theorem nodup_deploymentsOf (rows : List Row) (ns : String) : (deploymentsOf rows ns).Nodup :=
  nodup_eraseDups _

/-- A deployment that does not occur has no rows. -/
theorem indicesOf_eq_nil {rows : List Row} {ns d : String} (h : d ∉ deploymentsOf rows ns) :
    indicesOf rows (ns, d) = [] := by
  unfold indicesOf
  rw [List.map_eq_nil_iff, List.filter_eq_nil_iff]
  intro x hx he
  have hrow : x.1 ∈ rows := (List.mem_zipIdx' hx).2 ▸ List.getElem_mem _
  exact h (mem_deploymentsOf.mpr ⟨x.1, hrow, by simpa using he⟩)

/-- A namespace that does not occur has no deployments. -/
theorem deploymentsOf_eq_nil {rows : List Row} {ns : String} (h : ns ∉ nsOf rows) :
    deploymentsOf rows ns = [] := by
  rw [List.eq_nil_iff_forall_not_mem]
  intro d hd
  obtain ⟨r, hr, ho⟩ := mem_deploymentsOf.mp hd
  exact h (mem_nsOf.mpr ⟨r, hr, congrArg Prod.fst ho⟩)

/-! ## The pass -/

/-! ### Look-ups -/

/-- What is found for a name is where it stands among the names. -/
def Locates (find : String → Option Nat) (names : List String) : Prop :=
  ∀ n i, find n = some i ↔ names[i]? = some n

theorem getElem?_addName {n m : String} (h : m ≠ n) (names : List String) (i : Nat) :
    (addName n names)[i]? = some m ↔ names[i]? = some m := by
  unfold addName
  by_cases hn : n ∈ names
  · rw [if_pos hn]
  · rw [if_neg hn, List.getElem?_append]
    split
    · exact Iff.rfl
    · next hlt =>
      have hnone : names[i]? = none := List.getElem?_eq_none_iff.mpr (Nat.le_of_not_lt hlt)
      rw [hnone, List.getElem?_singleton]
      split <;> simp [Ne.symm h]

/-- One more name is found where it has been added. -/
theorem Locates.addName {find : String → Option Nat} {names : List String} {n : String} {i : Nat}
    (h : Locates find names) (hnames : names.Nodup) (hi : (addName n names)[i]? = some n) :
    Locates (fun m => if m = n then some i else find m) (addName n names) := by
  intro m j
  by_cases hm : m = n
  · subst hm
    simp only [if_true, Option.some.injEq]
    constructor
    · rintro rfl
      exact hi
    · intro hj
      have hlt : i < (Hierarchy.addName m names).length := (List.getElem?_eq_some_iff.mp hi).1
      exact (List.getElem?_inj hlt (nodup_addName hnames)).mp (hi.trans hj.symm)
  · simp only [if_neg hm, h m j, getElem?_addName hm]

/-- **A name is entered where it stands**, at the end if it is new, and the places of all other keys
stay. -/
theorem enter_name {κ α : Type} [BEq κ] [LawfulBEq κ] {places : Places κ} {names : List String}
    {n : String} {key : κ} (h : ∀ i, places.lookup key = some i ↔ names[i]? = some n)
    (item : String → α) (new : α) (hitem : n ∉ names → new = item n) :
    ∃ i places', enter places (names.map item) key new =
        (i, places', (addName n names).map item) ∧
      (addName n names)[i]? = some n ∧
      ∀ k, places'.lookup k = if k == key then some i else places.lookup k := by
  unfold enter
  cases hfind : places.lookup key with
  | some i =>
    have hi : names[i]? = some n := (h i).mp hfind
    have hadd : addName n names = names := if_pos (List.mem_of_getElem? hi)
    rw [hadd]
    refine ⟨i, places, rfl, hi, fun k => ?_⟩
    split
    · next hk => rw [beq_iff_eq.mp hk, hfind]
    · rfl
  | none =>
    have hnew : n ∉ names := by
      intro hn
      obtain ⟨i, hi⟩ := List.mem_iff_getElem?.mp hn
      rw [(h i).mpr hi] at hfind
      cases hfind
    have hadd : addName n names = names ++ [n] := if_neg hnew
    rw [hadd, hitem hnew]
    refine ⟨names.length, (key, names.length) :: places, ?_, List.getElem?_concat_length, ?_⟩
    · simp only [List.length_map, List.map_append, List.map_singleton]
    · intro k
      rw [List.lookup_cons]
      cases k == key <;> rfl

/-- Of items with distinct names, the one that stands at the place of a name is changed. -/
theorem modify_map {α : Type} {names : List String} (hnames : names.Nodup) {i : Nat} {n : String}
    (hi : names[i]? = some n) (item : String → α) (change : α → α) :
    (names.map item).modify i change =
      names.map fun m => if m = n then change (item m) else item m := by
  apply List.ext_getElem?
  intro j
  rw [List.getElem?_modify, List.getElem?_map, List.getElem?_map, Option.map_eq_map,
    Option.map_map]
  have hlt : i < names.length := (List.getElem?_eq_some_iff.mp hi).1
  cases hj : names[j]? with
  | none => rfl
  | some m =>
    have hsame : i = j ↔ m = n := by
      constructor
      · rintro rfl
        exact Option.some.inj (hj.symm.trans hi)
      · rintro rfl
        exact (List.getElem?_inj hlt hnames).mp (hi.trans hj.symm)
    simp only [Option.map_some, Function.comp_apply, hsame]

/-! ### Row by row -/

/-- The pass tells of the rows it has read: its groups are the naive ones, and a look-up finds every
namespace and every deployment where it stands. -/
structure Pass.Tells (p : Pass) (rows : List Row) : Prop where
  groups : p.groups = groupsOf rows
  namespaceAt : Locates (fun ns => p.namespaceAt.lookup ns) (nsOf rows)
  deploymentAt : ∀ ns, Locates (fun d => p.deploymentAt.lookup (ns, d)) (deploymentsOf rows ns)

theorem Pass.tells_start : Pass.Tells {} [] where
  groups := rfl
  namespaceAt n i := by simp [nsOf]
  deploymentAt ns d i := by simp [deploymentsOf]

/-- The group of a namespace. -/
def groupOf (rows : List Row) (ns : String) : NamespaceGroup :=
  ⟨ns, (deploymentsOf rows ns).map fun d => ⟨d, indicesOf rows (ns, d)⟩⟩

/-- The group of a namespace that does not occur is empty. -/
theorem groupOf_eq_empty {rows : List Row} {ns : String} (h : ns ∉ nsOf rows) :
    groupOf rows ns = ⟨ns, []⟩ := by
  unfold groupOf
  rw [deploymentsOf_eq_nil h]
  rfl

/-- One more row changes the group of its namespace, and there the rows of its deployment. -/
theorem groupOf_snoc (rows : List Row) (r : Row) (ns : String) :
    groupOf (rows ++ [r]) ns =
      if ns = r.ns then
        ⟨ns, (addName r.deployment (deploymentsOf rows ns)).map fun d =>
          if d = r.deployment then ⟨d, indicesOf rows (ns, d) ++ [rows.length]⟩
          else ⟨d, indicesOf rows (ns, d)⟩⟩
      else groupOf rows ns := by
  unfold groupOf
  rw [deploymentsOf_snoc]
  by_cases h : ns = r.ns
  · subst h
    rw [if_pos rfl, if_pos rfl]
    congr 1
    apply List.map_congr_left
    intro d _
    rw [indicesOf_snoc]
    simp only [Row.owner, Prod.mk.injEq, true_and]
    split <;> rfl
  · rw [if_neg h, if_neg h]
    congr 1
    apply List.map_congr_left
    intro d _
    rw [indicesOf_snoc, if_neg fun he => h (congrArg Prod.fst he)]

/-- What one more row leads to: the naive groups with that row, and a look-up for it. -/
theorem Pass.Tells.exists_add {p : Pass} {rows : List Row} (h : p.Tells rows) (r : Row) :
    ∃ i k namespaceAt deploymentAt,
      p.add rows.length r = ⟨groupsOf (rows ++ [r]), namespaceAt, deploymentAt⟩ ∧
      (addName r.ns (nsOf rows))[i]? = some r.ns ∧
      (addName r.deployment (deploymentsOf rows r.ns))[k]? = some r.deployment ∧
      (∀ ns, namespaceAt.lookup ns = if ns == r.ns then some i else p.namespaceAt.lookup ns) ∧
      ∀ d, deploymentAt.lookup d = if d == r.owner then some k else p.deploymentAt.lookup d := by
  -- the namespace is entered, and at its place stands the group of the rows read so far
  obtain ⟨i, namespaceAt, hns, hi, hnsAt⟩ := enter_name (h.namespaceAt r.ns) (groupOf rows)
    ⟨r.ns, []⟩ fun hnew => (groupOf_eq_empty hnew).symm
  have hgroups : p.groups = (nsOf rows).map (groupOf rows) := h.groups
  have hgroup : (((addName r.ns (nsOf rows)).map (groupOf rows))[i]?.map (·.deployments)).getD [] =
      (deploymentsOf rows r.ns).map fun d => ⟨d, indicesOf rows (r.ns, d)⟩ := by
    rw [List.getElem?_map, hi]
    rfl
  -- the deployment is entered within that group
  have hfind : ∀ k, p.deploymentAt.lookup (r.ns, r.deployment) = some k ↔
      (deploymentsOf rows r.ns)[k]? = some r.deployment := h.deploymentAt r.ns r.deployment
  obtain ⟨k, deploymentAt, hd, hk, hdAt⟩ := enter_name hfind
    (fun d => (⟨d, indicesOf rows (r.ns, d)⟩ : DeploymentGroup)) ⟨r.deployment, []⟩
    fun hnew => by rw [indicesOf_eq_nil hnew]
  refine ⟨i, k, namespaceAt, deploymentAt, ?_, hi, hk, hnsAt, hdAt⟩
  unfold Pass.add
  rw [hgroups, hns]
  simp only [hgroup, hd, modify_map (nodup_addName (nodup_deploymentsOf rows r.ns)) hk,
    modify_map (nodup_addName (nodup_nsOf rows)) hi]
  congr 1
  have hrows : groupsOf (rows ++ [r]) = (nsOf (rows ++ [r])).map (groupOf (rows ++ [r])) := rfl
  rw [hrows, nsOf_snoc]
  apply List.map_congr_left
  intro ns _
  rw [groupOf_snoc]
  split
  · next hns =>
    subst hns
    rfl
  · rfl

/-- **One more row is added where it belongs.** -/
theorem Pass.Tells.add {p : Pass} {rows : List Row} (h : p.Tells rows) (r : Row) :
    (p.add rows.length r).Tells (rows ++ [r]) := by
  obtain ⟨i, k, namespaceAt, deploymentAt, hadd, hi, hk, hnsAt, hdAt⟩ := h.exists_add r
  rw [hadd]
  refine ⟨rfl, ?_, fun ns => ?_⟩
  · rw [nsOf_snoc]
    simp only [hnsAt, beq_iff_eq]
    exact h.namespaceAt.addName (nodup_nsOf rows) hi
  · rw [deploymentsOf_snoc]
    simp only [hdAt, Row.owner, beq_iff_eq, Prod.mk.injEq]
    split
    · next hns =>
      subst hns
      simp only [true_and]
      exact (h.deploymentAt r.ns).addName (nodup_deploymentsOf rows r.ns) hk
    · next hns =>
      simp only [hns, false_and, if_false]
      exact h.deploymentAt ns

theorem Pass.Tells.addRows {p : Pass} {read : List Row} (h : p.Tells read) (rows : List Row) :
    (p.addRows read.length rows).Tells (read ++ rows) := by
  induction rows generalizing p read with
  | nil =>
    rw [List.append_nil]
    exact h
  | cons r rows ih =>
    have hrest := ih (h.add r)
    rw [List.length_append, List.append_assoc] at hrest
    exact hrest

/-- **The one pass gives the naive grouping.** -/
theorem groups_ofTable (t : Table) : (ofTable t).groups = groupsOf t.rows :=
  (Pass.tells_start.addRows t.rows).groups

/-! ## Units -/

/-- The deployments of a table, namespace by namespace, each in the order of first appearance. -/
def idsOf (t : Table) : List DeploymentId :=
  (nsOf t.rows).flatMap fun ns => (deploymentsOf t.rows ns).map fun d => (ns, d)

theorem mem_idsOf {t : Table} {d : DeploymentId} : d ∈ idsOf t ↔ ∃ r ∈ t.rows, r.owner = d := by
  unfold idsOf
  simp only [List.mem_flatMap, List.mem_map, mem_deploymentsOf]
  constructor
  · rintro ⟨ns, _, name, ⟨r, hr, ho⟩, rfl⟩
    exact ⟨r, hr, ho⟩
  · rintro ⟨r, hr, rfl⟩
    exact ⟨r.ns, mem_nsOf.mpr ⟨r, hr, rfl⟩, r.deployment, ⟨r, hr, rfl⟩, rfl⟩

theorem nodup_idsOf (t : Table) : (idsOf t).Nodup := by
  refine List.nodup_flatMap.mpr ⟨fun ns _ => ?_, ?_⟩
  · exact (nodup_deploymentsOf _ _).map fun a b h => congrArg Prod.snd h
  · -- a deployment of two namespaces would make them one
    refine List.Pairwise.imp ?_ (nodup_nsOf t.rows)
    intro a b hab x hx hy
    obtain ⟨d, _, rfl⟩ := List.mem_map.mp hx
    obtain ⟨e, _, he⟩ := List.mem_map.mp hy
    exact hab (congrArg Prod.fst he).symm

/-- The places of a deployment's rows lead to those rows. -/
theorem resolve_indicesOf (t : Table) (groups : List NamespaceGroup) (d : DeploymentId) :
    resolve ⟨t, groups⟩ (indicesOf t.rows d) = t.rowsOf d := by
  have hplace : ∀ x ∈ t.rows.zipIdx.filter (·.1.owner == d),
      ((fun i => t.rows[i]?) ∘ Prod.snd) x = (some ∘ Prod.fst) x := by
    intro x hx
    exact List.mem_zipIdx_iff_getElem?.mp (List.mem_of_mem_filter hx)
  unfold resolve indicesOf Table.rowsOf
  rw [List.filterMap_map, List.filterMap_congr hplace, List.filterMap_eq_map]
  rw [← Function.comp_def (fun r : Row => r.owner == d) Prod.fst, ← List.filter_map,
    List.zipIdx_map_fst]

/-- One unit for each deployment that occurs, with the places of its rows. -/
theorem placedUnits_ofTable (t : Table) :
    (ofTable t).placedUnits = (idsOf t).map fun d => (d.1, ⟨d.2, indicesOf t.rows d⟩) := by
  unfold placedUnits idsOf
  simp only [groups_ofTable, groupsOf, List.flatMap_map, List.map_flatMap, List.map_map]
  rfl

/-- **One unit for each deployment that occurs, with all of its rows in order.** -/
theorem units_eq (t : Table) : (ofTable t).units = (idsOf t).map t.unitOf := by
  unfold units
  rw [placedUnits_ofTable, List.map_map]
  apply List.map_congr_left
  intro d _
  exact congrArg (DeploymentUnit.mk d.1 d.2) (resolve_indicesOf t _ d)

theorem map_id_units (t : Table) : (ofTable t).units.map DeploymentUnit.id = idsOf t := by
  rw [units_eq, List.map_map]
  exact List.map_id' _

/-- No two units of a table are for the same deployment. -/
theorem nodup_units (t : Table) : ((ofTable t).units.map DeploymentUnit.id).Nodup := by
  rw [map_id_units]
  exact nodup_idsOf t

/-! ## Asking -/

/-- A group is found by its name. -/
theorem find?_named {α : Type} {name : α → String} {item : String → α}
    (hname : ∀ n, name (item n) = n) (names : List String) (n : String) :
    (names.map item).find? (name · == n) = if n ∈ names then some (item n) else none := by
  induction names with
  | nil => rfl
  | cons m names ih =>
    rw [List.map_cons, List.find?_cons, hname]
    by_cases hm : m = n
    · subst hm
      simp
    · rw [beq_eq_false_iff_ne.mpr hm, ih]
      simp [Ne.symm hm]

theorem deploymentGroups_ofTable (t : Table) (ns : String) :
    (ofTable t).deploymentGroups ns =
      (deploymentsOf t.rows ns).map fun d => ⟨d, indicesOf t.rows (ns, d)⟩ := by
  have hgroups : (ofTable t).groups = (nsOf t.rows).map (groupOf t.rows) := groups_ofTable t
  unfold deploymentGroups
  rw [hgroups, find?_named fun _ => rfl]
  split
  · rfl
  · next hns =>
    rw [deploymentsOf_eq_nil hns]
    rfl

theorem namespaces_ofTable (t : Table) : (ofTable t).namespaces = nsOf t.rows := by
  unfold namespaces
  rw [groups_ofTable, groupsOf, List.map_map]
  exact List.map_id' _

theorem deployments_ofTable (t : Table) (ns : String) :
    (ofTable t).deployments ns = deploymentsOf t.rows ns := by
  unfold deployments
  rw [deploymentGroups_ofTable, List.map_map]
  exact List.map_id' _

theorem placesOf_ofTable (t : Table) (ns deployment : String) :
    (ofTable t).placesOf ns deployment = indicesOf t.rows (ns, deployment) := by
  unfold placesOf
  rw [deploymentGroups_ofTable, find?_named fun _ => rfl]
  split
  · rfl
  · next hd =>
    rw [indicesOf_eq_nil hd]
    rfl

theorem rowsOf_ofTable (t : Table) (ns deployment : String) :
    (ofTable t).rowsOf ns deployment = t.rowsOf (ns, deployment) := by
  unfold rowsOf
  rw [placesOf_ofTable]
  exact resolve_indicesOf t _ _

/-! ### Places -/

/-- Items that go to keys that are all different, taken key by key, are those items in another
order. -/
theorem flatMap_filter_perm {α κ : Type} [BEq κ] [LawfulBEq κ] (key : α → κ) (items : List α)
    {keys : List κ} (h : keys.Nodup) :
    (keys.flatMap fun k => items.filter (key · == k)).Perm (items.filter (key · ∈ keys)) := by
  induction keys with
  | nil => simp
  | cons k keys ih =>
    obtain ⟨hnot, h⟩ := List.nodup_cons.mp h
    -- the items of all keys are split into those of the first key and those of the others
    have hfirst : (items.filter (key · ∈ k :: keys)).filter (key · == k) =
        items.filter (key · == k) := by
      rw [List.filter_filter]
      apply List.filter_congr
      intro a _
      by_cases ha : key a = k <;> simp [ha]
    have hrest : (items.filter (key · ∈ k :: keys)).filter (fun a => !(key a == k)) =
        items.filter (key · ∈ keys) := by
      rw [List.filter_filter]
      apply List.filter_congr
      intro a _
      by_cases ha : key a = k <;> simp [ha, hnot]
    rw [List.flatMap_cons]
    refine ((ih h).append_left _).trans ?_
    rw [← hfirst, ← hrest]
    exact List.filter_append_perm _ _

/-- The places of all deployments are those of the table. -/
theorem places_perm (t : Table) :
    ((ofTable t).placedUnits.flatMap (·.2.rows)).Perm (List.range t.rows.length) := by
  have hall : t.rows.zipIdx.filter (·.1.owner ∈ idsOf t) = t.rows.zipIdx := by
    rw [List.filter_eq_self]
    intro x hx
    have hrow : x.1 ∈ t.rows := (List.mem_zipIdx' hx).2 ▸ List.getElem_mem _
    rw [decide_eq_true_eq, mem_idsOf]
    exact ⟨x.1, hrow, rfl⟩
  have hperm := (flatMap_filter_perm (fun x : Row × Nat => x.1.owner) t.rows.zipIdx
    (nodup_idsOf t)).map (·.2)
  rw [hall, List.map_flatMap, List.zipIdx_map_snd] at hperm
  rw [placedUnits_ofTable, List.flatMap_map, List.range_eq_range']
  exact hperm

/-- The places of a deployment are those of its rows. -/
theorem forall₂_resolve (h : Hierarchy) {places : List Nat}
    (hplaces : ∀ i ∈ places, i < h.table.rows.length) :
    List.Forall₂ (fun i r => h.table.rows[i]? = some r) places (h.resolve places) := by
  unfold resolve
  induction places with
  | nil => exact .nil
  | cons i places ih =>
    obtain ⟨hi, hplaces⟩ := List.forall_mem_cons.mp hplaces
    have hget : h.table.rows[i]? = some h.table.rows[i] := List.getElem?_eq_getElem hi
    rw [List.filterMap_cons_some hget]
    exact .cons hget (ih hplaces)

/-! ## A hierarchy -/

/-- A hierarchy says of rows what can be said going over them for each namespace and for each
deployment. -/
structure GroupsNaively (h : Hierarchy) (rows : List Row) : Prop where
  /-- Namespaces are in the order of first appearance. -/
  namespaces : h.namespaces = (rows.map (·.ns)).eraseDups
  /-- So are the deployments of each namespace. -/
  deployments : ∀ ns,
    h.deployments ns = ((rows.filter (·.ns == ns)).map (·.deployment)).eraseDups
  occurs : ∀ ns, h.deployments ns ≠ [] ↔ ∃ r ∈ rows, r.ns = ns
  /-- The rows of a deployment are in the order of the file. -/
  rowsOf : ∀ ns d, h.rowsOf ns d = rows.filter fun r => r.ns == ns && r.deployment == d
  units : h.units = h.namespaces.flatMap fun ns =>
    (h.deployments ns).map fun d => ⟨ns, d, h.rowsOf ns d⟩
  nonempty : ∀ u ∈ h.units, u.rows ≠ []
  distinct : (h.units.map DeploymentUnit.id).Nodup
  /-- Each place of the table is in one unit, and there once. -/
  places : (h.placedUnits.flatMap (·.2.rows)).Perm (List.range rows.length)
  /-- No place leads out of the table. -/
  resolved : ∀ u ∈ h.placedUnits,
    List.Forall₂ (fun i r => rows[i]? = some r) u.2.rows (h.resolve u.2.rows)

/-- **The hierarchy of a report is its naive grouping.** -/
theorem ofTable_groupsNaively (t : Table) : (ofTable t).GroupsNaively t.rows where
  namespaces := namespaces_ofTable t
  deployments ns := deployments_ofTable t ns
  occurs ns := by
    rw [deployments_ofTable, ne_eq, List.eq_nil_iff_forall_not_mem, not_forall]
    simp only [not_not, mem_deploymentsOf]
    constructor
    · rintro ⟨d, r, hr, ho⟩
      exact ⟨r, hr, congrArg Prod.fst ho⟩
    · rintro ⟨r, hr, rfl⟩
      exact ⟨r.deployment, r, hr, rfl⟩
  rowsOf ns d := by
    rw [rowsOf_ofTable]
    exact List.filter_congr fun r _ => rfl
  units := by
    simp only [units_eq, namespaces_ofTable, deployments_ofTable, rowsOf_ofTable, idsOf,
      List.map_flatMap, List.map_map]
    rfl
  nonempty u hu := by
    rw [units_eq] at hu
    obtain ⟨d, hd, rfl⟩ := List.mem_map.mp hu
    obtain ⟨r, hr, ho⟩ := mem_idsOf.mp hd
    have hmem : r ∈ t.rowsOf d := List.mem_filter.mpr ⟨hr, beq_iff_eq.mpr ho⟩
    exact List.ne_nil_of_mem hmem
  distinct := nodup_units t
  places := places_perm t
  resolved u hu := by
    refine forall₂_resolve (ofTable t) fun i hi => ?_
    have hplace := (places_perm t).subset (List.mem_flatMap.mpr ⟨u, hu, hi⟩)
    exact List.mem_range.mp hplace

end Hierarchy
end UsageFeed.Report
