import UsageFeed.Report.Table

/-!
# `UsageFeed.Report.Hierarchy` — a report by namespace and deployment

## Contents
- `Hierarchy`, namespaces with their deployments with the places of their rows, each in the order of
  first appearance; `Hierarchy.ofTable` builds it in one `Pass`, which looks up where a row goes.
- `namespaces`, `deployments`, `rowsOf` and `units`, what it says.
-/

namespace UsageFeed.Report

/-- A deployment and the places of its rows in the table. -/
structure DeploymentGroup where
  name : String
  rows : List Nat
  deriving DecidableEq, Repr

/-- A namespace and its deployments. -/
structure NamespaceGroup where
  name : String
  deployments : List DeploymentGroup
  deriving DecidableEq, Repr

/-- A deployment with its rows, the unit of work of a report. -/
structure DeploymentUnit where
  ns : String
  deployment : String
  rows : List Row
  deriving Repr

/-- A table with its rows grouped. -/
structure Hierarchy where
  table : Table
  groups : List NamespaceGroup
  deriving Repr

namespace Hierarchy

/-! ## Building -/

/-- Where the items of keys stand in a list. -/
abbrev Places (κ : Type) := List (κ × Nat)

/-- The place of a key's item among items, with the places and the items from then on. A key that
comes for the first time is given a new item at the end. -/
def enter {κ α : Type} [BEq κ] (places : Places κ) (items : List α) (k : κ) (new : α) :
    Nat × Places κ × List α :=
  match places.lookup k with
  | some i => (i, places, items)
  | none => (items.length, (k, items.length) :: places, items ++ [new])

/-- Groups as far as a table has been read, with the place of each namespace among them, and of each
deployment within its namespace. -/
structure Pass where
  groups : List NamespaceGroup := []
  namespaceAt : Places String := []
  deploymentAt : Places (String × String) := []

/-- Adds the place of a row to its deployment. -/
def Pass.add (p : Pass) (place : Nat) (r : Row) : Pass :=
  let (i, namespaceAt, groups) := enter p.namespaceAt p.groups r.ns ⟨r.ns, []⟩
  let deployments := (groups[i]?.map (·.deployments)).getD []
  let (k, deploymentAt, deployments) :=
    enter p.deploymentAt deployments (r.ns, r.deployment) ⟨r.deployment, []⟩
  let deployments := deployments.modify k fun d => { d with rows := d.rows ++ [place] }
  ⟨groups.modify i fun g => { g with deployments := deployments }, namespaceAt, deploymentAt⟩

/-- Adds rows, the first of which stands at place `place` in the table. -/
def Pass.addRows (p : Pass) (place : Nat) : List Row → Pass
  | [] => p
  | r :: more => (p.add place r).addRows (place + 1) more

/-- Groups the rows of a table. -/
def ofTable (t : Table) : Hierarchy := ⟨t, (Pass.addRows {} 0 t.rows).groups⟩

/-! ## Asking -/

/-- The rows at places in the table. -/
def resolve (h : Hierarchy) (places : List Nat) : List Row :=
  places.filterMap fun i => h.table.rows[i]?

/-- The namespaces. -/
def namespaces (h : Hierarchy) : List String := h.groups.map (·.name)

/-- The deployments of a namespace, with the places of their rows. -/
def deploymentGroups (h : Hierarchy) (ns : String) : List DeploymentGroup :=
  ((h.groups.find? (·.name == ns)).map (·.deployments)).getD []

/-- The deployments of a namespace; none if it does not occur. -/
def deployments (h : Hierarchy) (ns : String) : List String := (h.deploymentGroups ns).map (·.name)

/-- The places of a deployment's rows; none if it does not occur. -/
def placesOf (h : Hierarchy) (ns deployment : String) : List Nat :=
  (((h.deploymentGroups ns).find? (·.name == deployment)).map (·.rows)).getD []

/-- The rows of a deployment; none if it does not occur. -/
def rowsOf (h : Hierarchy) (ns deployment : String) : List Row :=
  h.resolve (h.placesOf ns deployment)

/-- Every deployment with its namespace and the places of its rows. -/
def placedUnits (h : Hierarchy) : List (String × DeploymentGroup) :=
  h.groups.flatMap fun g => g.deployments.map fun d => (g.name, d)

/-- Every deployment with its rows. -/
def units (h : Hierarchy) : List DeploymentUnit :=
  h.placedUnits.map fun u => ⟨u.1, u.2.name, h.resolve u.2.rows⟩

/-- Whether there is nothing in it. -/
def isEmpty (h : Hierarchy) : Bool := h.groups.isEmpty

end Hierarchy
end UsageFeed.Report
