import Tabula.Query.Filter
import Tabula.Query.Group

/-!
A query run: the configured steps over a copy of the loaded frame.

The steps, each reading its part of the configuration when it comes to it:
1. when `selected_columns` is true, the table becomes what it selects;
2. the `filters` rules apply one after another;
3. when `sorting` is true, the rows are sorted by its rules;
4. grouping and aggregation, when `grouping` asks for it.
-/

namespace Tabula.Query

open Json

/-- The table the configuration makes of the frame, or why the run stops. -/
def runQuery (config : Value) (f : Frame) : Except Stop Table := do
  let selection ← lift (index config "selected_columns")
  let t ← if selection.truthy then lift (f.select selection) else pure (.frame f)
  let filters ← lift (index config "filters")
  let t ← applyFilters t filters
  let sorting ← lift (index config "sorting")
  let t ← if sorting.truthy then lift (applySorting t sorting) else pure t
  lift (applyGrouping t config)

end Tabula.Query
