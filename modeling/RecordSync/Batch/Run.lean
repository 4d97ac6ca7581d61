import RecordSync.Batch.Report
import RecordSync.Sync.Engine

set_option autoImplicit false

namespace RecordSync

namespace Batch

-- The result of one object; an error of the object is no error of the batch.
def attempt (act : Sync Outcome) : Sync (Except WorkflowError Outcome) :=
  fun s =>
    let (result, s) := act s
    (.ok result, s)

def trackAll : List (String × Sync Outcome) → Report → Sync Report
  | [], report => return report
  | (key, act) :: rest, report => do trackAll rest (report.track key (← attempt act))

end Batch

namespace Workflow

def imports (w : Workflow) (evaluate : Evaluator) (time : Timestamp) (simulate : Bool) :
    Nat → List Record → List (String × Sync Outcome)
  | _, [] => []
  | index, record :: records =>
    (s!"record[{index}]", w.importRecord evaluate w.collection record time simulate) ::
      imports w evaluate time simulate (index + 1) records

def importAll (w : Workflow) (evaluate : Evaluator) (records : List Record) (time : Timestamp)
    (simulate : Bool) : Sync Report :=
  Batch.trackAll (w.imports evaluate time simulate 0 records) .empty

def exportAll (w : Workflow) (evaluate : Evaluator) (objects : List CanonicalObject)
    (time : Timestamp) (simulate : Bool) : Sync Report :=
  Batch.trackAll
    (objects.map fun o => (o.id.render, w.exportObject evaluate o time simulate)) .empty

def collectGarbage (w : Workflow) (evaluate : Evaluator) (time : Timestamp) (simulate : Bool) :
    Sync Report := do
  let endpoint := (← get).endpoint.name
  let stale ← Sync.staleObjects w.collection endpoint time
  Batch.trackAll (stale.map fun o => (o.id.render, w.cleanUp evaluate o time simulate)) .empty

end Workflow

end RecordSync
