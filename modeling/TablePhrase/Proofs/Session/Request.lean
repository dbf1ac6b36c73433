import TablePhrase.Session.Edit

/-!
The calls of a session as data. A request is granted or refused, and a run performs requests one
after another, whatever each of them answers.
-/

namespace TablePhrase

inductive Request
  | select (op : Operation) (dataset : Dataset)
  | selectIn (op : Operation) (workspace : Workspace)
  | switchDataset (workspace : Workspace) (name : String)
  | reset
  | setAxis (axis : Axis)
  | setDataset (dataset : Dataset)
  | setParameter (name : String) (value : Literal)
  | setParameterText (name text : String)
  | setScope (value : Literal)
  | setBinding (binding : ReturnBinding)
  | finalize

inductive Answer
  | phase (phase : Phase)
  | done
  | code (code : String)
deriving DecidableEq

namespace Request

def edit : Request → Edit Answer
  | select op dataset => return .phase (← Session.select op dataset)
  | selectIn op workspace => return .phase (← Session.selectIn op workspace)
  | switchDataset workspace name => do Session.switchDataset workspace name; return .done
  | reset => return .phase (← Session.reset)
  | setAxis axis => do Session.setAxis axis; return .done
  | setDataset dataset => do Session.setDataset dataset; return .done
  | setParameter name value => do Session.setParameter name value; return .done
  | setParameterText name text => do Session.setParameterText name text; return .done
  | setScope value => do Session.setScope value; return .done
  | setBinding binding => do Session.setBinding binding; return .done
  | finalize => return .code (← Session.finalize)

def datasets : Request → List Dataset
  | select _ dataset | setDataset dataset => [dataset]
  | selectIn _ workspace | switchDataset workspace _ => workspace.datasets
  | _ => []

def perform (r : Request) (s : Session) : Except RefineError Answer × Session :=
  match r.edit.run s with
  | .ok answer t => (.ok answer, t)
  | .error e t => (.error e, t)

theorem perform_of_granted {r : Request} {s t : Session} {answer : Answer}
    (h : r.edit.run s = .ok answer t) : r.perform s = (.ok answer, t) := by
  rw [perform, h]

theorem perform_of_error {r : Request} {s t : Session} {e : RefineError}
    (h : r.edit.run s = .error e t) : r.perform s = (.error e, t) := by
  rw [perform, h]

end Request

namespace Session

/-- The answers to requests that are made one after another, and the session after the last. -/
def run : List Request → Session → List (Except RefineError Answer) × Session
  | [], s => ([], s)
  | r :: rs, s =>
    let (answer, t) := r.perform s
    let (answers, u) := run rs t
    (answer :: answers, u)

theorem run_cons (r : Request) (rs : List Request) (s : Session) :
    run (r :: rs) s =
      ((r.perform s).1 :: (run rs (r.perform s).2).1, (run rs (r.perform s).2).2) := rfl

end Session
end TablePhrase
