import HttpRetry.Interleaving
set_option autoImplicit false

namespace HttpRetry

inductive Move where
  /-- A call is begun or goes on, to the next point where it stops or to its end. -/
  | resume (i : Nat)
  /-- A call is cancelled where it stands. -/
  | cancel (i : Nat)
  /-- A further call is made by someone who waits for its end, with a budget. -/
  | send (call : Call) (budget : Nat)
  | read (call : Nat) (id : ResponseId)
  | close (call : Nat) (id : ResponseId)

def Setting.send (s : Setting) (places : List Place) (budget : Nat) (call : Call) : Send :=
  match s.mode with
  | .blocking => sendThrough s call budget places
  | .suspending => sendStepwise s call budget places

def moveAt (f : Task → Work Stage) (tasks : List Task) (i : Nat) : Work (List Task) :=
  match tasks[i]? with
  | none => return tasks
  | some t => do return tasks.set i { t with stage := ← f t }

def Move.apply (s : Setting) (places : List Place) (tasks : List Task) : Move → Work (List Task)
  | .resume i => moveAt (Task.advance s places) tasks i
  | .cancel i => moveAt (Task.cancel s) tasks i
  | .send call budget => do
    let _ ← s.send places budget call
    return tasks
  | .read call id => do
    let _ ← Work.read s.mode call id
    return tasks
  | .close call id => do
    let _ ← Work.close s.mode call id
    return tasks

def runMoves (s : Setting) (places : List Place) : List Move → List Task → Work (List Task)
  | [], tasks => return tasks
  | m :: rest, tasks => do runMoves s places rest (← m.apply s places tasks)

def Task.moveIn (round i : Nat) (t : Task) : Move :=
  if t.cancelAt = some round then .cancel i else .resume i

end HttpRetry
