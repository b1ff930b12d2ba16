/-!
Tasks that several workers do at a time.

A worker that is free takes the next task that waits. Which of the running tasks ends next is decided by a
schedule; tasks that end are handed on in that order, and their results in the order of the tasks.
-/
namespace ClassOutline.Catalog

/-- Tasks that wait, in order, and tasks that run. -/
structure Pool (α : Type) where
  waiting : List α
  running : List α

namespace Pool

variable {α : Type}

/-- The free ones of the workers take the tasks in front. -/
def fill (workers : Nat) (pool : Pool α) : Pool α :=
  let free := workers - pool.running.length
  ⟨pool.waiting.drop free, pool.running ++ pool.waiting.take free⟩

/-- The order in which tasks end when a number of the schedule picks, each time, one of those that run. Without
a number, or if it picks none, the one that runs longest ends. -/
def finish (workers : Nat) : Nat → List Nat → Pool α → List α
  | 0, _, _ => []
  | steps + 1, schedule, pool =>
    let full := pool.fill workers
    let pick := schedule.headD 0
    let place := if pick < full.running.length then pick else 0
    match full.running[place]? with
    | none => []
    | some task => task :: finish workers steps schedule.tail ⟨full.waiting, full.running.eraseIdx place⟩

def order (workers : Nat) (schedule : List Nat) (tasks : List α) : List α :=
  finish workers tasks.length schedule ⟨tasks, []⟩

end Pool

end ClassOutline.Catalog
