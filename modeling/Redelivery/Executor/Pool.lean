/-!
# Pools of bounded concurrency

A pool lets a fixed number of jobs run at once.  Jobs beyond that wait, and the
first to wait is the first to run.  A job that ends hands its permit to the
first one that waits, so a permit is free only while no job waits.
-/

namespace Redelivery.Executor

/-- Permits, those of them in use, and the jobs that wait for one. -/
structure Pool (α : Type) where
  capacity : Nat
  running : Nat
  waiting : List α
  deriving Repr

namespace Pool

variable {α : Type}

/-- An idle pool of a size; every pool lets at least one job run. -/
def ofSize (size : Nat) : Pool α :=
  { capacity := max size 1, running := 0, waiting := [] }

/-- A job asks for a permit.  Either it runs now, or it waits. -/
def request (pool : Pool α) (job : α) : Pool α × Bool :=
  if pool.running < pool.capacity then
    ({ pool with running := pool.running + 1 }, true)
  else
    ({ pool with waiting := pool.waiting ++ [job] }, false)

/-- A job gives its permit back, and the first that waits takes it over. -/
def release (pool : Pool α) : Pool α × Option α :=
  match pool.waiting with
  | [] => ({ pool with running := pool.running - 1 }, none)
  | job :: rest => ({ pool with waiting := rest }, some job)

/-- The permits that nobody holds. -/
def available (pool : Pool α) : Nat :=
  pool.capacity - pool.running

/-- The jobs that hold a permit. -/
def inFlight (pool : Pool α) : Nat :=
  pool.capacity - pool.available

/-! ## Laws -/

/-- As long as no more jobs run than there are permits, those that hold a permit
are those that run. -/
theorem inFlight_eq_running {pool : Pool α} (bounded : pool.running ≤ pool.capacity) :
    pool.inFlight = pool.running := by
  simp only [inFlight, available]
  omega

/-! ## Several pools -/

/-- A job asks for a permit of the pool at an index.  It waits for nothing where
there is no pool. -/
def requestAt (pools : List (Pool α)) (index : Nat) (job : α) : List (Pool α) × Bool :=
  match pools[index]? with
  | none => (pools, true)
  | some pool =>
      let (admitted, granted) := pool.request job
      (pools.set index admitted, granted)

/-- A job gives a permit of the pool at an index back. -/
def releaseAt (pools : List (Pool α)) (index : Nat) : List (Pool α) × Option α :=
  match pools[index]? with
  | none => (pools, none)
  | some pool =>
      let (released, heir) := pool.release
      (pools.set index released, heir)

end Pool

end Redelivery.Executor
