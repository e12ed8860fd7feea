import ClusterDeploy.Failure

/-!
# The installer cache

The installer is downloaded once per engine and shared by every machine's installation,
including the agents installed together.  The cache checks for the installer and downloads it
under one lock, so a caller that comes while a download runs waits for it; a failed download is
not kept, and the next caller to take the lock tries again.

`InstallerCache` is the cache with the callers of one round of fetches, numbered, each fetching
once, and `InstallerCache.step` is one caller's next move as the event loop runs it:

* coming to the lock, a caller takes it at once when it is free and nobody waits for it, and
  queues for it otherwise;
* the first caller in the queue takes the lock once it is let go;
* holding the lock, a caller returns the installer kept and lets the lock go, or starts the
  next download;
* a download ends with its answer, which its caller returns or fails with; a good answer is
  kept, and the lock is let go either way.

The lock wakes its waiters first come, first served, and a caller that comes while a woken
waiter has not yet taken the lock queues behind it.  `InstallerCache.run` moves the callers as
a schedule picks them; every interleaving the event loop can take is the run of some schedule.
-/

namespace ClusterDeploy

/-- Where a caller of the installer cache is. -/
inductive Fetcher where
  /-- not at the lock yet -/
  | idle
  /-- queued for the lock -/
  | queued
  /-- holding the lock while its download, the `n`-th, runs -/
  | downloading (n : Nat)
  /-- returned the installer, or failed -/
  | done (result : Except Failure String)
deriving Repr, Inhabited

def Fetcher.isDone : Fetcher → Bool
  | .done _ => true
  | _ => false

def Fetcher.failed : Fetcher → Bool
  | .done (.error _) => true
  | _ => false

/-- The installer cache and the callers of one round of fetches. -/
structure InstallerCache where
  /-- the installer, once a download gave it -/
  script : Option String := none
  /-- whether a caller holds the lock -/
  locked : Bool := false
  /-- the callers waiting for the lock, in the order they came -/
  queue : List Nat := []
  /-- the caller of each download, in the order the downloads started -/
  downloads : List Nat := []
  /-- each caller, by number -/
  callers : List Fetcher
deriving Repr, Inhabited

namespace InstallerCache

/-- `n` callers about to fetch from a cache that holds no installer. -/
def start (n : Nat) : InstallerCache := { callers := List.replicate n .idle }

/-- Caller `i` holds the lock and checks the cache: it returns the installer kept, letting the
lock go at once, or starts the next download. -/
def enter (c : InstallerCache) (i : Nat) : InstallerCache :=
  match c.script with
  | some s => { c with callers := c.callers.set i (.done (.ok s)) }
  | none => { c with
      locked := true
      downloads := c.downloads ++ [i]
      callers := c.callers.set i (.downloading (c.downloads.length + 1)) }

/-- Caller `i`'s download ended with `r`: a good answer is kept, and the lock is let go. -/
def finish (c : InstallerCache) (i : Nat) (r : Except Failure String) : InstallerCache :=
  { c with
    script := match r with
      | .ok s => some s
      | .error _ => c.script
    locked := false
    callers := c.callers.set i (.done r) }

/-- Caller `i`'s next move, if it can make one; the `n`-th download answers `answer n`. -/
def step (answer : Nat → Except Failure String) (c : InstallerCache) (i : Nat) :
    Option InstallerCache :=
  match c.callers[i]? with
  | some .idle =>
    -- the lock is taken at once only when it is free and nobody waits for it
    if !c.locked && c.queue.isEmpty then some (c.enter i)
    else some { c with queue := c.queue ++ [i], callers := c.callers.set i .queued }
  | some .queued =>
    -- the first in the queue takes the lock once it is let go
    match c.queue with
    | j :: rest => if !c.locked && j == i then some ({ c with queue := rest }.enter i) else none
    | [] => none
  | some (.downloading n) => some (c.finish i (answer n))
  | _ => none

/-- The cache after the callers moved as `picks` schedules them; a caller picked when it cannot
move stays where it is. -/
def run (answer : Nat → Except Failure String) : List Nat → InstallerCache → InstallerCache
  | [], c => c
  | i :: picks, c => run answer picks ((c.step answer i).getD c)

def finished (c : InstallerCache) : Bool := c.callers.all Fetcher.isDone

end InstallerCache

end ClusterDeploy
