-- A registry shares connections: callers who ask with the same options get the
-- same connection, as long as its host lives.
import StructuredSql.Connection.Basic
import StructuredSql.Options.Fingerprint

namespace StructuredSql

/-- Connections under the fingerprints of their options. All connections that
were ever made stand in one list, because those who hold one can still use it
when it is no longer registered; an entry gives a place in the list. -/
structure Registry (τ : Type) where
  /-- Connections that were unused for longer, in milliseconds, may be evicted. -/
  idleLimit : Option Nat
  connections : List (Connection τ)
  entries : List (UInt64 × Nat)

namespace Registry

variable {τ : Type}

def empty (idleLimit : Option Nat) : Registry τ := ⟨idleLimit, [], []⟩

def size (r : Registry τ) : Nat := r.entries.length

/-- The place of the connection under a fingerprint. -/
def place? (r : Registry τ) (key : UInt64) : Option Nat := r.entries.lookup key

/-- The connection under a fingerprint, with its place. -/
def get? (r : Registry τ) (key : UInt64) : Option (Nat × Connection τ) := do
  let n ← r.place? key
  return (n, ← r.connections[n]?)

/-- A connection takes its place. -/
def put (r : Registry τ) (n : Nat) (c : Connection τ) : Registry τ :=
  { r with connections := r.connections.set n c }

/-- Nothing is under the fingerprint any more. -/
def forget (r : Registry τ) (key : UInt64) : Registry τ :=
  { r with entries := r.entries.filter fun e => e.1 != key }

/-- A new connection under a fingerprint. -/
def register (r : Registry τ) (key : UInt64) (c : Connection τ) : Registry τ :=
  { r with
    connections := r.connections ++ [c]
    entries := r.entries ++ [(key, r.connections.length)] }

/-- The connection at a place is closed, whether or not that succeeds. -/
def closeAt (T : Transport τ) (r : Registry τ) (n : Nat) : Except CallError Unit × Registry τ :=
  match r.connections[n]? with
  | none => (.ok (), r)
  | some c =>
    let (outcome, c) := c.close T
    (outcome, r.put n c)

/-- A new connection in place of whatever was under the fingerprint. -/
def connectNew (T : Transport τ) (start : Options → Except CallError τ) (now : Nat)
    (options : Options) (r : Registry τ) : Answer Nat × Registry τ :=
  match start options with
  | .error e => (some (.error e), r)
  | .ok t =>
    match Connection.connectWith T now options t with
    | (none, _) => (none, r)
    | (some (.error e), _) => (some (.error e), r)
    | (some (.ok ()), c) =>
      (some (.ok r.connections.length), r.register options.fingerprint c)

/-- The place of a live connection with the options: the registered one, or a new
one. -/
def connect (T : Transport τ) (start : Options → Except CallError τ) (now : Nat)
    (options : Options) (r : Registry τ) : Answer Nat × Registry τ :=
  let key := options.fingerprint
  match r.get? key with
  | none => connectNew T start now options r
  | some (n, c) =>
    if c.isAlive T then (some (.ok n), r)
    else connectNew T start now options ((r.forget key).closeAt T n).2

/-- A connection was unused for longer than a limit, or has no link. -/
def isIdle (limit now : Nat) (c : Connection τ) : Bool :=
  match c.lastUsed? with
  | none => true
  | some used => limit < now - used

/-- The entries whose connections are idle. -/
def idleEntries (r : Registry τ) (limit now : Nat) : List (UInt64 × Nat) :=
  r.entries.filter fun e => (r.connections[e.2]?).all (isIdle limit now)

/-- Connections at some places are closed, one after the other: the first error,
if there is one. -/
def closeEach (T : Transport τ) : List Nat → Registry τ → Except CallError Unit × Registry τ
  | [], r => (.ok (), r)
  | n :: rest, r =>
    let (outcome, r) := r.closeAt T n
    let (outcomes, r) := closeEach T rest r
    (match outcome with
      | .ok () => outcomes
      | .error e => .error e, r)

/-- Idle connections are closed and forgotten; how many there were. -/
def evictIdle (T : Transport τ) (now : Nat) (r : Registry τ) : Nat × Registry τ :=
  match r.idleLimit with
  | none => (0, r)
  | some limit =>
    let idle := r.idleEntries limit now
    let left := r.entries.filter fun e => !(r.connections[e.2]?).all (isIdle limit now)
    (idle.length, (closeEach T (idle.map (·.2)) { r with entries := left }).2)

/-- Every registered connection is closed and forgotten: the first error, if there
is one. -/
def closeAll (T : Transport τ) (r : Registry τ) : Except CallError Unit × Registry τ :=
  closeEach T (r.entries.map (·.2)) { r with entries := [] }

end Registry
end StructuredSql
