-- SUMMARY: A bounded store that gives up its least recently used entry.

/-!
# Recent entries

Every use of an entry stamps it with the time of a logical clock, which ticks on each use and
each attempt at one. The entry with the smallest stamp makes room for a new one.
-/

namespace PathGlob

namespace Recent

structure Entry (α : Type) where
  key : String
  value : α
  lastUsed : Nat

/-- The entry used longest ago. -/
def stalest {α : Type} : List (Entry α) → Option (Entry α)
  | [] => none
  | e :: es => match stalest es with
    | some f => if f.lastUsed < e.lastUsed then some f else some e
    | none => some e

end Recent

/-- At most `capacity` values by key. -/
structure Recent (α : Type) where
  capacity : Nat
  clock : Nat := 0
  entries : List (Recent.Entry α) := []

namespace Recent

variable {α : Type}

/-- An empty store for at least one entry. -/
def ofCapacity (capacity : Nat) : Recent α := { capacity := max capacity 1 }

def size (r : Recent α) : Nat := r.entries.length

def isEmpty (r : Recent α) : Bool := r.entries.isEmpty

def find? (r : Recent α) (key : String) : Option (Entry α) :=
  r.entries.find? fun e => e.key = key

/-- Replaces the entry with the key of `e`. -/
def replace (es : List (Entry α)) (e : Entry α) : List (Entry α) :=
  es.map fun f => if f.key = e.key then e else f

/-- Looks up a key and stamps its entry. -/
def touch (r : Recent α) (key : String) : Option α × Recent α :=
  let now := r.clock + 1
  match r.find? key with
  | some e =>
    (some e.value, { r with clock := now, entries := replace r.entries { e with lastUsed := now } })
  | none => (none, { r with clock := now })

/-- Stores a value, and tells which key made room for it. -/
def store (r : Recent α) (key : String) (value : α) : Option String × Recent α :=
  let now := r.clock + 1
  let e : Entry α := ⟨key, value, now⟩
  match r.find? key with
  | some _ => (none, { r with clock := now, entries := replace r.entries e })
  | none =>
    if r.capacity ≤ r.size then
      match stalest r.entries with
      | some s => (some s.key,
          { r with clock := now, entries := e :: r.entries.filter fun f => f.key ≠ s.key })
      | none => (none, { r with clock := now, entries := e :: r.entries })
    else (none, { r with clock := now, entries := e :: r.entries })

/-- Drops all entries. The clock goes on. -/
def clear (r : Recent α) : Recent α := { r with entries := [] }

end Recent

end PathGlob
