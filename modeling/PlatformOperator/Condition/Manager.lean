import PlatformOperator.Cause
import PlatformOperator.Condition

/-! The conditions of one resource under a happy condition, which follows the worst of its dependents:
    every change of a condition is followed by the happy condition it entails. -/

namespace PlatformOperator

/-- The conditions of a resource. The happy type depends on the dependents, or on all other types where
    none is declared; it is none of its own dependents. -/
structure Manager where
  happy : String
  dependents : List String
  conditions : List Condition
  happy_not_mem : happy ∉ dependents

namespace Manager

/-- The first condition of type `t`. -/
def condition? (m : Manager) (t : String) : Option Condition := m.conditions.find? (·.type == t)

/-- The happy condition. -/
def top? (m : Manager) : Option Condition := m.condition? m.happy

def isHappy (m : Manager) : Bool := m.top?.any (·.status == .true)

/-- Whether conditions of type `t` bear on the happy condition. -/
def isDependent (m : Manager) (t : String) : Bool :=
  if m.dependents = [] then t != m.happy else m.dependents.contains t

/-- Later transitions come first, missing ones last. -/
def notEarlier (a b : Condition) : Bool :=
  match a.lastTransitionTime, b.lastTransitionTime with
  | _, none => true
  | none, some _ => false
  | some t, some u => u.le t

/-- The conditions that bear on the happy one, the latest transition first. -/
def candidates (m : Manager) : List Condition :=
  (m.conditions.filter fun c => m.isDependent c.type && c.severity == .error).mergeSort notEarlier

/-- The latest candidate that is False, else the latest that is Unknown. -/
def unhappy? (m : Manager) : Option Condition :=
  m.candidates.find? (·.status == .false) <|> m.candidates.find? (·.status == .unknown)

/-- The happy condition that a change of type `changed` entails: that of the unhappy dependent, else True
    unless the change was one of the happy condition itself. -/
def entailed? (m : Manager) (changed : String) : Option Condition :=
  match m.unhappy? with
  | some c => some { type := m.happy, status := c.status, reason := c.reason, message := c.message }
  | none => if changed = m.happy then none else some { type := m.happy, status := .true }

/-- Puts `c` in place of the first condition of its type, else at the end, and tells whether anything
    but times changed. -/
def storeIn (c : Condition) (now : Timestamp) : List Condition → Bool × List Condition
  | [] => (true, [{ c with lastTransitionTime := some (c.lastTransitionTime.getD now) }])
  | old :: cs =>
    if old.type = c.type then
      let (changed, new) := old.update c now
      (changed, new :: cs)
    else
      let (changed, cs) := storeIn c now cs
      (changed, old :: cs)

def store (c : Condition) (now : Timestamp) (m : Manager) : Bool × Manager :=
  let (changed, cs) := storeIn c now m.conditions
  (changed, { m with conditions := cs })

/-- Stores `c` and, as long as something changed, the happy condition that this entails, with at most
    `depth` conditions stored one upon the other. Every store reads the clock. -/
def setWithin : Nat → Condition → Manager → Clock → Option (Manager × Clock)
  | 0, _, _, _ => none
  | depth + 1, c, m, clock =>
    let (changed, m) := m.store c clock.next
    match if changed then m.entailed? c.type else none with
    | none => some (m, clock.tick)
    | some top => setWithin depth top m clock.tick

/-- Stores `c` and keeps the happy condition in line. Three stores are enough: one of `c`, one of the
    happy condition, and one that finds it in line. -/
def set (c : Condition) (m : Manager) : StateM Clock Manager := fun clock =>
  (setWithin 3 c m clock).getD (m, clock)

/-- Puts the happy condition in line after a change of type `changed`. -/
def recompute (changed : String) (m : Manager) : StateM Clock Manager :=
  match m.entailed? changed with
  | none => pure m
  | some top => m.set top

/-- Removes the conditions of type `t`. -/
def clear (t : String) (m : Manager) : StateM Clock Manager :=
  let cs := m.conditions.filter (·.type != t)
  if cs.length = m.conditions.length then pure m else recompute t { m with conditions := cs }

def mark (t : String) (status : ConditionStatus) (d : ConditionDetails) (m : Manager) : StateM Clock Manager :=
  m.set { type := t, status, reason := d.reason, message := d.message,
          observedGeneration := d.observedGeneration, severity := d.severity.getD .error }

/-- Gives type `t` the status, reason, message and severity of `source`. -/
def markFrom (t : String) (source : Condition) (m : Manager) : StateM Clock Manager :=
  m.set { type := t, status := source.status, reason := source.reason, message := source.message,
          severity := source.severity }

/-- Adds the missing ones of `types` with `status`. -/
def addMissing (status : ConditionStatus) : List String → Manager → StateM Clock Manager
  | [], m => pure m
  | t :: ts, m => do
    let m ← if (m.condition? t).isSome then pure m else m.set { type := t, status }
    addMissing status ts m

/-- Adds the missing conditions: the happy one as Unknown, then the dependents, as True where the happy
    condition was True and as Unknown elsewhere. -/
def complete (m : Manager) : StateM Clock Manager :=
  match m.top? with
  | some top => addMissing (if top.status = .true then .true else .unknown) m.dependents m
  | none => do
    let m ← m.set { type := m.happy, status := .unknown }
    addMissing .unknown m.dependents m

/-- A manager of stored conditions; a dependent counts once, and the happy type is none. -/
def start (conditions : List Condition) (happy : String) (dependents : List String) : StateM Clock Manager :=
  complete
    { happy, conditions, dependents := (dependents.filter (· != happy)).eraseDups
      happy_not_mem := by
        intro h
        have := List.mem_eraseDups.mp h
        simp at this }

/-- The place of type `t` in sorted conditions: happy, the dependents as declared, all others. -/
def rank (m : Manager) (t : String) : Nat :=
  if t = m.happy then 0 else m.dependents.idxOf t + 1

/-- Sorts by place and, among the others, by type; equal types keep their order. -/
def sort (m : Manager) : Manager :=
  { m with conditions := m.conditions.mergeSort fun a b =>
      m.rank a.type < m.rank b.type || (m.rank a.type == m.rank b.type && a.type ≤ b.type) }

/-- Drops all conditions but the happy one and the dependents, and adds the missing ones. -/
def reset (m : Manager) : StateM Clock Manager :=
  complete { m with conditions := m.conditions.filter fun c => c.type == m.happy || m.dependents.contains c.type }

end Manager

/-- The details of a failure: an error with the cause's report. -/
def ConditionDetails.failed (c : Cause) (d : ConditionDetails) : ConditionDetails :=
  { d with severity := some .error, reason := some Condition.reasonError, message := some c.fullMessage }

end PlatformOperator
