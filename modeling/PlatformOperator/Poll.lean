import PlatformOperator.Cause

/-! Polling: a check is repeated at a fixed pace until it holds, it fails, or a time limit passes. Times are
    in milliseconds. -/

namespace PlatformOperator

/-- The text of a duration in its largest unit. -/
def durationText (ms : Nat) : String :=
  if ms = 0 then "0ns"
  else if ms < 1000 then toString ms ++ "ms"
  else
    let digits := toString (1000 + ms % 1000)
    let fraction := (digits.toList.drop 1).reverse.dropWhile (· == '0')
    toString (ms / 1000) ++ (if fraction = [] then "" else "." ++ String.ofList fraction.reverse) ++ "s"

/-- How polling fails. -/
inductive PollError where
  | timeout (what : String) (limit : Nat)
  | check (what : String) (cause : Cause)
  deriving Repr, Inhabited

def PollError.cause : PollError → Cause
  | .timeout what limit => .plain ("gave up waiting for " ++ what ++ " after " ++ durationText limit)
  | .check what cause => .context ("failed checking whether " ++ what) cause

instance : Failure PollError where
  kindName
    | .timeout .. => "Timeout"
    | .check .. => "Check"
  cause := PollError.cause

namespace Poll

/-- The pause before each check. -/
def interval : Nat := 2000

def defaultLimit : Nat := 300000

/-- What a check finds, and how long it takes. -/
structure Check where
  outcome : Except Cause Bool
  duration : Nat

/-- Polls from time `now` on, and tells when polling ends. A check that ends at the limit counts, one
    that ends later does not. -/
def go {σ : Type} (what : String) (limit : Nat) (check : StateM σ Check) :
    Nat → Nat → StateM σ (Except PollError Unit × Nat)
  | 0, _ => return (.error (.timeout what limit), limit)
  | checks + 1, now => do
    if limit < now + interval then return (.error (.timeout what limit), limit)
    let found ← check
    let now := now + interval + found.duration
    if limit < now then return (.error (.timeout what limit), limit)
    match found.outcome with
    | .error cause => return (.error (.check what cause), now)
    | .ok true => return (.ok (), now)
    | .ok false => go what limit check checks now

/-- Polls for as long as `limit` allows, and tells how long it took. Each check comes after a pause, so
    the limit also bounds their number. -/
def untilHolds {σ : Type} (what : String) (limit : Nat) (check : StateM σ Check) :
    StateM σ (Except PollError Unit × Nat) :=
  go what limit check (limit / interval + 1) 0

end Poll
end PlatformOperator
