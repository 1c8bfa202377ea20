/-!
Deployment states and the moves between them.

A deployment starts in `init` and moves forward through `cloning`, `building` and `deploying`
to `done`; it may fail from any state before `done`; a `done` deployment may later be marked
`rolledBack` when an older one is put back. `done`, `failed` and `rolledBack` are terminal.
`canMove from to` is the rule every writer of a deployment's state follows: staying put is
allowed only while not terminal, and otherwise a move goes strictly forward in `rank`, to
`failed` from any live state, or from `done` to `rolledBack`.
-/
namespace Shipyard

/-- Where a deployment stands. -/
inductive DeploymentStatus where
  | init
  | cloning
  | building
  | deploying
  | done
  | failed
  | rolledBack
  deriving Repr, DecidableEq, Inhabited

namespace DeploymentStatus

/-- The name of a status, as stored and as exchanged. -/
def text : DeploymentStatus → String
  | .init => "init"
  | .cloning => "cloning"
  | .building => "building"
  | .deploying => "deploying"
  | .done => "done"
  | .failed => "failed"
  | .rolledBack => "rolledBack"

/-- Every status, in order of progress. -/
def all : List DeploymentStatus := [.init, .cloning, .building, .deploying, .done, .failed, .rolledBack]

/-- The status with the given name. -/
def ofText? (s : String) : Option DeploymentStatus := all.find? (·.text == s)

/-- The refusal of an unknown name. -/
def unknownMessage (s : String) : String := "Invalid deployment status: " ++ s

def isTerminal : DeploymentStatus → Bool
  | .done | .failed | .rolledBack => true
  | _ => false

/-- Progress order: the four live states, then the two outcomes, then `rolledBack`. -/
def rank : DeploymentStatus → Nat
  | .init => 0
  | .cloning => 1
  | .building => 2
  | .deploying => 3
  | .done | .failed => 4
  | .rolledBack => 5

/-- Whether a deployment may go from `a` to `b`. -/
def canMove (a b : DeploymentStatus) : Bool :=
  if a = b then !a.isTerminal
  else match a with
    | .done => b = .rolledBack
    | .failed | .rolledBack => false
    | _ => b = .failed || (b != .rolledBack && b.rank > a.rank)

@[simp] theorem ofText_text (s : DeploymentStatus) : ofText? s.text = some s := by
  cases s <;> rfl

end DeploymentStatus

end Shipyard
