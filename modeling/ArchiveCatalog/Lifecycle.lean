import ArchiveCatalog.Error
import ArchiveCatalog.Health

namespace ArchiveCatalog

inductive State where
  | constructed
  | initialized
  | ready
  | stopped
  deriving DecidableEq, Inhabited

namespace State

def name : State → String
  | .constructed => "constructed"
  | .initialized => "initialized"
  | .ready => "ready"
  | .stopped => "stopped"

def isReady (state : State) : Bool := state = .ready

def rejection (source target : State) : LifecycleError :=
  if source = .stopped then .stopped else .invalidTransition source.name target.name

/-- Move from one given state to another; being there already is fine. -/
def advance (source target state : State) : Except LifecycleError State :=
  if state = target ∨ state = source then .ok target else .error (rejection state target)

def toInitialized : State → Except LifecycleError State := advance .constructed .initialized

def toReady : State → Except LifecycleError State := advance .initialized .ready

/-- The outcome of a step to another state, and the state after it. -/
def settle (state : State) : Except LifecycleError State → Outcome Unit × State
  | .ok next => (.ok (), next)
  | .error error => (.refuse (.lifecycle error), state)

def ensureReady (state : State) : Except LifecycleError Unit :=
  if state = .ready then .ok () else .error (.notReady state.name)

end State

/-- Health of a catalog that does not serve: unknown before it is started, unhealthy after it was
stopped. -/
def idleHealth (component : String) (state : State) : HealthCheck :=
  match state with
  | .stopped => .unhealthy component "index is stopped"
  | state => .unknown component ("index is " ++ state.name)

end ArchiveCatalog
