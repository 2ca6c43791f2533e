/-
The phases of a startup. Six ordinary ones follow each other in a fixed order; a failure may come
after any of them and ends the startup.
-/
namespace Startup

inductive Phase where
  | starting
  | environmentPrepared
  | contextPrepared
  | contextLoaded
  | started
  | running
  | failed
  deriving DecidableEq, Repr

namespace Phase

/-- The ordinary phases in their order. -/
def ordinary : List Phase :=
  [starting, environmentPrepared, contextPrepared, contextLoaded, started, running]

def all : List Phase := ordinary ++ [failed]

def name : Phase → String
  | starting => "STARTING"
  | environmentPrepared => "ENVIRONMENT_PREPARED"
  | contextPrepared => "CONTEXT_PREPARED"
  | contextLoaded => "CONTEXT_LOADED"
  | started => "STARTED"
  | running => "RUNNING"
  | failed => "FAILED"

/-- The name in one word, as it is shown inside an event. -/
def title : Phase → String
  | starting => "Starting"
  | environmentPrepared => "EnvironmentPrepared"
  | contextPrepared => "ContextPrepared"
  | contextLoaded => "ContextLoaded"
  | started => "Started"
  | running => "Running"
  | failed => "Failed"

def ofName? (s : String) : Option Phase := all.find? (·.name == s)

/-- The place in the order of all phases, the failure last. -/
def rank : Phase → Nat
  | starting => 0
  | environmentPrepared => 1
  | contextPrepared => 2
  | contextLoaded => 3
  | started => 4
  | running => 5
  | failed => 6

/-- The ordinary phase that follows. -/
def next : Phase → Option Phase
  | starting => some environmentPrepared
  | environmentPrepared => some contextPrepared
  | contextPrepared => some contextLoaded
  | contextLoaded => some started
  | started => some running
  | running | failed => none

/-- Phases before the context has listeners of its own. -/
def isEarly : Phase → Bool
  | starting | environmentPrepared | contextPrepared => true
  | _ => false

def isTerminal : Phase → Bool
  | running | failed => true
  | _ => false

/-- The only ordinary phase that may come next, after `last` or at the beginning. -/
def expectedAfter : Option Phase → Option Phase
  | none => some starting
  | some p => p.next

end Phase

end Startup
