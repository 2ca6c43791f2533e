/-
Announcers. An announcer tells the listeners of an application about each phase of its startup,
strictly in order, and about its failure at most once. Early phases go through a channel of its own,
which has the application's listeners from the beginning; from then on the listeners belong to the
context, and the context publishes.
-/
import Startup.Lifecycle.FailureReport

namespace Startup

variable {σ : Type} (call : Caller σ)

/-- An announcer whose early channel has the application's listeners. -/
def newAnnouncer (app : Descriptor) (args : List String) : Action σ AnnouncerId := do
  let a : AnnouncerId := ⟨← freshNumber⟩
  modifyStore fun s => { s with
    announcers := s.announcers.set a { application := app, args }
    channels := s.channels.set (.early a) { listeners := app.listeners } }
  record (.madeAnnouncer a)
  pure a

/-- The phase announced last, as errors call it. -/
def Announcer.previous (a : Announcer) : String :=
  match a.last with
  | some p => p.name
  | none => "nothing"

def enterPhase (a : AnnouncerId) (p : Phase) : Action σ Unit := do
  modifyStore fun s => { s with announcers := s.announcers.modify a fun x => { x with last := some p } }
  record (.entered a p)

/-- Enters a phase, if it is the one that may come next. -/
def advance (a : AnnouncerId) (p : Phase) : Action σ (Except StartupError Unit) := do
  let announcer := (← getStore).announcer a
  if Phase.expectedAfter announcer.last = some p then do
    enterPhase a p
    pure (.ok ())
  else pure (.error (.phaseOrder announcer.previous p))

/-- The application's listeners in turn are told the context, if they want to know it, and are
added to it. -/
def attachListeners (c : ContextId) : List ListenerId → Action σ Unit
  | [] => pure ()
  | l :: rest => do
    if ((← getStore).listener l).aware then bindContext call l c
    addListener c l
    attachListeners c rest

/-- The event of an announcement. -/
def Announcer.event (a : Announcer) : Announcement → Event
  | .starting => .starting a.application a.args
  | .environmentPrepared e => .environmentPrepared a.application a.args e
  | .contextPrepared c => .withContext .contextPrepared a.application a.args c
  | .contextLoaded c => .withContext .contextLoaded a.application a.args c
  | .started c => .withContext .started a.application a.args c
  | .running c => .withContext .running a.application a.args c

/-- Announces a phase that may come next. -/
def announce (a : AnnouncerId) (what : Announcement) : Action σ (Except StartupError Unit) := do
  match ← advance a what.phase with
  | .error error => pure (.error error)
  | .ok () => do
    let announcer := (← getStore).announcer a
    let e := announcer.event what
    match what with
    | .starting | .environmentPrepared _ | .contextPrepared _ => multicast call (.early a) e
    | .contextLoaded c => do
      attachListeners call c announcer.application.listeners
      publish call c e
    | .started c | .running c => publish call c e

/-- Announces a failure, unless one was announced before. -/
def announceFailure (a : AnnouncerId) (c : Option ContextId) (cause : Cause) : Action σ Unit := do
  let announcer := (← getStore).announcer a
  if announcer.last = some .failed then
    log .warn ("Startup failure already reported, ignoring: " ++ cause.error.message)
  else do
    enterPhase a .failed
    reportFailure call (.early a) c (.failed announcer.application announcer.args c cause)

end Startup
