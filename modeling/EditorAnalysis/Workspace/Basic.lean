import EditorAnalysis.Session
import EditorAnalysis.Workspace.Registry

/-!
# Workspaces

A workspace owns the sessions and the configuration that they share. Sessions are addressed by
ids; the ids handed out count up and are not used again. A call with an id that no session has is
refused and changes nothing, and so does a session that cannot be created.

A new configuration takes effect when a text is set the next time.
-/

namespace EditorAnalysis

/-- Why a workspace refuses a call. -/
inductive WorkspaceError where
  /-- No session has the id: it was never handed out, or the session was destroyed. -/
  | sessionNotFound (id : SessionId)
  /-- The language of a new session cannot be used. -/
  | backend (reason : BackendError)
  deriving DecidableEq, Repr, Inhabited

namespace WorkspaceError

def message : WorkspaceError → String
  | .sessionNotFound id => s!"session {id.shown} not found"
  | .backend reason => s!"language backend error: {reason.message}"

end WorkspaceError

/-- The sessions, what they share, and what new ones are made of. -/
structure Workspace (β σ : Type) where
  config : Config
  /-- The language of a new session: what each attempt to get one gives, from the first on. -/
  backends : Nat → Except BackendError β
  /-- The number of attempts so far. -/
  attempts : Nat
  catalog : Checker.Catalog σ
  sessions : Registry (Session β σ)
  /-- The id handed out last. -/
  lastId : UInt64

namespace Workspace

variable {β σ α : Type}

/-- A workspace without sessions. Factories that give no checker now are left out for good. -/
def new (config : Config) (backends : Nat → Except BackendError β)
    (factories : List (Checker.Factory σ)) : Workspace β σ where
  config := config
  backends := backends
  attempts := 0
  catalog := Checker.Catalog.discover factories
  sessions := []
  lastId := 0

def setConfig (w : Workspace β σ) (config : Config) : Workspace β σ :=
  { w with config := config }

def setStyleCheck (w : Workspace β σ) (enabled : Bool) : Workspace β σ :=
  { w with config := { w.config with styleCheck := enabled } }

/-- Creates a session of an empty text and hands out its id. -/
def create [Language β] (w : Workspace β σ) :
    Except WorkspaceError SessionId × Workspace β σ :=
  match w.backends w.attempts with
  -- An attempt that fails is counted, but nothing else changes.
  | .error reason => (.error (.backend reason), { w with attempts := w.attempts + 1 })
  | .ok backend =>
    let (checkers, catalog) := w.catalog.instantiate
    let id : SessionId := ⟨w.lastId + 1⟩
    (.ok id,
      { w with
        attempts := w.attempts + 1
        catalog := catalog
        sessions := w.sessions.put id (Session.new backend checkers)
        lastId := w.lastId + 1 })

def session (w : Workspace β σ) (id : SessionId) : Except WorkspaceError (Session β σ) :=
  match w.sessions.find? id with
  | some s => .ok s
  | none => .error (.sessionNotFound id)

def destroy (w : Workspace β σ) (id : SessionId) :
    Except WorkspaceError Unit × Workspace β σ :=
  match w.session id with
  | .ok _ => (.ok (), { w with sessions := w.sessions.remove id })
  | .error e => (.error e, w)

/-- Lets a session change and gives what the change gives. -/
def update (w : Workspace β σ) (id : SessionId) (change : Session β σ → α × Session β σ) :
    Except WorkspaceError α × Workspace β σ :=
  match w.session id with
  | .ok s =>
    let (a, next) := change s
    (.ok a, { w with sessions := w.sessions.set id next })
  | .error e => (.error e, w)

def sessionIds (w : Workspace β σ) : List SessionId :=
  w.sessions.ids

/-- Notes the directory of the text's file of a session. -/
def setSourceDirectory (w : Workspace β σ) (id : SessionId) (directory : String) :
    Except WorkspaceError Unit × Workspace β σ :=
  w.update id fun s => ((), s.setSourceDirectory directory)

/-- Sets the text of a session and analyses it under the configuration now in effect. -/
def setSourceText [Language β] [Checker σ] (w : Workspace β σ) (id : SessionId)
    (text : String) : Except WorkspaceError Unit × Workspace β σ :=
  w.update id fun s => ((), s.setSourceText text w.config)

/-- Replaces a line of a session's text and gives its classes. -/
def replaceLine (w : Workspace β σ) (id : SessionId) (line : Nat) (text : String) :
    Except WorkspaceError (List CharClass) × Workspace β σ :=
  w.update id fun s => s.replaceLine line text

/-- What a session says of its text. -/
def ask (w : Workspace β σ) (id : SessionId) (question : Session β σ → α) :
    Except WorkspaceError α :=
  (w.session id).map question

end Workspace
end EditorAnalysis
