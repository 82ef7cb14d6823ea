import EditorAnalysis.Report
import EditorAnalysis.Workspace.Basic

/-!
# Calls of a workspace

The operations of a workspace as values, so that one can speak of runs: lists of calls made one
after the other.
-/

namespace EditorAnalysis

inductive Call where
  | create
  | destroy (id : SessionId)
  | sessionIds
  | setSourceDirectory (id : SessionId) (directory : String)
  | setSourceText (id : SessionId) (text : String)
  | replaceLine (id : SessionId) (line : Nat) (text : String)
  | diagnostics (id : SessionId)
  | lineClasses (id : SessionId)
  | lineRanks (id : SessionId)
  | globalNames (id : SessionId)
  | hints (id : SessionId)
  | setStyleCheck (enabled : Bool)
  | setConfig (config : Config)
  | catalogSize
  /-- Asks for the whole state of a session. -/
  | session (id : SessionId)
  | report (id : SessionId) (path : String)
  deriving DecidableEq, Repr, Inhabited

/-- What an operation gives. -/
inductive Reply (β σ : Type) where
  | created (id : SessionId)
  | done
  | sessionIds (ids : List SessionId)
  | editedClasses (classes : List CharClass)
  | diagnostics (list : List Diagnostic)
  | lineClasses (rows : List (List CharClass))
  | lineRanks (ranks : List LineRank)
  | globalNames (names : GlobalNames)
  | hints (list : List Hint)
  | config (config : Config)
  | catalogSize (size : Nat)
  | session (s : Session β σ)
  | report (report : Report)

/-- The session that a call is addressed to, if it is addressed to one. -/
def Call.target? : Call → Option SessionId
  | .create | .sessionIds | .setStyleCheck _ | .setConfig _ | .catalogSize => none
  | .destroy id | .setSourceDirectory id _ | .setSourceText id _ | .replaceLine id _ _
  | .diagnostics id | .lineClasses id | .lineRanks id | .globalNames id | .hints id
  | .session id | .report id _ => some id

namespace Workspace

variable {β σ : Type} [Language β] [Checker σ]

def perform (w : Workspace β σ) :
    Call → Except WorkspaceError (Reply β σ) × Workspace β σ
  | .create =>
    let (outcome, next) := w.create
    (outcome.map .created, next)
  | .destroy id =>
    let (outcome, next) := w.destroy id
    (outcome.map fun _ => .done, next)
  | .sessionIds => (.ok (.sessionIds w.sessionIds), w)
  | .setSourceDirectory id directory =>
    let (outcome, next) := w.setSourceDirectory id directory
    (outcome.map fun _ => .done, next)
  | .setSourceText id text =>
    let (outcome, next) := w.setSourceText id text
    (outcome.map fun _ => .done, next)
  | .replaceLine id line text =>
    let (outcome, next) := w.replaceLine id line text
    (outcome.map .editedClasses, next)
  | .diagnostics id => (w.ask id fun s => .diagnostics s.diagnostics, w)
  | .lineClasses id => (w.ask id fun s => .lineClasses s.lineClasses, w)
  | .lineRanks id => (w.ask id fun s => .lineRanks s.lineRanks, w)
  | .globalNames id => (w.ask id fun s => .globalNames s.globalNames, w)
  | .hints id => (w.ask id fun s => .hints s.hints, w)
  | .setStyleCheck enabled =>
    let next := w.setStyleCheck enabled
    (.ok (.config next.config), next)
  | .setConfig config =>
    let next := w.setConfig config
    (.ok (.config next.config), next)
  | .catalogSize => (.ok (.catalogSize w.catalog.length), w)
  | .session id => (w.ask id .session, w)
  | .report id path => (w.ask id fun s => .report (Report.ofSession s path), w)

/-- Makes calls one after the other: what each of them gives, and the workspace at the end. -/
def run (w : Workspace β σ) :
    List Call → List (Except WorkspaceError (Reply β σ)) × Workspace β σ
  | [] => ([], w)
  | call :: rest =>
    let (outcome, next) := w.perform call
    let (outcomes, last) := next.run rest
    (outcome :: outcomes, last)

end Workspace
end EditorAnalysis
