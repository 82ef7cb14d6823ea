import EditorAnalysis.Proofs.Python.Reanalysis
import EditorAnalysis.Proofs.Workspace.Ids

/-!
# Sessions apart

What a workspace answers about one session depends on the calls that concern this session and on no
others: the calls addressed to it, those that create sessions, and those that set the
configuration. Two workspaces that differ in their other sessions only go on to differ in these
only.
-/

namespace EditorAnalysis

/-- Whether a call concerns the session under an id. -/
def Call.concerns (id : SessionId) : Call → Bool
  | .create | .setStyleCheck _ | .setConfig _ => true
  | call => call.target? == some id

namespace Workspace

variable {β σ α : Type} {v w : Workspace β σ} {id : SessionId} {call : Call}

/-- What all sessions share. -/
def shared (w : Workspace β σ) : Workspace β σ :=
  { w with sessions := [] }

/-- Whether two workspaces agree on what all sessions share and on the session under an id. -/
structure SameFor (id : SessionId) (v w : Workspace β σ) : Prop where
  shared : v.shared = w.shared
  session : v.session id = w.session id

namespace SameFor

theorem refl (w : Workspace β σ) : SameFor id w w := ⟨rfl, rfl⟩

theorem symm (h : SameFor id v w) : SameFor id w v := ⟨h.shared.symm, h.session.symm⟩

theorem trans {u : Workspace β σ} (first : SameFor id u v) (second : SameFor id v w) :
    SameFor id u w :=
  ⟨first.shared.trans second.shared, first.session.trans second.session⟩

/-- What can be told from the shared part is the same. -/
theorem eq_of_shared {γ : Type} (h : SameFor id v w) (part : Workspace β σ → γ)
    (isShared : ∀ u : Workspace β σ, part u.shared = part u) : part v = part w := by
  rw [← isShared v, h.shared, isShared w]

theorem config (h : SameFor id v w) : v.config = w.config :=
  h.eq_of_shared Workspace.config fun _ => rfl

end SameFor

theorem shared_destroy (w : Workspace β σ) (id : SessionId) :
    (w.destroy id).2.shared = w.shared := by
  unfold destroy
  split <;> rfl

theorem shared_update (w : Workspace β σ) (id : SessionId)
    (change : Session β σ → α × Session β σ) : (w.update id change).2.shared = w.shared := by
  unfold update
  split <;> rfl

variable [Language β] [Checker σ]

/-! ## One call -/

/-- What a call makes of the part that all sessions share depends on that part alone. -/
theorem shared_perform (w : Workspace β σ) (call : Call) :
    (w.perform call).2.shared = (w.shared.perform call).2.shared := by
  have updated {α : Type} (id : SessionId) (change : Session β σ → α × Session β σ) :
      (w.update id change).2.shared = (w.shared.update id change).2.shared :=
    (shared_update w id change).trans (shared_update w.shared id change).symm
  cases call with
  | create => cases given : w.backends w.attempts <;> simp [perform, create, given, shared]
  | destroy id => exact (shared_destroy w id).trans (shared_destroy w.shared id).symm
  | setSourceDirectory id directory =>
      exact updated id fun s => ((), s.setSourceDirectory directory)
  | setSourceText id text => exact updated id fun s => ((), s.setSourceText text w.config)
  | replaceLine id line text => exact updated id fun s => s.replaceLine line text
  | sessionIds | diagnostics | lineClasses | lineRanks | globalNames | hints | setStyleCheck
  | setConfig | catalogSize | session | report => rfl

/-- A call that does not concern a session leaves what is the session's and what is shared. -/
theorem sameFor_perform (other : call.concerns id = false) : SameFor id (w.perform call).2 w := by
  have updated {α : Type} {target : SessionId} (change : Session β σ → α × Session β σ)
      (apart : target ≠ id) : SameFor id (w.update target change).2 w :=
    ⟨shared_update w target change, by rw [session_update, if_neg (Ne.symm apart)]⟩
  cases call with
  | create | setStyleCheck | setConfig => cases other
  | destroy target =>
      have apart : target ≠ id := by simpa [Call.concerns, Call.target?] using other
      exact ⟨shared_destroy w target, session_destroy_of_ne apart⟩
  | setSourceDirectory target directory =>
      exact updated (fun s => ((), s.setSourceDirectory directory))
        (by simpa [Call.concerns, Call.target?] using other)
  | setSourceText target text =>
      exact updated (fun s => ((), s.setSourceText text w.config))
        (by simpa [Call.concerns, Call.target?] using other)
  | replaceLine target line text =>
      exact updated (fun s => s.replaceLine line text)
        (by simpa [Call.concerns, Call.target?] using other)
  | sessionIds | diagnostics | lineClasses | lineRanks | globalNames | hints | catalogSize
  | session | report => exact SameFor.refl w

/-- Where the shared parts are the same, creations come out alike. -/
theorem SameFor.create (same : SameFor id v w) : SameFor id v.create.2 w.create.2 where
  shared := by
    have shared_ := shared_perform v .create
    rwa [same.shared, ← shared_perform] at shared_
  session := by
    have backends : v.backends v.attempts = w.backends w.attempts :=
      same.eq_of_shared (fun u => u.backends u.attempts) fun _ => rfl
    have catalog : v.catalog = w.catalog := same.eq_of_shared Workspace.catalog fun _ => rfl
    have lastId : v.lastId = w.lastId := same.eq_of_shared Workspace.lastId fun _ => rfl
    cases given : w.backends w.attempts with
    | error reason =>
        simp only [Workspace.create, backends, given]
        exact same.session
    | ok backend =>
        have kept := same.session
        simp only [Workspace.session] at kept
        simp only [Workspace.create, backends, given, catalog, lastId, Workspace.session,
          Registry.find?_put]
        by_cases new : id = ⟨w.lastId + 1⟩
        · simp only [new, if_true]
        · simpa only [new, if_false] using kept

/-- A call leaves workspaces alike for a session when they were. -/
theorem SameFor.perform (same : SameFor id v w) (call : Call) :
    SameFor id (v.perform call).2 (w.perform call).2 := by
  by_cases creates : call = .create
  · subst creates
    exact same.create
  · refine ⟨by rw [shared_perform, same.shared, ← shared_perform], ?_⟩
    by_cases destroys : call = .destroy id
    · subst destroys
      exact (session_destroy_self v id).trans (session_destroy_self w id).symm
    · have apart (u : Workspace β σ) : ¬ u.Creates call id := fun made =>
        creates (creates_iff.1 made).1
      rw [session_perform (apart v) destroys, session_perform (apart w) destroys, same.session,
        same.config]

/-- A call to a session is answered alike where workspaces are alike for it. -/
theorem SameFor.reply (same : SameFor id v w) (own : call.target? = some id) :
    (v.perform call).1 = (w.perform call).1 := by
  cases call with
  | create | sessionIds | setStyleCheck | setConfig | catalogSize => cases own
  | destroy target =>
      cases own
      simp only [Workspace.perform, destroy, same.session]
      cases w.session id <;> rfl
  | setSourceDirectory target directory =>
      cases own
      simp only [Workspace.perform, setSourceDirectory, update, same.session]
      cases w.session id <;> rfl
  | setSourceText target text =>
      cases own
      simp only [Workspace.perform, setSourceText, update, same.session, same.config]
      cases w.session id <;> rfl
  | replaceLine target line text =>
      cases own
      simp only [Workspace.perform, replaceLine, update, same.session]
      cases w.session id <;> rfl
  | diagnostics | lineClasses | lineRanks | globalNames | hints | session | report =>
      cases own
      simp only [Workspace.perform, ask, same.session]

/-! ## Runs -/

/-- The answers of a run to the calls addressed to a session, in their order. -/
def answersTo (id : SessionId) (w : Workspace β σ) (calls : List Call) :
    List (Except WorkspaceError (Reply β σ)) :=
  ((calls.zip (w.run calls).1).filter fun made => made.1.target? == some id).map (·.2)

theorem answersTo_cons (id : SessionId) (w : Workspace β σ) (call : Call) (rest : List Call) :
    w.answersTo id (call :: rest) =
      (if call.target? = some id then [(w.perform call).1] else []) ++
        (w.perform call).2.answersTo id rest := by
  by_cases own : call.target? = some id <;> simp [answersTo, run, own]

/-- The calls that concern a session are answered alike when no others are made. -/
theorem SameFor.answersTo_filter (same : SameFor id v w) (calls : List Call) :
    v.answersTo id (calls.filter (Call.concerns id)) = w.answersTo id calls := by
  induction calls generalizing v w with
  | nil => rfl
  | cons call rest ih =>
      by_cases concerns : call.concerns id = true
      · rw [List.filter_cons_of_pos concerns, answersTo_cons, answersTo_cons,
          ih (same.perform call)]
        by_cases own : call.target? = some id
        · rw [same.reply own]
        · rw [if_neg own, if_neg own]
      · have other : call.concerns id = false := Bool.eq_false_iff.2 concerns
        have elsewhere : call.target? ≠ some id := by
          intro own
          cases call <;> simp_all [Call.concerns, Call.target?]
        rw [List.filter_cons_of_neg concerns, answersTo_cons, if_neg elsewhere, List.nil_append]
        exact ih (same.trans (sameFor_perform other).symm)

/-- The answers to the calls addressed to a session stay the same when the calls are left out that
do not concern it: queries, texts, edits, directories and destructions of other sessions, and
queries of no session. They also stay the same when only some of these are left out, or others put
in. -/
theorem answersTo_eq_of_filter_concerns_eq (w : Workspace β σ) (calls : List Call)
    (id : SessionId) :
    w.answersTo id (calls.filter (Call.concerns id)) = w.answersTo id calls ∧
      ∀ others : List Call, others.filter (Call.concerns id) = calls.filter (Call.concerns id) →
        w.answersTo id others = w.answersTo id calls := by
  have purged (calls : List Call) :
      w.answersTo id (calls.filter (Call.concerns id)) = w.answersTo id calls :=
    (SameFor.refl w).answersTo_filter calls
  refine ⟨purged calls, ?_⟩
  intro others same
  calc
    w.answersTo id others = w.answersTo id (others.filter (Call.concerns id)) :=
      (purged others).symm
    _ = w.answersTo id (calls.filter (Call.concerns id)) := by rw [same]
    _ = w.answersTo id calls := purged calls

/-- Two Python texts by turns, the second one with a syntax error, edited and then destroyed. -/
def byTurns : List Call :=
  [.create, .create, .setSourceText ⟨2⟩ "class B(", .setSourceText ⟨1⟩ "class A:\n\tx ",
    .replaceLine ⟨2⟩ 3 "('x", .setStyleCheck true, .diagnostics ⟨1⟩, .destroy ⟨2⟩, .sessionIds,
    .setSourceText ⟨1⟩ "class C: x ", .hints ⟨2⟩, .create, .session ⟨1⟩]

theorem answersTo_eq_of_filter_concerns_eq_byTurns :
    let w := Python.workspace Python.classParser Config.default
    let others : List Call :=
      [.create, .create, .setSourceText ⟨1⟩ "class A:\n\tx ", .setStyleCheck true,
        .diagnostics ⟨1⟩, .sessionIds, .setSourceText ⟨1⟩ "class C: x ", .create, .session ⟨1⟩]
    w.answersTo ⟨1⟩ others = w.answersTo ⟨1⟩ byTurns ∧ (w.answersTo ⟨1⟩ byTurns).length = 4 := by
  intro w others
  refine ⟨(answersTo_eq_of_filter_concerns_eq w byTurns ⟨1⟩).2 others (by decide), ?_⟩
  decide +kernel

end Workspace
end EditorAnalysis
