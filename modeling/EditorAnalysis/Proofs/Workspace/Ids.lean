import EditorAnalysis.Proofs.Workspace.History
import EditorAnalysis.Replay

/-!
# The ids of a workspace

Ids count up from one, and a workspace holds the sessions under those that were handed out and not
destroyed since. A call addressed to one of these succeeds, a call addressed to any other id is
refused, and a call that fails changes nothing that a later call could show.
-/

namespace EditorAnalysis

/-! ## Registries -/

namespace Registry

variable {α : Type} {registry : Registry α} {id : SessionId}

theorem find?_eq_none_iff : registry.find? id = none ↔ id ∉ registry.ids := by
  simp only [find?, ids, Option.map_eq_none_iff, List.find?_eq_none, List.mem_map, beq_iff_eq,
    not_exists, not_and]

/-- A value under an id above all others comes last. -/
theorem put_of_above (above : ∀ other ∈ registry.ids, other.number < id.number) (a : α) :
    put id a registry = registry ++ [(id, a)] := by
  induction registry with
  | nil => rfl
  | cons entry rest ih =>
      rcases entry with ⟨key, b⟩
      have below : key.number < id.number := above key List.mem_cons_self
      have notAbove : ¬ id.number < key.number := UInt64.lt_asymm below
      have other : id ≠ key := by
        rintro rfl
        exact notAbove below
      rw [put, if_neg notAbove, if_neg other,
        ih fun other mem => above other (List.mem_cons_of_mem key mem)]
      rfl

theorem ids_append (front back : Registry α) :
    ids (front ++ back) = front.ids ++ back.ids :=
  List.map_append

theorem ids_set (a : α) : (registry.set id a).ids = registry.ids := by
  rw [ids, set, List.map_map]
  apply List.map_congr_left
  intro entry _
  by_cases own : entry.1 = id <;> simp [own]

theorem ids_remove : (registry.remove id).ids = registry.ids.filter (· != id) := by
  rw [ids, ids, remove, List.filter_map]
  rfl

end Registry

namespace Workspace

variable {β σ α : Type} {w : Workspace β σ} {id : SessionId} {call : Call} {e : WorkspaceError}

/-! ## Sessions that are there -/

theorem session_of_not_mem (missing : id ∉ w.sessionIds) :
    w.session id = .error (.sessionNotFound id) := by
  rw [session, Registry.find?_eq_none_iff.2 missing]

theorem exists_session_of_mem (live : id ∈ w.sessionIds) : ∃ s, w.session id = .ok s := by
  cases found : w.sessions.find? id with
  | none => exact absurd live (Registry.find?_eq_none_iff.1 found)
  | some s => exact ⟨s, session_eq_ok_iff.2 found⟩

theorem session_destroy_self (w : Workspace β σ) (id : SessionId) :
    (w.destroy id).2.session id = .error (.sessionNotFound id) := by
  apply session_of_not_mem
  unfold destroy
  split
  case h_1 s found => simp [sessionIds, Registry.ids_remove]
  case h_2 e missing =>
    intro live
    rcases exists_session_of_mem live with ⟨s, found⟩
    cases missing.symm.trans found

theorem sessionIds_update (w : Workspace β σ) (id : SessionId)
    (change : Session β σ → α × Session β σ) :
    (w.update id change).2.sessionIds = w.sessionIds := by
  unfold update
  split
  · exact Registry.ids_set _
  · rfl

theorem lastId_update (w : Workspace β σ) (id : SessionId)
    (change : Session β σ → α × Session β σ) : (w.update id change).2.lastId = w.lastId := by
  unfold update
  split <;> rfl

/-! ## The ids handed out -/

/-- What a call does to the ids: it hands out the next one, it destroys the session of one, or it
leaves them. -/
inductive ChangesIds (w : Workspace β σ) :
    Option SessionId → Option SessionId → Workspace β σ → Prop where
  | creates {next : Workspace β σ} {s : Session β σ} :
      next.lastId = w.lastId + 1 → next.sessions = w.sessions.put ⟨w.lastId + 1⟩ s →
      w.ChangesIds (some ⟨w.lastId + 1⟩) none next
  | destroys {id : SessionId} {next : Workspace β σ} :
      id ∈ w.sessionIds → next.lastId = w.lastId →
      next.sessionIds = w.sessionIds.filter (· != id) → w.ChangesIds none (some id) next
  | leaves {next : Workspace β σ} :
      next.lastId = w.lastId → next.sessionIds = w.sessionIds → w.ChangesIds none none next

/-- Whether a workspace has handed out these ids and destroyed the sessions of those. The ids count
up from one. -/
structure HasIds (w : Workspace β σ) (created destroyed : List SessionId) : Prop where
  numbers : created.map (fun id => id.number.toNat) = List.range' 1 w.lastId.toNat
  destroyed_subset : destroyed ⊆ created
  sessionIds_eq : w.sessionIds = created.filter fun id => decide (id ∉ destroyed)

namespace HasIds

variable {created destroyed : List SessionId}

theorem length_created (h : w.HasIds created destroyed) : created.length = w.lastId.toNat := by
  rw [← List.length_map (fun id : SessionId => id.number.toNat), h.numbers, List.length_range']

theorem number_le (h : w.HasIds created destroyed) (mem : id ∈ created) :
    id.number.toNat ≤ w.lastId.toNat := by
  have among : id.number.toNat ∈ List.range' 1 w.lastId.toNat := by
    rw [← h.numbers]
    exact List.mem_map_of_mem mem
  have bounds := List.mem_range'_1.1 among
  omega

/-- The next id is above all that were handed out. -/
theorem create (h : w.HasIds created destroyed) (few : created.length + 1 < UInt64.size)
    {next : Workspace β σ} {s : Session β σ} (lastId_eq : next.lastId = w.lastId + 1)
    (sessions_eq : next.sessions = w.sessions.put ⟨w.lastId + 1⟩ s) :
    next.HasIds (created ++ [⟨w.lastId + 1⟩]) destroyed := by
  have number : (w.lastId + 1).toNat = w.lastId.toNat + 1 := by
    rw [h.length_created] at few
    rw [UInt64.toNat_add]
    exact Nat.mod_eq_of_lt few
  have above : ∀ id ∈ created, id.number < w.lastId + 1 := by
    intro id mem
    rw [UInt64.lt_iff_toNat_lt, number]
    exact Nat.lt_succ_of_le (h.number_le mem)
  have notDestroyed : (⟨w.lastId + 1⟩ : SessionId) ∉ destroyed := by
    intro mem
    exact UInt64.lt_irrefl _ (above _ (h.destroyed_subset mem))
  have ids_above : ∀ id ∈ w.sessions.ids, id.number < w.lastId + 1 := by
    intro id mem
    have live : id ∈ w.sessionIds := mem
    rw [h.sessionIds_eq] at live
    exact above id (List.mem_filter.1 live).1
  refine ⟨?_, List.subset_append_of_subset_left _ h.destroyed_subset, ?_⟩
  · rw [List.map_append, h.numbers, lastId_eq, number, List.range'_concat]
    simp [number, Nat.add_comm]
  · rw [sessionIds, sessions_eq, Registry.put_of_above ids_above, Registry.ids_append,
      show w.sessions.ids = w.sessionIds from rfl, h.sessionIds_eq, List.filter_append]
    simp [Registry.ids, notDestroyed]

theorem destroy (h : w.HasIds created destroyed) {next : Workspace β σ} (live : id ∈ w.sessionIds)
    (lastId_eq : next.lastId = w.lastId)
    (ids_eq : next.sessionIds = w.sessionIds.filter (· != id)) :
    next.HasIds created (destroyed ++ [id]) := by
  refine ⟨?_, ?_, ?_⟩
  · rw [lastId_eq, h.numbers]
  · rw [h.sessionIds_eq] at live
    simpa using ⟨h.destroyed_subset, (List.mem_filter.1 live).1⟩
  · rw [ids_eq, h.sessionIds_eq, List.filter_filter]
    apply List.filter_congr
    intro other _
    rw [Bool.eq_iff_iff]
    simp [not_or, and_comm]

/-- A call hands out the next id, destroys the session of one, or leaves the ids, as long as there
is a next id. -/
theorem step (h : w.HasIds created destroyed) {made gone : Option SessionId}
    {next : Workspace β σ} (changes : w.ChangesIds made gone next)
    (few : (created ++ made.toList).length < UInt64.size) :
    next.HasIds (created ++ made.toList) (destroyed ++ gone.toList) := by
  cases changes with
  | creates lastId_eq sessions_eq =>
      have room : created.length + 1 < UInt64.size := by simpa using few
      simpa using h.create room lastId_eq sessions_eq
  | destroys live lastId_eq ids_eq =>
      simpa using h.destroy live lastId_eq ids_eq
  | leaves lastId_eq ids_eq =>
      simp only [Option.toList_none, List.append_nil]
      exact ⟨by rw [lastId_eq, h.numbers], h.destroyed_subset, ids_eq.trans h.sessionIds_eq⟩

theorem new (config : Config) (backends : Nat → Except BackendError β)
    (factories : List (Checker.Factory σ)) :
    (Workspace.new config backends factories).HasIds [] [] :=
  ⟨rfl, List.Subset.refl [], rfl⟩

end HasIds

variable [Language β] [Checker σ]

/-! ## One call -/

/-- A call to a session that is not there is refused and changes nothing. -/
theorem perform_of_not_mem (missing : id ∉ w.sessionIds) (own : call.target? = some id) :
    w.perform call = (.error (.sessionNotFound id), w) := by
  have none_ := session_of_not_mem missing
  cases call with
  | create | sessionIds | setStyleCheck | setConfig | catalogSize => cases own
  | destroy target =>
      cases own
      simp [perform, destroy, none_, Except.map]
  | setSourceDirectory target directory =>
      cases own
      simp [perform, setSourceDirectory, update, none_, Except.map]
  | setSourceText target text =>
      cases own
      simp [perform, setSourceText, update, none_, Except.map]
  | replaceLine target line text =>
      cases own
      simp [perform, replaceLine, update, none_, Except.map]
  | diagnostics | lineClasses | lineRanks | globalNames | hints | session | report =>
      cases own
      simp [perform, ask, none_, Except.map]

/-- A call to a session that is there succeeds. -/
theorem exists_reply_of_mem (live : id ∈ w.sessionIds) (own : call.target? = some id) :
    ∃ reply, (w.perform call).1 = .ok reply := by
  rcases exists_session_of_mem live with ⟨s, found⟩
  cases call with
  | create | sessionIds | setStyleCheck | setConfig | catalogSize => cases own
  | destroy target =>
      cases own
      simp [perform, destroy, found, Except.map]
  | setSourceDirectory target directory =>
      cases own
      simp [perform, setSourceDirectory, update, found, Except.map]
  | setSourceText target text =>
      cases own
      simp [perform, setSourceText, update, found, Except.map]
  | replaceLine target line text =>
      cases own
      simp [perform, replaceLine, update, found, Except.map]
  | diagnostics | lineClasses | lineRanks | globalNames | hints | session | report =>
      cases own
      simp [perform, ask, found, Except.map]

/-- A call that fails leaves everything but the number of attempts to create a session. -/
theorem perform_of_error (failed : (w.perform call).1 = .error e) :
    (w.perform call).2 = { w with attempts := (w.perform call).2.attempts } := by
  cases target : call.target? with
  | some id =>
      by_cases live : id ∈ w.sessionIds
      · rcases exists_reply_of_mem live target with ⟨reply, replied⟩
        cases replied.symm.trans failed
      · rw [perform_of_not_mem live target]
  | none =>
      cases call with
      | create =>
          cases given : w.backends w.attempts with
          | error reason => simp [perform, create, given]
          | ok backend => simp [perform, create, given, Except.map] at failed
      | sessionIds | setStyleCheck | setConfig | catalogSize => cases failed
      | _ => cases target

/-! ## Ids along a run -/

/-- The id that a call handed out, if it did. -/
def createdId? : Except WorkspaceError (Reply β σ) → Option SessionId
  | .ok (.created id) => some id
  | _ => none

/-- The id whose session a call destroyed, if it did. -/
def destroyedId? : Call → Except WorkspaceError (Reply β σ) → Option SessionId
  | .destroy id, .ok _ => some id
  | _, _ => none

/-- The ids that a run hands out, in their order. -/
def created (w : Workspace β σ) (calls : List Call) : List SessionId :=
  (w.run calls).1.filterMap createdId?

/-- The ids whose sessions a run destroys. -/
def destroyed (w : Workspace β σ) (calls : List Call) : List SessionId :=
  (calls.zip (w.run calls).1).filterMap fun made => destroyedId? made.1 made.2

theorem created_cons (w : Workspace β σ) (call : Call) (rest : List Call) :
    w.created (call :: rest) =
      (createdId? (w.perform call).1).toList ++ (w.perform call).2.created rest := by
  rw [created, run, List.filterMap_cons]
  cases createdId? (w.perform call).1 <;> rfl

theorem destroyed_cons (w : Workspace β σ) (call : Call) (rest : List Call) :
    w.destroyed (call :: rest) =
      (destroyedId? call (w.perform call).1).toList ++ (w.perform call).2.destroyed rest := by
  rw [destroyed, run, List.zip_cons_cons, List.filterMap_cons]
  cases destroyedId? call (w.perform call).1 <;> rfl

/-- Only a creation hands out an id. -/
theorem createdId?_perform_eq_none (h : call ≠ .create) : createdId? (w.perform call).1 = none := by
  cases outcome : (w.perform call).1 with
  | error e => rfl
  | ok reply =>
      cases reply with
      | created id => exact absurd (creates_iff.1 outcome).1 h
      | _ => rfl

theorem changesIds_perform (w : Workspace β σ) (call : Call) :
    w.ChangesIds (createdId? (w.perform call).1) (destroyedId? call (w.perform call).1)
      (w.perform call).2 := by
  have updated {α : Type} (id : SessionId) (change : Session β σ → α × Session β σ) :
      w.ChangesIds none none (w.update id change).2 :=
    .leaves (lastId_update w id change) (sessionIds_update w id change)
  have kept : w.ChangesIds none none w := .leaves rfl rfl
  by_cases creates : call = .create
  · subst creates
    cases given : w.backends w.attempts with
    | error reason =>
        simp only [perform, create, given, Except.map, createdId?, destroyedId?]
        exact .leaves rfl rfl
    | ok backend =>
        simp only [perform, create, given, Except.map, createdId?, destroyedId?]
        exact .creates rfl rfl
  · rw [createdId?_perform_eq_none creates]
    cases call with
    | create => exact absurd rfl creates
    | destroy id =>
        by_cases live : id ∈ w.sessionIds
        · rcases exists_session_of_mem live with ⟨s, found⟩
          simp only [perform, destroy, found, Except.map, destroyedId?]
          exact .destroys live rfl Registry.ids_remove
        · rw [perform_of_not_mem live rfl]
          exact kept
    | setSourceDirectory id directory =>
        exact updated id fun s => ((), s.setSourceDirectory directory)
    | setSourceText id text => exact updated id fun s => ((), s.setSourceText text w.config)
    | replaceLine id line text => exact updated id fun s => s.replaceLine line text
    | setStyleCheck | setConfig => exact .leaves rfl rfl
    | sessionIds | diagnostics | lineClasses | lineRanks | globalNames | hints | catalogSize
    | session | report => exact kept

/-- A run hands out and destroys what its calls do, as long as there are ids. -/
theorem HasIds.run {w : Workspace β σ} {made gone : List SessionId} (h : w.HasIds made gone)
    (calls : List Call) (few : (made ++ w.created calls).length < UInt64.size) :
    (w.run calls).2.HasIds (made ++ w.created calls) (gone ++ w.destroyed calls) := by
  induction calls generalizing w made gone with
  | nil =>
      have none_ : w.created [] = [] ∧ w.destroyed [] = [] := ⟨rfl, rfl⟩
      rw [none_.1, none_.2, List.append_nil, List.append_nil]
      exact h
  | cons call rest ih =>
      rw [created_cons, destroyed_cons, ← List.append_assoc, ← List.append_assoc]
      rw [created_cons, ← List.append_assoc] at few
      refine ih (h.step (changesIds_perform w call) ?_) few
      rw [List.length_append] at few
      exact Nat.lt_of_le_of_lt (Nat.le_add_right _ _) few

/-- Along every run the ids that are handed out go up, so none is handed out twice. The sessions
that are there are those created and not destroyed, in the order of their creation: a call to one
of them succeeds, a call to any other id is refused by that id, and a call that fails leaves the
configuration, the sessions, and the id to be handed out next. -/
theorem registry_run (config : Config) (backends : Nat → Except BackendError β)
    (factories : List (Checker.Factory σ)) (calls : List Call)
    (few : ((new config backends factories).created calls).length < UInt64.size) :
    let start := new config backends factories
    let w := (start.run calls).2
    let live := (start.created calls).filter fun id => id ∉ start.destroyed calls
    (start.created calls).Pairwise (fun id next => id.number < next.number) ∧
      (start.created calls).Nodup ∧
      (w.perform .sessionIds).1 = .ok (.sessionIds live) ∧
      (∀ (call : Call) id, call.target? = some id → id ∉ live →
        (w.perform call).1 = .error (.sessionNotFound id)) ∧
      (∀ (call : Call) id, call.target? = some id → id ∈ live →
        ∃ reply, (w.perform call).1 = .ok reply) ∧
      ∀ (call : Call) e, (w.perform call).1 = .error e →
        (w.perform call).2.config = w.config ∧ (w.perform call).2.sessions = w.sessions ∧
          (w.perform call).2.lastId = w.lastId := by
  intro start w live
  have ids : w.HasIds (start.created calls) (start.destroyed calls) :=
    (HasIds.new config backends factories).run calls few
  have live_eq : w.sessionIds = live := ids.sessionIds_eq
  have ascending : (start.created calls).Pairwise fun id next => id.number < next.number := by
    have numbers := List.pairwise_lt_range' (s := 1) (n := w.lastId.toNat)
    rw [← ids.numbers, List.pairwise_map] at numbers
    exact numbers.imp UInt64.lt_iff_toNat_lt.2
  refine ⟨ascending, ?_, ?_, ?_, ?_, ?_⟩
  · refine ascending.imp ?_
    rintro id next below rfl
    exact UInt64.lt_irrefl _ below
  · rw [← live_eq]
    rfl
  · intro call id own missing
    rw [perform_of_not_mem (live_eq ▸ missing) own]
  · intro call id own there
    exact exists_reply_of_mem (live_eq ▸ there) own
  · intro call e failed
    rw [perform_of_error failed]
    exact ⟨rfl, rfl, rfl⟩

/-- A language without names. -/
def bareLanguage : Replay.Backend where
  tokenizer := Replay.tokenizer ⟨[], [], "", ""⟩ []
  host := ⟨[], []⟩
  parses := []

/-- The second creation fails, and so does the second destruction of a session. -/
def createAndDestroy : List Call :=
  [.create, .create, .create, .destroy ⟨1⟩, .setSourceText ⟨2⟩ "x", .destroy ⟨1⟩, .create]

theorem registry_run_createAndDestroy :
    let start : Workspace Replay.Backend Replay.Actor :=
      Workspace.new Config.default (Replay.attempts bareLanguage [none, some "none"]) []
    let w := (start.run createAndDestroy).2
    start.created createAndDestroy = [⟨1⟩, ⟨2⟩, ⟨3⟩] ∧
      (w.perform .sessionIds).1 = .ok (.sessionIds [⟨2⟩, ⟨3⟩]) ∧
      (w.perform (.hints ⟨1⟩)).1 = .error (.sessionNotFound ⟨1⟩) ∧
      ∃ reply, (w.perform (.replaceLine ⟨2⟩ 7 "y")).1 = .ok reply := by
  intro start w
  have made : start.created createAndDestroy = [⟨1⟩, ⟨2⟩, ⟨3⟩] := by decide +kernel
  have gone : start.destroyed createAndDestroy = [⟨1⟩] := by decide +kernel
  have few : (start.created createAndDestroy).length < UInt64.size := by
    rw [made]
    decide
  rcases registry_run _ _ _ createAndDestroy few with ⟨-, -, ids, refused, answered, -⟩
  have live : ((start.created createAndDestroy).filter fun id =>
      id ∉ start.destroyed createAndDestroy) = [⟨2⟩, ⟨3⟩] := by
    rw [made, gone]
    decide
  rw [live] at ids
  refine ⟨made, ids, refused _ ⟨1⟩ rfl ?_, answered _ ⟨2⟩ rfl ?_⟩
  · rw [live]
    decide
  · rw [live]
    decide

end Workspace
end EditorAnalysis
