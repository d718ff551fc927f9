import LiveRecord.Finding
import LiveRecord.Proofs.Filling
import LiveRecord.Proofs.Saving

/-!
# Calls with protection lifted

A forced fill and a forced creation lift the protection of one type, and put it back whichever way
they end. A fill depends on nothing else in a session than the protection of its type, and adds
messages to the journal at most. So whoever fills records afterwards, and lifts protection or puts it
back in between, cannot tell whether the forced call has been made.
-/

namespace LiveRecord

variable {m : Model} {σ : Type}

namespace Session

/-- Some events were added to the journal, and the protection of all types is as it was. -/
structure Logs (s : Session σ) (events : List Event) (t : Session σ) : Prop where
  journal : t.journal = s.journal ++ events
  protection : ∀ path, t.registry.isUnguarded path = s.registry.isUnguarded path

namespace Logs

variable {s t u : Session σ} {events more : List Event}

theorem refl (s : Session σ) : s.Logs [] s := ⟨(List.append_nil s.journal).symm, fun _ => rfl⟩

theorem trans (h : s.Logs events t) (k : t.Logs more u) : s.Logs (events ++ more) u where
  journal := by rw [k.journal, h.journal, List.append_assoc]
  protection path := (k.protection path).trans (h.protection path)

theorem of_noting (s : Session σ) (event : Event) : s.Logs [event] (s.noting event) :=
  ⟨rfl, fun _ => rfl⟩

/-- Protection that is lifted around something is put back. -/
theorem of_scope {path : String} (h : (s.openScope path).2.Logs events t) :
    s.Logs events (t.closeScope ⟨path, s.registry.isUnguarded path⟩) where
  journal := h.journal
  protection := isUnguarded_closeScope h.protection

end Logs

/-- Is the protection of every type lifted in both sessions or in neither? -/
def ProtectsAs (s t : Session σ) : Prop :=
  ∀ path, s.registry.isUnguarded path = t.registry.isUnguarded path

end Session

/-- What can be seen of an edit of a record: how it ended, the record then, and what the journal says
about it. -/
structure Outcome (m : Model) where
  result : Except Error Unit
  record : Record m
  events : List Event

namespace Edit

/-- From this session, the edit of the record has this outcome, and leaves protection alone. -/
def Yields (edit : Edit m σ Unit) (r : Record m) (outcome : Outcome m) (s : Session σ) : Prop :=
  WP edit (fun result reached => result = outcome.result ∧ reached.record = outcome.record ∧
    s.Logs outcome.events reached.session) ⟨r, s⟩

/-- The outcome of an edit of a record in a session, and the session afterwards. -/
def observe (edit : Edit m σ Unit) (r : Record m) (s : Session σ) : Outcome m × Session σ :=
  match edit ⟨r, s⟩ with
  | .ok _ held => (⟨.ok (), held.record, held.session.journal.drop s.journal.length⟩, held.session)
  | .error e held =>
    (⟨.error e, held.record, held.session.journal.drop s.journal.length⟩, held.session)

theorem Yields.observe {edit : Edit m σ Unit} {r : Record m} {outcome : Outcome m}
    {s : Session σ} (h : edit.Yields r outcome s) :
    (edit.observe r s).1 = outcome ∧ (edit.observe r s).2.ProtectsAs s := by
  unfold Yields WP at h
  unfold Edit.observe
  cases run : edit ⟨r, s⟩ with
  | ok a held =>
      rw [run] at h
      dsimp only at h ⊢
      obtain ⟨result, record, logs⟩ := h
      rw [logs.journal, List.drop_left, result, record]
      exact ⟨rfl, logs.protection⟩
  | error e held =>
      rw [run] at h
      dsimp only at h ⊢
      obtain ⟨result, record, logs⟩ := h
      rw [logs.journal, List.drop_left, result, record]
      exact ⟨rfl, logs.protection⟩

end Edit

namespace Record

/-!
## What a fill depends on
-/

theorem fillEntry_yields (g : Guard) (key : String) (v : Value) (r : Record m) :
    ∃ outcome, ∀ s : Session σ, (fillEntry g key v).Yields r outcome s := by
  rw [fillEntry]
  split
  · cases written : r.write key v with
    | ok r' =>
        refine ⟨⟨.ok (), r', [.noted (.filling m.table key)]⟩, fun s => ?_⟩
        rw [Edit.Yields, WP.bind_iff, WP.edit_note_iff]
        dsimp only
        rw [Edit.write, WP.changeOr_iff, written]
        exact ⟨rfl, rfl, .of_noting s _⟩
    | error e =>
        refine ⟨⟨.error e, r, [.noted (.filling m.table key)]⟩, fun s => ?_⟩
        rw [Edit.Yields, WP.bind_iff, WP.edit_note_iff]
        dsimp only
        rw [Edit.write, WP.changeOr_iff, written]
        exact ⟨rfl, rfl, .of_noting s _⟩
  · split
    · exact ⟨⟨.error (.massAssignment key), r, []⟩, fun s => ⟨rfl, rfl, .refl s⟩⟩
    · exact ⟨⟨.ok (), r, [.noted (.dropping m.table key)]⟩, fun s => ⟨rfl, rfl, .of_noting s _⟩⟩

theorem fillEntries_yields (g : Guard) (entries : List (String × Value)) (r : Record m) :
    ∃ outcome, ∀ s : Session σ, (fillEntries g entries).Yields r outcome s := by
  induction entries generalizing r with
  | nil => exact ⟨⟨.ok (), r, []⟩, fun s => ⟨rfl, rfl, .refl s⟩⟩
  | cons entry rest ih =>
      obtain ⟨key, v⟩ := entry
      obtain ⟨⟨result, r₁, events⟩, first⟩ := fillEntry_yields (σ := σ) g key v r
      cases result with
      | error e =>
          refine ⟨⟨.error e, r₁, events⟩, fun s => ?_⟩
          rw [fillEntries, Edit.Yields, WP.bind_iff]
          refine (first s).mono ?_
          rintro _ reached ⟨rfl, record, logs⟩
          exact ⟨rfl, record, logs⟩
      | ok a =>
          obtain ⟨⟨result, r₂, more⟩, next⟩ := ih r₁
          refine ⟨⟨result, r₂, events ++ more⟩, fun s => ?_⟩
          rw [fillEntries, Edit.Yields, WP.bind_iff]
          refine (first s).mono ?_
          rintro _ ⟨_, t⟩ ⟨rfl, rfl, logs⟩
          refine (next t).mono ?_
          rintro _ reached ⟨rfl, record, logs'⟩
          exact ⟨rfl, record, logs.trans logs'⟩

/-- A fill has the same outcome in all sessions that protect the type alike. -/
theorem fill_yields (row : Row) (r : Record m) (unguarded : Bool) :
    ∃ outcome, ∀ s : Session σ, s.registry.isUnguarded m.path = unguarded →
      (fill row).Yields r outcome s := by
  obtain ⟨outcome, yields⟩ := fillEntries_yields (σ := σ) (m.guardWith unguarded)
    ((m.guardWith unguarded).keepFillable (row.mapKeys (unqualified m.table))).entries r
  refine ⟨outcome, fun s protection => ?_⟩
  subst protection
  exact yields s

/-- A fill with protection lifted has the same outcome in all sessions. -/
theorem forceFill_yields (row : Row) (r : Record m) :
    ∃ outcome, ∀ s : Session σ, (forceFill row).Yields r outcome s := by
  obtain ⟨outcome, yields⟩ := fill_yields (σ := σ) row r true
  refine ⟨outcome, fun s => ?_⟩
  refine WP.unguarded_iff.2 ((yields _ (s.isUnguarded_openScope m.path)).mono ?_)
  rintro result reached ⟨result', record, logs⟩
  exact ⟨result', record, logs.of_scope⟩

end Record

/-!
## What is filled afterwards
-/

/-- A fill of any record, with or without protection, or a change of the protection of a type. -/
inductive FillStep where
  | fill (m : Model) (r : Record m) (row : Row)
  | forceFill (m : Model) (r : Record m) (row : Row)
  | setUnguarded (path : String) (unguarded : Bool)

namespace FillStep

/-- Take the step: what can be seen of the fill, if it is one, and the session afterwards. -/
def perform : FillStep → Session σ → Option (Σ m : Model, Outcome m) × Session σ
  | .fill m r row, s =>
    let (outcome, reached) := Edit.observe (Record.fill row) r s
    (some ⟨m, outcome⟩, reached)
  | .forceFill m r row, s =>
    let (outcome, reached) := Edit.observe (Record.forceFill row) r s
    (some ⟨m, outcome⟩, reached)
  | .setUnguarded path unguarded, s =>
    (none, { s with registry := s.registry.setUnguarded path unguarded })

/-- Take steps one after another. -/
def performAll : List FillStep → Session σ → List (Option (Σ m : Model, Outcome m)) × Session σ
  | [], s => ([], s)
  | step :: rest, s =>
    let (seen, reached) := step.perform s
    let (more, last) := performAll rest reached
    (seen :: more, last)

variable {s t : Session σ}

/-- A step cannot tell sessions apart that protect all types alike, and keeps them so. -/
theorem perform_alike (alike : s.ProtectsAs t) (step : FillStep) :
    (step.perform s).1 = (step.perform t).1 ∧ (step.perform s).2.ProtectsAs (step.perform t).2 := by
  have observed {m : Model} {edit : Edit m σ Unit} {r : Record m} {outcome : Outcome m}
      (here : edit.Yields r outcome s) (there : edit.Yields r outcome t) :
      (edit.observe r s).1 = (edit.observe r t).1 ∧
        (edit.observe r s).2.ProtectsAs (edit.observe r t).2 := by
    obtain ⟨seen, kept⟩ := here.observe
    obtain ⟨seen', kept'⟩ := there.observe
    refine ⟨seen.trans seen'.symm, fun path => ?_⟩
    rw [kept path, alike path, kept' path]
  cases step with
  | fill m r row =>
      obtain ⟨outcome, yields⟩ := Record.fill_yields row r (t.registry.isUnguarded m.path)
      obtain ⟨seen, kept⟩ := observed (yields s (alike m.path)) (yields t rfl)
      exact ⟨congrArg (fun outcome => some (Sigma.mk m outcome)) seen, kept⟩
  | forceFill m r row =>
      obtain ⟨outcome, yields⟩ := Record.forceFill_yields row r
      obtain ⟨seen, kept⟩ := observed (yields s) (yields t)
      exact ⟨congrArg (fun outcome => some (Sigma.mk m outcome)) seen, kept⟩
  | setUnguarded path unguarded =>
      refine ⟨rfl, fun other => ?_⟩
      simp only [perform, Registry.isUnguarded_setUnguarded]
      split
      · rfl
      · exact alike other

/-- Nor can any number of steps. -/
theorem performAll_alike (alike : s.ProtectsAs t) (steps : List FillStep) :
    (performAll steps s).1 = (performAll steps t).1 ∧
      (performAll steps s).2.ProtectsAs (performAll steps t).2 := by
  induction steps generalizing s t with
  | nil => exact ⟨rfl, alike⟩
  | cons step rest ih =>
      obtain ⟨seen, kept⟩ := perform_alike alike step
      obtain ⟨more, last⟩ := ih kept
      refine ⟨?_, last⟩
      show (step.perform s).1 :: (performAll rest (step.perform s).2).1 =
        (step.perform t).1 :: (performAll rest (step.perform t).2).1
      rw [seen, more]

end FillStep

/-- The protection of all types is as it was, and whatever is filled afterwards, under whatever
protection, comes to the same as before. -/
structure Session.LeavesProtection (before after : Session σ) : Prop where
  kept : after.ProtectsAs before
  unnoticed : ∀ steps : List FillStep,
    (FillStep.performAll steps after).1 = (FillStep.performAll steps before).1

theorem Session.ProtectsAs.leaves {before after : Session σ} (kept : after.ProtectsAs before) :
    before.LeavesProtection after :=
  ⟨kept, fun steps => (FillStep.performAll_alike kept steps).1⟩

/-!
## The forced calls
-/

/-- A manager reports that it does not know a connection, and nothing else. -/
theorem Manager.connection_error {manager : Manager} {name : Option String} {e : Error}
    (failed : manager.connection name = .error e) :
    e = .connectionNotFound (manager.effectiveName name) := by
  unfold Manager.connection at failed
  split at failed
  · cases failed
  · cases failed
    rfl

namespace Record

/-- A save of a new record can only fail for a mass assignment if the resolver says so. -/
theorem Saving.resolved_of_massAssignment {stamping : Bool} {resolved : Except Error Executor}
    {r r' : Record m} {events : List Event} {key : String}
    (h : Saving stamping resolved r (.error (.massAssignment key)) r' events)
    (new : r.persisted = false) : resolved = .error (.massAssignment key) := by
  cases h with
  | unresolved failed => exact failed
  | unkeyed _ old => cases new.symm.trans old
  | keyLost _ _ _ _ failed =>
      obtain ⟨failure, invalid⟩ := exists_of_write_error failed
      cases invalid

end Record

namespace Model

variable {s : Session σ}

/-- A record that is filled while protection is lifted is new, or refused for another reason than a
mass assignment. -/
theorem ofFill_unguarded (lifted : s.registry.isUnguarded m.path = true) (row : Row) :
    (Record.ofFill m row).Ends s fun result _ =>
      (∀ key, result ≠ .error (.massAssignment key)) ∧
      ∀ r, result = .ok r → r.persisted = false ∧ r.connection = m.connection := by
  have partly : ¬ (m.guardWith (s.registry.isUnguarded m.path)).RefusesAll := by
    rw [lifted]
    intro refused
    cases refused.2
  refine .bind_applyTo (Record.fill_filled row ⟨.new m, s⟩ fun refused => absurd refused partly) ?_ ?_
  · intro e r events filled
    refine ⟨fun key failed => filled.ne_massAssignment key ?_, nofun⟩
    cases failed
    rfl
  · intro _ r events s' _ filled
    refine .pure ⟨nofun, fun r' made => ?_⟩
    cases made
    rw [filled.kept]
    exact ⟨rfl, rfl⟩

variable [Pool σ]

/-- A creation while protection is lifted is refused for a mass assignment only if the resolver says
so. -/
theorem create_unguarded (lifted : s.registry.isUnguarded m.path = true) (row : Row) :
    (m.create row).Ends s fun result _ => ∀ key, result = .error (.massAssignment key) →
      s.resolved m.connection = .error (.massAssignment key) := by
  refine .bind (ofFill_unguarded lifted row) ?_ ?_
  · rintro e events ⟨other, -⟩ key failed
    cases failed
    exact absurd rfl (other key)
  · rintro r events s' grows ⟨-, made⟩
    obtain ⟨new, same⟩ := made r rfl
    refine .bind_applyTo (Record.saveWith_ends true ⟨r, s'⟩) ?_ ?_
    · intro e r' more saving key failed
      cases failed
      rw [← same, ← grows.resolved]
      exact saving.resolved_of_massAssignment new
    · intro done r' more s'' _ saving
      exact .pure nofun

/-- Whichever way a forced fill or a forced creation ends, the protection of all types is as it was,
and whatever is filled afterwards comes to the same as if the call had not been made. A forced fill is
never refused for a mass assignment. Nor is a forced creation, unless a resolver that is no manager
reports a missing connection as a mass assignment. -/
theorem forced_leaves_protection (m : Model) (row : Row) :
    (∀ held : Held m σ, WP (Record.forceFill row) (fun result reached =>
      held.session.LeavesProtection reached.session ∧
        ∀ key, result ≠ .error (.massAssignment key)) held) ∧
    ∀ s : Session σ, WP (m.forceCreate row) (fun result reached => s.LeavesProtection reached ∧
      ∀ key, result = .error (.massAssignment key) →
        s.resolved m.connection = .error (.massAssignment key) ∧
        ∀ manager : Manager, s.resolver ≠ some manager.connection) s := by
  constructor
  · intro held
    refine WP.mono (Record.forceFill_filled row held) ?_
    rintro result reached ⟨events, grows, filled⟩
    exact ⟨Session.ProtectsAs.leaves grows.protection, filled.ne_massAssignment⟩
  · intro s
    have lifted := s.isUnguarded_openScope m.path
    refine WP.action_unguarded_iff.2 (WP.mono (create_unguarded lifted row) ?_)
    rintro result reached ⟨events, grows, refused⟩
    refine ⟨Session.ProtectsAs.leaves grows.of_scope.protection, fun key failed => ?_⟩
    have reported : s.resolved m.connection = .error (.massAssignment key) := refused key failed
    refine ⟨reported, fun manager installed => ?_⟩
    rw [Session.resolved, installed] at reported
    cases Manager.connection_error reported

end Model

end LiveRecord
