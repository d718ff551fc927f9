import LiveRecord.Proofs.Precondition

/-!
# Outcomes

What can be said about an edit is mostly a relation between its result, the record afterwards
and the events that it added to the transcript. `Edit.Ends` states such a relation, and
`Action.Ends` the same of an action, which has no record. Their rules follow the statements of an
edit one by one: the events of a sequence are the events of its parts, and messages for the log
add none.
-/

namespace LiveRecord

variable {m : Model} {σ α β : Type}

namespace Session.Grows

variable {s t : Session σ} {events : List Event}

/-- Lifting the protection of a type around something leaves no trace. -/
theorem of_scope {path : String} (h : (s.openScope path).2.Grows events t) :
    s.Grows events (t.closeScope ⟨path, s.registry.isUnguarded path⟩) where
  transcript := h.transcript
  resolver := h.resolver
  protection := isUnguarded_closeScope h.protection

end Session.Grows

namespace Edit

/-- The edit ends so that `post` relates its result, the record then and the events that it
added to the transcript. -/
def Ends (edit : Edit m σ α) (held : Held m σ)
    (post : Except Error α → Record m → List Event → Prop) : Prop :=
  WP edit (fun result reached => ∃ events, held.session.Grows events reached.session ∧
    post result reached.record events) held

namespace Ends

variable {edit : Edit m σ α} {f : α → Edit m σ β} {held : Held m σ}
variable {post post' : Except Error α → Record m → List Event → Prop}
variable {post₂ : Except Error β → Record m → List Event → Prop}

theorem mono (h : edit.Ends held post) (imp : ∀ result r events, post result r events →
    post' result r events) : edit.Ends held post' := by
  refine WP.mono h ?_
  rintro result reached ⟨events, grows, hp⟩
  exact ⟨events, grows, imp _ _ _ hp⟩

theorem of_ok {a : α} {reached : Held m σ} (h : edit.Ends held post)
    (run : edit held = .ok a reached) :
    ∃ events, held.session.Grows events reached.session ∧ post (.ok a) reached.record events :=
  WP.of_ok h run

theorem of_error {e : Error} {reached : Held m σ} (h : edit.Ends held post)
    (run : edit held = .error e reached) :
    ∃ events, held.session.Grows events reached.session ∧ post (.error e) reached.record events :=
  WP.of_error h run

theorem pure {a : α} (h : post (.ok a) held.record []) :
    Ends (Pure.pure a) held post := ⟨[], .refl _, h⟩

theorem throw {e : Error} (h : post (.error e) held.record []) :
    Ends (MonadExcept.throw e) held post := ⟨[], .refl _, h⟩

/-- The events of a sequence are those of its parts. -/
theorem bind (first : edit.Ends held post)
    (failed : ∀ e r events, post (.error e) r events → post₂ (.error e) r events)
    (next : ∀ a r events s, held.session.Grows events s → post (.ok a) r events →
      (f a).Ends ⟨r, s⟩ fun result r' more => post₂ result r' (events ++ more)) :
    Ends (edit >>= f) held post₂ := by
  rw [Ends, WP.bind_iff]
  refine WP.mono first ?_
  rintro result reached ⟨events, grows, hp⟩
  cases result with
  | error e => exact ⟨events, grows, failed e _ _ hp⟩
  | ok a =>
      refine WP.mono (next a reached.record events reached.session grows hp) ?_
      rintro result' reached' ⟨more, grows', hp'⟩
      exact ⟨events ++ more, grows.trans grows', hp'⟩

/-- What is returned in the end makes no difference to the record and the events. -/
theorem returning {kept : Record m → List Event → Prop}
    (returns : ∀ a, ∃ b, f a = Pure.pure b) (ends : edit.Ends held fun _ => kept) :
    Ends (edit >>= f) held fun _ => kept := by
  refine bind ends (fun _ _ _ h => h) fun a r events s _ h => ?_
  obtain ⟨b, returned⟩ := returns a
  rw [returned]
  refine pure ?_
  rw [List.append_nil]
  exact h

/-- An edit after something that added no event. -/
theorem after_silent {s : Session σ} {r : Record m} (silent : held.session.Grows [] s)
    (h : edit.Ends ⟨r, s⟩ post) :
    WP edit (fun result reached => ∃ events, held.session.Grows events reached.session ∧
      post result reached.record events) ⟨r, s⟩ := by
  refine WP.mono h ?_
  rintro result reached ⟨events, grows, hp⟩
  exact ⟨events, silent.trans grows, hp⟩

theorem current {f : Record m → Edit m σ β} (h : (f held.record).Ends held post₂) :
    Ends (Edit.current >>= f) held post₂ := h

theorem ofExcept {x : Except Error α} (ok : ∀ a, x = .ok a → (f a).Ends held post₂)
    (error : ∀ e, x = .error e → post₂ (.error e) held.record []) :
    Ends (Edit.ofExcept x >>= f) held post₂ := by
  rw [Ends, WP.bind_iff, WP.ofExcept_iff]
  cases x with
  | ok a => exact ok a rfl
  | error e => exact ⟨[], .refl _, error e rfl⟩

theorem note {message : Message} {f : Unit → Edit m σ β}
    (h : ∀ s, held.session.Grows [] s → (f ()).Ends ⟨held.record, s⟩ post₂) :
    Ends (Edit.note message >>= f) held post₂ := by
  rw [Ends, WP.bind_iff, WP.edit_note_iff]
  have silent := Session.Grows.of_message held.session message
  exact after_silent silent (h _ silent)

theorem change {g : Record m → Record m} {f : Unit → Edit m σ β}
    (h : (f ()).Ends ⟨g held.record, held.session⟩ post₂) :
    Ends (Edit.change g >>= f) held post₂ := h

theorem changeOr {g : Record m → Except Error (Record m)} {f : Unit → Edit m σ β}
    (ok : ∀ r, g held.record = .ok r → (f ()).Ends ⟨r, held.session⟩ post₂)
    (error : ∀ e, g held.record = .error e → post₂ (.error e) held.record []) :
    Ends (Edit.changeOr g >>= f) held post₂ := by
  rw [Ends, WP.bind_iff, WP.changeOr_iff]
  cases h : g held.record with
  | ok r => exact ok r h
  | error e => exact ⟨[], .refl _, error e h⟩

theorem write {key : String} {v : Value} {f : Unit → Edit m σ β}
    (ok : ∀ r, held.record.write key v = .ok r → (f ()).Ends ⟨r, held.session⟩ post₂)
    (error : ∀ e, held.record.write key v = .error e → post₂ (.error e) held.record []) :
    Ends (Edit.write key v >>= f) held post₂ := changeOr ok error

theorem guardOf {f : Guard → Edit m σ β}
    (h : (f (m.guardWith (held.session.registry.isUnguarded m.path))).Ends held post₂) :
    Ends (Edit.ofAction (Action.guardOf m) >>= f) held post₂ := h

/-- A reading of the clock before the rest of an edit. -/
theorem readClock {f : DateTime → Edit m σ β}
    (next : ∀ now s, held.session.Grows [.clockRead m.path now] s →
      (f now).Ends ⟨held.record, s⟩ fun result r more =>
        post₂ result r (.clockRead m.path now :: more)) :
    Ends (Edit.ofAction (Action.readClock m) >>= f) held post₂ := by
  have reads : Ends (Edit.ofAction (Action.readClock m)) held fun result r events =>
      r = held.record ∧ ∃ now, result = .ok now ∧ events = [.clockRead m.path now] := by
    refine WP.ofAction_iff.2 (WP.readClock.mono ?_)
    rintro result reached ⟨now, hr, grows⟩
    exact ⟨_, grows, rfl, now, hr, rfl⟩
  refine bind reads ?_ ?_
  · rintro e r events ⟨-, now, hr, -⟩
    cases hr
  · rintro now r events s grows ⟨rfl, _, hr, rfl⟩
    cases hr
    exact next now s grows

/-- An action that asks an executor once, before the rest of an edit. -/
theorem exchange {action : Action σ α} {executor : Executor}
    {describe : Except DatabaseError α → Exchange}
    (spec : WP action (fun result reached => ∃ answer, result = answer.mapError .database ∧
      held.session.Grows [.exchanged executor (describe answer)] reached) held.session)
    (ok : ∀ a s, held.session.Grows [.exchanged executor (describe (.ok a))] s →
      (f a).Ends ⟨held.record, s⟩ fun result r more =>
        post₂ result r (.exchanged executor (describe (.ok a)) :: more))
    (error : ∀ cause, post₂ (.error (.database cause)) held.record
      [.exchanged executor (describe (.error cause))]) :
    Ends (Edit.ofAction action >>= f) held post₂ := by
  have asks : Ends (Edit.ofAction action) held fun result r events => r = held.record ∧
      ∃ answer, result = answer.mapError .database ∧
        events = [.exchanged executor (describe answer)] := by
    refine WP.ofAction_iff.2 (spec.mono ?_)
    rintro result reached ⟨answer, hr, grows⟩
    exact ⟨_, grows, rfl, answer, hr, rfl⟩
  refine bind asks ?_ ?_
  · rintro e r events ⟨rfl, answer, hr, rfl⟩
    cases answer with
    | ok a => cases hr
    | error cause =>
        cases hr
        exact error cause
  · rintro a r events s grows ⟨rfl, answer, hr, rfl⟩
    cases answer with
    | ok b =>
        cases hr
        exact ok a s grows
    | error cause => cases hr

/-- Finding the executor of the record's connection, before the rest of an edit. -/
theorem query {f : Query m → Edit m σ β}
    (ok : ∀ executor, held.session.resolved held.record.connection = .ok executor →
      (f (.on m executor held.record.connection)).Ends held post₂)
    (error : ∀ e, held.session.resolved held.record.connection = .error e →
      post₂ (.error e) held.record []) :
    Ends (Edit.ofAction (Query.resolve m held.record.connection) >>= f) held post₂ := by
  rw [Ends, WP.bind_iff, WP.ofAction_iff, WP.query_resolve_iff]
  cases h : held.session.resolved held.record.connection with
  | ok executor => exact ok executor h
  | error e => exact ⟨[], .refl _, error e h⟩

end Ends

end Edit

namespace Action

/-- The action ends so that `post` relates its result and the events that it added to the
transcript. -/
def Ends (action : Action σ α) (s : Session σ) (post : Except Error α → List Event → Prop) :
    Prop :=
  WP action (fun result reached => ∃ events, s.Grows events reached ∧ post result events) s

namespace Ends

variable {action : Action σ α} {f : α → Action σ β} {s : Session σ}
variable {post post' : Except Error α → List Event → Prop}
variable {post₂ : Except Error β → List Event → Prop}

theorem mono (h : action.Ends s post) (imp : ∀ result events, post result events →
    post' result events) : action.Ends s post' := by
  refine WP.mono h ?_
  rintro result reached ⟨events, grows, hp⟩
  exact ⟨events, grows, imp _ _ hp⟩

theorem pure {a : α} (h : post (.ok a) []) : Ends (Pure.pure a) s post := ⟨[], .refl _, h⟩

theorem bind (first : action.Ends s post)
    (failed : ∀ e events, post (.error e) events → post₂ (.error e) events)
    (next : ∀ a events s', s.Grows events s' → post (.ok a) events →
      (f a).Ends s' fun result more => post₂ result (events ++ more)) :
    Ends (action >>= f) s post₂ := by
  rw [Ends, WP.bind_iff]
  refine WP.mono first ?_
  rintro result reached ⟨events, grows, hp⟩
  cases result with
  | error e => exact ⟨events, grows, failed e _ hp⟩
  | ok a =>
      refine WP.mono (next a events reached grows hp) ?_
      rintro result' reached' ⟨more, grows', hp'⟩
      exact ⟨events ++ more, grows.trans grows', hp'⟩

/-- An edit of a record ends as an action that keeps the record for its result. -/
theorem applyTo {edit : Edit m σ α} {r : Record m}
    {post : Except Error (α × Record m) → List Event → Prop}
    (h : edit.Ends ⟨r, s⟩ fun result r' events => post (result.map fun a => (a, r')) events) :
    Ends (edit.applyTo r) s post := WP.applyTo_iff.2 h

/-- An edit of a record before the rest of an action. -/
theorem bind_applyTo {m : Model} {edit : Edit m σ α} {r : Record m}
    {f : α × Record m → Action σ β} {post : Except Error α → Record m → List Event → Prop}
    (first : edit.Ends ⟨r, s⟩ post)
    (failed : ∀ e r' events, post (.error e) r' events → post₂ (.error e) events)
    (next : ∀ a r' events s', s.Grows events s' → post (.ok a) r' events →
      (f (a, r')).Ends s' fun result more => post₂ result (events ++ more)) :
    Ends (edit.applyTo r >>= f) s post₂ := by
  have ends : Ends (edit.applyTo r) s fun result events =>
      (∃ a r', result = .ok (a, r') ∧ post (.ok a) r' events) ∨
        ∃ e r', result = .error e ∧ post (.error e) r' events := by
    refine applyTo (first.mono fun result r' events h => ?_)
    cases result with
    | ok a => exact .inl ⟨a, r', rfl, h⟩
    | error e => exact .inr ⟨e, r', rfl, h⟩
  refine bind ends ?_ ?_
  · rintro e events (⟨a, r', hr, -⟩ | ⟨_, r', hr, h⟩)
    · cases hr
    · cases hr
      exact failed e r' events h
  · rintro _ events s' grows (⟨a, r', hr, h⟩ | ⟨_, r', hr, -⟩)
    · cases hr
      exact next a r' events s' grows h
    · cases hr

theorem ofExcept {x : Except Error α} (ok : ∀ a, x = .ok a → (f a).Ends s post₂)
    (error : ∀ e, x = .error e → post₂ (.error e) []) :
    Ends (Action.ofExcept x >>= f) s post₂ := by
  cases x with
  | ok a => exact ok a rfl
  | error e => exact ⟨[], .refl s, error e rfl⟩

/-- Finding the executor of a connection, before the rest of an action. -/
theorem query {connection : Option String} {f : Query m → Action σ β}
    (ok : ∀ executor, s.resolved connection = .ok executor →
      (f (.on m executor connection)).Ends s post₂)
    (error : ∀ e, s.resolved connection = .error e → post₂ (.error e) []) :
    Ends (Query.resolve m connection >>= f) s post₂ := by
  rw [Ends, WP.bind_iff, WP.query_resolve_iff]
  cases h : s.resolved connection with
  | ok executor => exact ok executor h
  | error e => exact ⟨[], .refl _, error e h⟩

end Ends

end Action

end LiveRecord
