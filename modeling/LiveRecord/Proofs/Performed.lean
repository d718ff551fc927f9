import LiveRecord.Proofs.Addressing
import LiveRecord.Proofs.Operation
import LiveRecord.Proofs.Saving

/-!
# The outcomes of calls

`Record.Performed` lists what can come of any call of a method that changes a record, by the method.
A result about all calls is proved by its cases, and so only here the calls are run. Most results need
less: `Record.Evolves` takes every call apart into the few things that can happen to a record, and
what each of them preserves is preserved by all calls.
-/

namespace LiveRecord

/-- Does the operation replace all attributes by a row as it is? -/
def Operation.Replaces : Operation → Prop
  | .replace .. => True
  | _ => False

namespace Record

variable {m : Model} {σ : Type}

/-- What can come of a call on the record `r`, given what the resolver says about its connection: the
record afterwards and the events. A call that fails before it has written anything leaves the record
`unchanged`. -/
inductive Performed (resolved : Except Error Executor) (r : Record m) :
    Operation → Record m → List Event → Prop
  | unchanged (op : Operation) : Performed resolved r op r []
  | set {key : String} {v : Value} {r' : Record m} (stored : r.write key v = .ok r') :
      Performed resolved r (.set key v) r' []
  | unset {key : String} {r' : Record m} (removed : (r.remove key).map Prod.snd = .ok r') :
      Performed resolved r (.unset key) r' []
  | replace (row : Row) (snapshot : Bool) :
      Performed resolved r (.replace row snapshot) (r.replace row snapshot) []
  | sync : Performed resolved r .sync r.sync []
  | syncKey (key : String) : Performed resolved r (.syncKey key) (r.syncKey key) []
  | fill {row : Row} {g : Guard} {r' : Record m} (filled : Writes (Accepts m g row) r r') :
      Performed resolved r (.fill row) r' []
  | forceFill {row : Row} {g : Guard} {r' : Record m} (filled : Writes (Accepts m g row) r r') :
      Performed resolved r (.forceFill row) r' []
  | saveWith {stamping : Bool} {result : Except Error Bool} {r' : Record m} {events : List Event}
      (saving : Saving stamping resolved r result r' events) :
      Performed resolved r (.saveWith stamping) r' events
  | touch {result : Except Error Bool} {r' : Record m} {events : List Event}
      (touching : Touching resolved r result r' events) : Performed resolved r .touch r' events
  | update {row : Row} {g : Guard} {outcome : Except Error UpdateOutcome} {r' : Record m}
      {events : List Event} (updating : Updating g row resolved r outcome r' events) :
      Performed resolved r (.update row) r' events
  | delete {result : Except Error Bool} {r' : Record m} {events : List Event}
      (deleting : Deleting resolved r result r' events) : Performed resolved r .delete r' events
  | adjust {step : Step} {column : String} {amount : Value} {result : Except Error Nat}
      {r' : Record m} {events : List Event}
      (adjusting : Adjusting step column amount resolved r result r' events) :
      Performed resolved r (.adjust step column amount) r' events

/-- What happens to a record bit by bit: values are stored and removed, snapshots are taken, the
standing changes, and in between clocks are read and the executor that was found is asked. -/
inductive Evolves (resolved : Except Error Executor) : Record m → Record m → List Event → Prop
  | done (r : Record m) : Evolves resolved r r []
  | write {r r₁ r' : Record m} {key : String} {v : Value} {events : List Event}
      (stored : r.write key v = .ok r₁) (rest : Evolves resolved r₁ r' events) :
      Evolves resolved r r' events
  | remove {r r₁ r' : Record m} {key : String} {events : List Event}
      (removed : (r.remove key).map Prod.snd = .ok r₁) (rest : Evolves resolved r₁ r' events) :
      Evolves resolved r r' events
  | sync {r r' : Record m} {events : List Event} (rest : Evolves resolved r.sync r' events) :
      Evolves resolved r r' events
  | syncKey {r r' : Record m} {events : List Event} (key : String)
      (rest : Evolves resolved (r.syncKey key) r' events) : Evolves resolved r r' events
  | stand {r r' : Record m} {events : List Event} (persisted : Bool)
      (rest : Evolves resolved { r with persisted := persisted } r' events) :
      Evolves resolved r r' events
  | readClock {r r' : Record m} {events : List Event} (now : DateTime)
      (rest : Evolves resolved r r' events) :
      Evolves resolved r r' (.clockRead m.path now :: events)
  | ask {r r' : Record m} {executor : Executor} {events : List Event}
      (found : resolved = .ok executor) (exchange : Exchange)
      (rest : Evolves resolved r r' events) :
      Evolves resolved r r' (.exchanged executor exchange :: events)

variable {resolved : Except Error Executor} {r r₁ r' : Record m} {events more : List Event}

namespace Evolves

theorem of_writes {p : String → Prop} (writes : Writes p r r₁)
    (rest : Evolves resolved r₁ r' events) : Evolves resolved r r' events := by
  induction writes with
  | refl r => exact rest
  | step admitted first _ ih => exact .write first (ih rest)

theorem of_stamped {stamping : Bool} (stamped : Stamped stamping r events r₁)
    (rest : Evolves resolved r₁ r' more) : Evolves resolved r r' (events ++ more) := by
  have written := of_writes stamped.writes rest
  rcases stamped.eq_nil_or_clockRead with rfl | ⟨now, rfl⟩
  · exact written
  · exact .readClock now written

end Evolves

theorem Saving.evolves {stamping : Bool} {result : Except Error Bool}
    (h : Saving stamping resolved r result r' events) : Evolves resolved r r' events := by
  cases h with
  | unresolved failed => exact .done r
  | clean found old clean => exact .sync (.done _)
  | unkeyed found old dirty stamped failed =>
      rw [← List.append_nil events]
      exact .of_stamped stamped (.done _)
  | updated found old dirty stamped keyed =>
      exact .of_stamped stamped (.ask found _ (.sync (.done _)))
  | inserted found new stamped plain =>
      exact .of_stamped stamped (.ask found _ (.stand true (.sync (.done _))))
  | keyed found new stamped generated stored =>
      exact .of_stamped stamped (.ask found _ (.write stored (.stand true (.sync (.done _)))))
  | updateRefused found old dirty stamped keyed =>
      exact .of_stamped stamped (.ask found _ (.done _))
  | insertRefused found new stamped plain => exact .of_stamped stamped (.ask found _ (.done _))
  | keyLost found new stamped generated failed =>
      exact .of_stamped stamped (.ask found _ (.done _))
  | keyRefused found new stamped generated =>
      exact .of_stamped stamped (.ask found _ (.done _))

theorem Touching.evolves {result : Except Error Bool} (h : Touching resolved r result r' events) :
    Evolves resolved r r' events := by
  cases h with
  | untimed off => exact .done r
  | saved on stamped saving => exact .of_stamped stamped saving.evolves

theorem Updating.evolves {g : Guard} {row : Row} {outcome : Except Error UpdateOutcome}
    (h : Updating g row resolved r outcome r' events) : Evolves resolved r r' events := by
  cases h with
  | unfilled old filled => exact .of_writes filled (.done _)
  | saved old filled saving => exact .of_writes filled saving.evolves
  | unresolved | nothing => exact .done r
  | everywhere answer new found something => exact .ask found _ (.done _)

theorem Deleting.evolves {result : Except Error Bool}
    (h : Deleting resolved r result r' events) : Evolves resolved r r' events := by
  cases h with
  | unnamed | absent | unkeyed | unresolved => exact .done r
  | deleted named old keyed found => exact .ask found _ (.stand false (.done _))
  | refused named old keyed found => exact .ask found _ (.done _)

theorem Adjusting.evolves {step : Step} {column : String} {amount : Value}
    {result : Except Error Nat} (h : Adjusting step column amount resolved r result r' events) :
    Evolves resolved r r' events := by
  cases h with
  | unresolved | unkeyed | unadjusted => exact .done r
  | everywhere answer found new => exact .ask found _ (.done _)
  | stored found old named keyed value stored =>
      exact .ask found _ (.write stored (.syncKey column (.done _)))
  | lost found => exact .ask found _ (.done _)
  | refused found => exact .ask found _ (.done _)

/-- Every call but a replacement of all attributes is made of such changes. -/
theorem Performed.evolves {op : Operation} (h : Performed resolved r op r' events)
    (kept : ¬ op.Replaces) : Evolves resolved r r' events := by
  cases h with
  | unchanged => exact .done r
  | set stored => exact .write stored (.done _)
  | unset removed => exact .remove removed (.done _)
  | replace row snapshot => exact absurd trivial kept
  | sync => exact .sync (.done _)
  | syncKey key => exact .syncKey key (.done _)
  | fill filled => exact .of_writes filled (.done _)
  | forceFill filled => exact .of_writes filled (.done _)
  | saveWith saving => exact saving.evolves
  | touch touching => exact touching.evolves
  | update updating => exact updating.evolves
  | delete deleting => exact deleting.evolves
  | adjust adjusting => exact adjusting.evolves

variable [Pool σ]

/-- Every call has one of the listed outcomes. -/
theorem performed_ends (op : Operation) (held : Held m σ) :
    op.perform.Ends held fun _ r events =>
      Performed (held.session.resolved held.record.connection) held.record op r events := by
  cases op with
  | set key v => exact .write (fun r stored => .pure (.set stored)) fun _ _ => .unchanged _
  | unset key =>
      exact .changeOr (fun r removed => .pure (.unset removed)) fun _ _ => .unchanged _
  | replace row snapshot => exact .change (.pure (.replace row snapshot))
  | sync => exact .change (.pure .sync)
  | syncKey key => exact .change (.pure (.syncKey key))
  | fill row =>
      refine .returning (fun _ => ⟨_, rfl⟩) ((fill_ends row held).mono ?_)
      rintro _ r events ⟨rfl, writes⟩
      exact .fill writes
  | forceFill row =>
      refine .returning (fun _ => ⟨_, rfl⟩) ((forceFill_ends row held).mono ?_)
      rintro _ r events ⟨rfl, writes⟩
      exact .forceFill writes
  | saveWith stamping => exact (saveWith_ends stamping held).mono fun _ _ _ => .saveWith
  | touch => exact (touch_ends held).mono fun _ _ _ => .touch
  | update row =>
      refine .returning (fun outcome => ?_) ((update_ends row held).mono fun _ _ _ => .update)
      cases outcome with
      | table rows => exact ⟨_, rfl⟩
      | saved done => exact ⟨_, rfl⟩
  | delete =>
      exact .returning (fun _ => ⟨_, rfl⟩) ((delete_ends held).mono fun _ _ _ => .delete)
  | adjust step column amount =>
      exact .returning (fun _ => ⟨_, rfl⟩)
        ((adjust_ends step column amount held).mono fun _ _ _ => .adjust)

end Record

end LiveRecord
