import LiveRecord.Model
import LiveRecord.Projection

/-!
# Records

A record of a model is its attributes with their snapshot, whether a row of the database stands
for it, and a few settings of its own. Writing an attribute puts the value into the form in
which it is stored, reading decodes it again. Nothing here touches a session.
-/

namespace LiveRecord

/-- A record of a model. -/
structure Record (m : Model) where
  /-- Does a row of the database stand for the record? -/
  persisted : Bool
  attributes : Attributes
  /-- The date columns besides the timestamp columns. -/
  dates : List String
  /-- The keys left out of the output, if they differ from those of the model. -/
  ownHidden : Option (List String)
  /-- The keys admitted to the output, if they differ from those of the model. -/
  ownVisible : Option (List String)
  /-- The connection; `none` for the resolver's default. -/
  connection : Option String

namespace Record

variable {m : Model}

/-- A record without attributes that is not persisted. -/
def new (m : Model) : Record m where
  persisted := false
  attributes := .empty
  dates := m.dates
  ownHidden := none
  ownVisible := none
  connection := m.connection

instance : Inhabited (Record m) := ⟨new m⟩

/-- A persisted record that holds a row as it is. -/
def ofRow (m : Model) (row : Row) (connection : Option String) : Record m :=
  { new m with
    persisted := true
    attributes := Attributes.empty.replace row true
    connection := connection.or m.connection }

/-- The casts of the model and the date columns of the record. -/
def schema (r : Record m) : Schema := ⟨m.casts, r.dates⟩

/-- The value of a key as a reader sees it. -/
def read (r : Record m) (key : String) : Except Error Value := do
  let stored ← r.attributes.get key
  r.schema.read key stored

/-- Store a value under a key, in the form for the key. -/
def write (r : Record m) (key : String) (v : Value) : Except Error (Record m) := do
  let stored ← r.schema.toStorage key v
  return { r with attributes := r.attributes.set key stored }

/-- Remove a key and return its stored value. -/
def remove (r : Record m) (key : String) : Except Error (Value × Record m) := do
  let (v, attributes) ← r.attributes.remove key
  return (v, { r with attributes := attributes })

/-- Is there an attribute under the key? -/
def contains (r : Record m) (key : String) : Bool := r.attributes.contains key

/-- The value of a key in the snapshot. -/
def snapshot? (r : Record m) (key : String) : Option Value := r.attributes.snapshot.get? key

/-- Replace all attributes by a row as it is, and take a snapshot if asked to. -/
def replace (r : Record m) (row : Row) (snapshot : Bool) : Record m :=
  { r with attributes := r.attributes.replace row snapshot }

/-- The attributes that are new or changed since the snapshot. -/
def dirty (r : Record m) : Row := r.attributes.dirty

/-- Is one of the keys dirty? Without keys, is any attribute? -/
def isDirty (r : Record m) (keys : List String) : Bool := r.attributes.isDirty keys

/-- Take a snapshot of all attributes. -/
def sync (r : Record m) : Record m := { r with attributes := r.attributes.sync }

/-- Take a snapshot of one attribute. -/
def syncKey (r : Record m) (key : String) : Record m :=
  { r with attributes := r.attributes.syncKey key }

/-- The value of the primary key, if the type has one and it is set. -/
def key? (r : Record m) : Option Value := m.primaryKey.bind r.attributes.current.get?

/-- Use another connection from now on. -/
def setConnection (r : Record m) (connection : Option String) : Record m :=
  { r with connection := connection }

/-- The keys left out of the output. -/
def hidden (r : Record m) : List String := r.ownHidden.getD m.hidden

/-- The keys admitted to the output; an empty list admits all. -/
def visible (r : Record m) : List String := r.ownVisible.getD m.visible

/-- Leave these keys out of the output and no others. -/
def setHidden (r : Record m) (keys : List String) : Record m :=
  { r with ownHidden := some keys }

/-- Leave these keys out of the output as well. -/
def addHidden (r : Record m) (keys : List String) : Record m :=
  r.setHidden (r.hidden ++ keys)

/-- Admit these keys to the output and no others. -/
def setVisible (r : Record m) (keys : List String) : Record m :=
  { r with ownVisible := some keys }

/-- Admit these keys to the output as well. -/
def addVisible (r : Record m) (keys : List String) : Record m :=
  r.setVisible (r.visible ++ keys)

/-- Add a date column unless it is one. -/
def addDate (dates : List String) (key : String) : List String :=
  if dates.contains key then dates else dates ++ [key]

/-- Treat these columns as dates, in this record only. -/
def addDates (r : Record m) (keys : List String) : Record m :=
  { r with dates := keys.foldl addDate r.dates }

/-- What a copy leaves out unless told otherwise: the primary key and the timestamp columns. -/
def identityKeys (m : Model) : List String :=
  m.primaryKey.toList ++ [Timestamps.createdAt, Timestamps.updatedAt]

/-- A copy that is not persisted, without the given keys. -/
def replicate (r : Record m) (except : List String) : Record m :=
  { r with
    persisted := false
    attributes := ⟨r.attributes.current.filter fun key _ => !except.contains key, .empty⟩ }

/-- What is shown of the record. -/
def projection (r : Record m) : Projection where
  schema := r.schema
  hidden := r.hidden
  visible := r.visible
  dateFormat := m.dateFormat

/-- The shown attributes, dates written and casts decoded. -/
def toRow (r : Record m) : Except Error Row := r.projection.apply r.attributes

/-- The shown attributes as a JSON document. -/
def toJson (r : Record m) : Except Error Json.Document := r.toRow.map Row.toJson

@[simp] theorem sync_attributes (r : Record m) : r.sync.attributes = r.attributes.sync := rfl

@[simp] theorem sync_persisted (r : Record m) : r.sync.persisted = r.persisted := rfl

theorem isDirty_singleton_iff {r : Record m} {key : String} :
    r.isDirty [key] = true ↔ key ∈ r.dirty.keys := Attributes.isDirty_singleton_iff

/-- Writing keeps everything but the one attribute. -/
theorem eq_of_write {r r' : Record m} {key : String} {v : Value} (h : r.write key v = .ok r') :
    ∃ stored, r.schema.toStorage key v = .ok stored ∧
      r' = { r with attributes := r.attributes.set key stored } := by
  obtain ⟨stored, stores, made⟩ := Except.exists_of_bind_eq_ok h
  exact ⟨stored, stores, (Except.ok.inj made).symm⟩

/-- Removing an attribute keeps everything else. -/
theorem eq_of_remove {r r' : Record m} {key : String}
    (removed : (r.remove key).map Prod.snd = .ok r') :
    r' = { r with attributes := { r.attributes with
      current := r.attributes.current.erase key } } := by
  rw [remove, Attributes.remove] at removed
  cases held : r.attributes.current.get? key with
  | none =>
      rw [held] at removed
      cases removed
  | some v =>
      rw [held] at removed
      cases removed
      rfl

end Record

end LiveRecord
