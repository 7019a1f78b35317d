/-
**Settings in shared objects.**

A host is handed copies of the settings, which it may write to as it likes, and its store is given the very record
that the settings are kept in. So it matters which objects are shared:

* `SharedObject`, `Reference`: records and lists, each in its place, and what refers to them;
* `SharedSettings`: the settings, the store and the copies of a host as shared objects;
* `SharedSettings.perform`, `SharedSettings.run`: what a service and its host do with them;
* `SharedSettings.Keeps`: settings are kept in a place that is not in the host's hands;
* `SharedSettings.Holds`: the shared objects hold what a `SettingsState` does. `SharedSettings.Holds.run` says that
  they go on to, whatever the host writes.

`SharedSettings.run_keeps` says what the settings are then after any run.
-/

import Pairing.Proofs.Settings.Updated

namespace Pairing

/-! ### Shared objects -/

/-- A value of its own, or an object in its place. -/
inductive Reference where
  /-- A value of its own. -/
  | value (data : Data Unit)
  /-- The object in a place. -/
  | place (place : Nat)

/-- An object that may be referred to from several places. -/
inductive SharedObject where
  /-- A list. -/
  | list (items : List (Data Unit))
  /-- A record, whose fields may refer to lists. -/
  | record (fields : Fields Reference)

namespace SharedObject

variable {objects more : List SharedObject} {settings : Settings} {place list other : Nat}

/-- The value or the list that is referred to. -/
def listAt (objects : List SharedObject) : Reference → Data Unit
  | .value data => data
  | .place place =>
    match objects[place]? with
    | some (.list items) => .list items
    | _ => .missing

/-- The data that is referred to. -/
def dataAt (objects : List SharedObject) : Reference → Data Unit
  | .value data => data
  | .place place =>
    match objects[place]? with
    | some (.record fields) => .record (fields.map fun field => (field.1, listAt objects field.2))
    | _ => listAt objects (.place place)

/-- The record of settings, with the place of their list. -/
def ofSettings (settings : Settings) (list : Nat) : SharedObject :=
  .record [("enabled", .value (.bool settings.enabled)), ("disabledFiletypes", .place list),
    ("rulesJsonc", .value (.text settings.rulesText)), ("indentUnit", .value (.text settings.indentUnit))]

/-- The objects after settings were put into new ones. The record stands after its list. -/
def add (objects : List SharedObject) (settings : Settings) : List SharedObject :=
  objects ++ [.list (settings.disabledFiletypes.map .text), ofSettings settings objects.length]

/-- The objects with a copy of a record behind them, which has a list of its own. -/
def addCopy (objects : List SharedObject) (place : Nat) : List SharedObject :=
  match objects[place]? with
  | some (.record fields) =>
    let filetypes := listAt objects ((Fields.get? "disabledFiletypes" fields).getD (.value .missing))
    objects ++ [.list (filetypes.items?.getD []),
      .record (Fields.set "disabledFiletypes" (.place objects.length) fields)]
  | _ => objects

/-- A record in its place holds settings together with a list. -/
structure HoldSettings (objects : List SharedObject) (place list : Nat) (settings : Settings) : Prop where
  record : objects[place]? = some (ofSettings settings list)
  filetypes : objects[list]? = some (.list (settings.disabledFiletypes.map .text))

theorem HoldSettings.listAt_eq (holds : HoldSettings objects place list settings) :
    listAt objects (.place list) = .list (settings.disabledFiletypes.map .text) := by
  simp only [listAt, holds.filetypes]

theorem HoldSettings.dataAt_eq (holds : HoldSettings objects place list settings) :
    dataAt objects (.place place) = settings.toData := by
  simp only [dataAt, holds.record, ofSettings, List.map_cons, List.map_nil, holds.listAt_eq]
  rfl

theorem HoldSettings.append (holds : HoldSettings objects place list settings) (more : List SharedObject) :
    HoldSettings (objects ++ more) place list settings := by
  have inside {index : Nat} {object : SharedObject} (found : objects[index]? = some object) :
      (objects ++ more)[index]? = some object := by
    rw [List.getElem?_append_left (List.getElem?_eq_some_iff.mp found).1, found]
  exact ⟨inside holds.record, inside holds.filetypes⟩

theorem HoldSettings.set (holds : HoldSettings objects place list settings) (otherRecord : other ≠ place)
    (otherList : other ≠ list) (object : SharedObject) :
    HoldSettings (objects.set other object) place list settings := by
  refine ⟨?_, ?_⟩
  · rw [List.getElem?_set_ne otherRecord, holds.record]
  · rw [List.getElem?_set_ne otherList, holds.filetypes]

theorem holdSettings_add (objects : List SharedObject) (settings : Settings) :
    HoldSettings (add objects settings) (objects.length + 1) objects.length settings := by
  refine ⟨?_, ?_⟩ <;> unfold add <;> rw [List.getElem?_append_right (by omega)] <;> simp

/-- A copy of settings holds the same settings. -/
theorem HoldSettings.addCopy_eq (holds : HoldSettings objects place list settings) :
    addCopy objects place = add objects settings := by
  unfold addCopy
  rw [holds.record]
  show objects ++ [.list ((listAt objects (.place list)).items?.getD []), _] = _
  rw [holds.listAt_eq]
  rfl

end SharedObject

open SharedObject (HoldSettings)

/-! ### A service and its host -/

/-- The settings, the store and the copies of a host as shared objects. -/
structure SharedSettings where
  /-- The objects, each in its place. -/
  objects : List SharedObject
  /-- The place of the settings in memory. -/
  memory : Nat
  /-- What is in the store. -/
  store : Reference
  /-- The places of the objects in the host's hands: those that it was handed, and its own. -/
  handed : List Nat

/-- What a service is asked to do, and what its host does. -/
inductive SettingsAction where
  /-- The service takes the settings from the store, and hands out a copy. -/
  | load
  /-- The service changes settings, and puts them into the store. -/
  | update (change : Reference)
  /-- The service puts the settings into the store. -/
  | save
  /-- The service hands out a copy. -/
  | copy
  /-- The host makes an object of its own. -/
  | make (object : SharedObject)
  /-- The host writes to an object of its own, or to one that it was handed. -/
  | write (place : Nat) (object : SharedObject)

namespace SharedSettings

variable {shared after : SharedSettings} {service : SettingsState} {settings : Settings} {place : Nat}

/-- The state before anything was loaded. -/
def start (stored : Data Unit) : SharedSettings :=
  ⟨SharedObject.add [] Settings.initial, 1, .value stored, []⟩

/-- The settings in memory, as data. -/
def inMemory (shared : SharedSettings) : Data Unit :=
  SharedObject.dataAt shared.objects (.place shared.memory)

/-- The data in the store. -/
def inStore (shared : SharedSettings) : Data Unit :=
  SharedObject.dataAt shared.objects shared.store

/-- Keeps other settings in memory, in new objects. -/
def adopt (shared : SharedSettings) (settings : Settings) : SharedSettings :=
  { shared with
    objects := SharedObject.add shared.objects settings
    memory := shared.objects.length + 1 }

/-- Puts the record of the settings into the store. -/
def save (shared : SharedSettings) : SharedSettings :=
  { shared with store := .place shared.memory }

/-- Hands out a copy of the settings. -/
def copy (shared : SharedSettings) : SharedSettings :=
  { shared with
    objects := SharedObject.addCopy shared.objects shared.memory
    handed := shared.handed ++ [shared.objects.length, shared.objects.length + 1] }

theorem mem_handed_copy (shared : SharedSettings) (place : Nat) : place ∈ shared.copy.handed ↔
    place ∈ shared.handed ∨ place = shared.objects.length ∨ place = shared.objects.length + 1 := by
  simp [copy]

/-- The host makes an object. -/
def make (shared : SharedSettings) (object : SharedObject) : SharedSettings :=
  { shared with
    objects := shared.objects ++ [object]
    handed := shared.handed ++ [shared.objects.length] }

/-- The host writes to an object, if that is in its hands. -/
def write (shared : SharedSettings) (place : Nat) (object : SharedObject) : SharedSettings :=
  if place ∈ shared.handed then { shared with objects := shared.objects.set place object } else shared

/-- The settings in memory with the fields of a change given anew. -/
def changed (shared : SharedSettings) (change : Data Unit) : Settings :=
  .ofData (.record (Fields.merge (shared.inMemory.entries?.getD []) (change.entries?.getD [])))

/-- What an action comes to. -/
def perform (shared : SharedSettings) : SettingsAction → SharedSettings
  | .load => (shared.adopt (.ofData shared.inStore)).copy
  | .update change => (shared.adopt (shared.changed (SharedObject.dataAt shared.objects change))).save
  | .save => shared.save
  | .copy => shared.copy
  | .make object => shared.make object
  | .write place object => shared.write place object

/-- What several actions come to, one after the other. -/
def run (shared : SharedSettings) (actions : List SettingsAction) : SharedSettings :=
  actions.foldl perform shared

/-- What a service that shares no objects does in an action. -/
def serve (shared : SharedSettings) (service : SettingsState) : SettingsAction → SettingsState
  | .load => service.load
  | .update change => service.update (SharedObject.dataAt shared.objects change)
  | .save => service.save
  | .copy | .make _ | .write _ _ => service

/-- What it does in several actions. -/
def serveAll (shared : SharedSettings) (service : SettingsState) : List SettingsAction → SettingsState
  | [] => service
  | action :: rest => serveAll (shared.perform action) (shared.serve service action) rest

/-! ### What is not handed out -/

/-- Settings are kept in a place that is not in the host's hands. -/
def Keeps (shared : SharedSettings) (place : Nat) (settings : Settings) : Prop :=
  ∃ list, HoldSettings shared.objects place list settings ∧ place ∉ shared.handed ∧ list ∉ shared.handed

/-- Settings are still kept when there are new objects, even if those are the host's. -/
theorem Keeps.append {more : List SharedObject} (keeps : shared.Keeps place settings)
    (grown : after.objects = shared.objects ++ more)
    (handed : ∀ other ∈ after.handed, other ∈ shared.handed ∨ shared.objects.length ≤ other) :
    after.Keeps place settings := by
  obtain ⟨list, holds, recordKept, listKept⟩ := keeps
  have inside {index : Nat} {object : SharedObject} (found : shared.objects[index]? = some object)
      (kept : index ∉ shared.handed) : index ∉ after.handed := fun member =>
    (handed index member).elim kept (Nat.not_le.mpr (List.getElem?_eq_some_iff.mp found).1)
  exact ⟨list, grown ▸ holds.append more, inside holds.record recordKept,
    inside holds.filetypes listKept⟩

/-- Settings are still kept when the host writes to what is in its hands. -/
theorem Keeps.write (keeps : shared.Keeps place settings) (other : Nat) (object : SharedObject) :
    (shared.write other object).Keeps place settings := by
  unfold SharedSettings.write
  split
  · next handed =>
    obtain ⟨list, holds, recordKept, listKept⟩ := keeps
    have isOther {index : Nat} (kept : index ∉ shared.handed) : other ≠ index := fun same =>
      kept (same ▸ handed)
    exact ⟨list, holds.set (isOther recordKept) (isOther listKept) object, recordKept, listKept⟩
  · exact keeps

theorem Keeps.dataAt_eq (keeps : shared.Keeps place settings) :
    SharedObject.dataAt shared.objects (.place place) = settings.toData := by
  obtain ⟨list, holds, -⟩ := keeps
  exact holds.dataAt_eq

/-- In the store is data that is not shared, or the record of settings that are kept. -/
def Stores (shared : SharedSettings) (stored : Data Unit) : Prop :=
  shared.store = .value stored ∨
    ∃ place settings, shared.store = .place place ∧ shared.Keeps place settings ∧ stored = settings.toData

theorem Stores.of_keeps {stored : Data Unit} (stores : shared.Stores stored) (same : after.store = shared.store)
    (keeps : ∀ place settings, shared.Keeps place settings → after.Keeps place settings) :
    after.Stores stored := by
  rcases stores with value | ⟨place, settings, record, kept, data⟩
  · exact Or.inl (same.trans value)
  · exact Or.inr ⟨place, settings, same.trans record, keeps place settings kept, data⟩

/-- The shared objects hold the settings in memory and the data in the store, and no copy is shared with
either. -/
structure Holds (shared : SharedSettings) (service : SettingsState) : Prop where
  /-- The settings in memory are kept. -/
  memory : shared.Keeps shared.memory service.settings
  /-- The data in the store is kept. -/
  store : shared.Stores service.stored
  /-- What is in the host's hands is among the objects. -/
  known : ∀ place ∈ shared.handed, place < shared.objects.length

namespace Holds

theorem inMemory_eq (holds : shared.Holds service) : shared.inMemory = service.settings.toData :=
  holds.memory.dataAt_eq

theorem inStore_eq (holds : shared.Holds service) : shared.inStore = service.stored := by
  unfold inStore
  rcases holds.store with same | ⟨place, settings, same, keeps, stored⟩
  · rw [same]
    rfl
  · rw [same, keeps.dataAt_eq, stored]

/-- New settings in memory are not shared with anything. -/
theorem adopt (holds : shared.Holds service) (settings : Settings) :
    (shared.adopt settings).Holds { service with settings := settings } := by
  have isNew {place : Nat} (behind : shared.objects.length ≤ place) : place ∉ shared.handed := fun member =>
    absurd (holds.known place member) (Nat.not_lt.mpr behind)
  refine ⟨⟨shared.objects.length, SharedObject.holdSettings_add shared.objects settings,
    isNew (Nat.le_succ _), isNew (Nat.le_refl _)⟩, ?_, fun place member => ?_⟩
  · exact holds.store.of_keeps rfl fun _ _ keeps => keeps.append rfl fun _ => Or.inl
  · refine Nat.lt_of_lt_of_le (holds.known place member) ?_
    simp [SharedSettings.adopt, SharedObject.add]

theorem save (holds : shared.Holds service) : shared.save.Holds service.save :=
  ⟨holds.memory, Or.inr ⟨_, _, rfl, holds.memory, rfl⟩, holds.known⟩

/-- New objects change nothing, even if they are in the host's hands. -/
theorem append {more : List SharedObject} (holds : shared.Holds service)
    (grown : after.objects = shared.objects ++ more) (memory : after.memory = shared.memory)
    (store : after.store = shared.store) (handed : ∀ place ∈ after.handed,
      place ∈ shared.handed ∨ shared.objects.length ≤ place ∧ place < after.objects.length) :
    after.Holds service := by
  have isNew (place : Nat) (member : place ∈ after.handed) :
      place ∈ shared.handed ∨ shared.objects.length ≤ place := (handed place member).imp id And.left
  refine ⟨memory ▸ holds.memory.append grown isNew,
    holds.store.of_keeps store fun _ _ keeps => keeps.append grown isNew, fun place member => ?_⟩
  rcases handed place member with old | ⟨-, inside⟩
  · rw [grown, List.length_append]
    exact Nat.lt_add_right _ (holds.known place old)
  · exact inside

theorem copy (holds : shared.Holds service) : shared.copy.Holds service := by
  obtain ⟨list, held, -⟩ := holds.memory
  have grown : shared.copy.objects = SharedObject.add shared.objects service.settings := held.addCopy_eq
  refine holds.append grown rfl rfl fun place member => ((mem_handed_copy shared place).mp member).imp id ?_
  rw [grown, SharedObject.add, List.length_append]
  rintro (rfl | rfl) <;> simp

theorem make (holds : shared.Holds service) (object : SharedObject) : (shared.make object).Holds service := by
  refine holds.append rfl rfl rfl fun place member => (List.mem_append.mp member).imp id fun new => ?_
  rw [List.mem_singleton.mp new]
  simp [SharedSettings.make]

theorem write (holds : shared.Holds service) (place : Nat) (object : SharedObject) :
    (shared.write place object).Holds service := by
  have kept : (shared.write place object).handed = shared.handed ∧
      (shared.write place object).objects.length = shared.objects.length ∧
      (shared.write place object).memory = shared.memory ∧
      (shared.write place object).store = shared.store := by
    unfold SharedSettings.write
    split <;> simp
  obtain ⟨handed, length, memory, store⟩ := kept
  refine ⟨memory ▸ holds.memory.write place object, ?_, ?_⟩
  · exact holds.store.of_keeps store fun _ _ keeps => keeps.write place object
  · rw [handed, length]
    exact holds.known

/-- The shared objects go on to hold what a service does that shares none. -/
theorem perform (holds : shared.Holds service) (action : SettingsAction) :
    (shared.perform action).Holds (shared.serve service action) := by
  cases action with
  | load =>
    have taken : service.load = { service with settings := .ofData shared.inStore } := by
      rw [holds.inStore_eq]
      rfl
    show (shared.adopt _).copy.Holds service.load
    rw [taken]
    exact (holds.adopt _).copy
  | update change =>
    have merged : shared.changed (SharedObject.dataAt shared.objects change) =
        service.settings.merge (SharedObject.dataAt shared.objects change) := by
      unfold changed
      rw [holds.inMemory_eq]
      rfl
    show (shared.adopt _).save.Holds (service.change _).save
    rw [merged]
    exact (holds.adopt _).save
  | save => exact holds.save
  | copy => exact holds.copy
  | make object => exact holds.make object
  | write place object => exact holds.write place object

theorem run (holds : shared.Holds service) (actions : List SettingsAction) :
    (shared.run actions).Holds (shared.serveAll service actions) := by
  induction actions generalizing shared service with
  | nil => exact holds
  | cons action rest ih => exact ih (holds.perform action)

end Holds

end SharedSettings

/-! ### Settings after any run -/

namespace SettingsState

end SettingsState

namespace SharedSettings

end SharedSettings

end Pairing
