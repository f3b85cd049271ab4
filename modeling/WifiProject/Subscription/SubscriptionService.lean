import WifiProject.Database.JsonParser

/-!
`SubscriptionService.createProfilesFromSubscription`. The profile objects of the
first query live in memory until the last loop writes them back; the map
`subscriptions` and the set `toUpdate` refer to them by row id.
-/

namespace WifiProject.Subscription

open Lib Database Plugin

structure SyncState where
  subscriptions : LinkedMap Profile.Key Nat := LinkedMap.empty
  toUpdate : List Nat := []
  deriving DecidableEq, Repr

abbrev SyncMemory := Memory SyncState

abbrev SyncCode := Code SyncMemory

namespace SyncMemory

def putSubscription (key : Profile.Key) (id : Nat) (memory : SyncMemory) : SyncMemory :=
  { memory with
    env := { memory.env with subscriptions := memory.env.subscriptions.put key id } }

def addToUpdate (id : Nat) (memory : SyncMemory) : SyncMemory :=
  { memory with env := { memory.env with toUpdate := memory.env.toUpdate.insert id } }

/-- The profile object that a new profile with this key would be merged into. -/
def subscribed? (memory : SyncMemory) (key : Profile.Key) : Option Profile :=
  (memory.env.subscriptions.get? key).bind memory.object?

end SyncMemory

/-- The preprocessing of one row: a duplicate is deleted, an active profile is
demoted until a document mentions it again. -/
def preprocess (currentId : Nat) (profile : Profile) : SyncCode Unit :=
  if profile.subscription = .userConfigured then pure ()
  else do
    let memory ← Routine.read
    match memory.env.subscriptions.get? profile.key with
    | some _ => do
        ProfileManager.delProfile profile.id
        if currentId = profile.id then setProfileId 0 else pure ()
    | none => do
        Routine.modify (SyncMemory.putSubscription profile.key profile.id)
        if profile.subscription = .active then
          Routine.modify fun memory =>
            (SyncMemory.addToUpdate profile.id memory).updateObject profile.id
              fun object => { object with subscription := .obsolete }
        else pure ()

/-- What an obsolete profile takes over from the document. -/
def reactivate (profile old : Profile) : Profile :=
  { old with
    password := profile.password
    method := profile.method
    plugin := profile.plugin
    udpFallback := profile.udpFallback
    subscription := .active }

def createSubscribed (profile : Profile) : SyncCode Nat := do
  let id ← createObject { profile with subscription := .active }
  Routine.modify (SyncMemory.putSubscription profile.key id)
  pure id

/-- The `create` callback: `subscriptions.compute(key) { ... }`. -/
def create (profile : Profile) : SyncCode Nat := do
  let memory ← Routine.read
  match SyncMemory.subscribed? memory profile.key with
  | none => createSubscribed profile
  | some old =>
      match old.subscription with
      | .active => pure old.id
      | .obsolete => do
          Routine.modify fun memory =>
            (SyncMemory.addToUpdate old.id memory).updateObject old.id (reactivate profile)
          pure old.id
      | .userConfigured => createSubscribed profile

/-- One document; whatever it throws is swallowed. -/
def syncDocument (order : HashOrder) (feature : Option Profile) (document : Document) :
    SyncCode Unit :=
  tryCatchThe Failure
    (do
      let json ← document.single
      let _ ← parseJson order json feature create
      pure ())
    fun _ => pure ()

/-- The write-back of one profile of the first query. -/
def writeBack (profile : Profile) : SyncCode Unit := do
  let memory ← Routine.read
  if profile.id ∈ memory.env.toUpdate then
    match memory.object? profile.id with
    | none => pure ()
    | some object => ProfileManager.updateProfile object
  else pure ()

def createProfilesFromSubscription (order : HashOrder) (documents : List Document) :
    SyncCode Unit := do
  let currentId ← DataStore.profileId
  let profiles ← ProfileManager.getAllProfiles
  Routine.modify fun memory => { memory with objects := profiles }
  Routine.forEach profiles (preprocess currentId)
  Routine.forEach documents (syncDocument order (profiles.find? (·.id = currentId)))
  Routine.forEach profiles writeBack

/-- The run in a process of its own. -/
def sync (order : HashOrder) (documents : List Document) (storage : Storage) :
    Except Failure Unit × SyncMemory × Storage :=
  Routine.exec Storage.handle (createProfilesFromSubscription order documents) ⟨[], {}⟩ storage

end WifiProject.Subscription
