import FieldserviceIT.Admin.Scim
import FieldserviceIT.Lib.Upserts

/-!
The synchronisation of assets from the providers of remote management. A call takes a lock on
the company and the provider and makes up to three attempts; an attempt opens a run, asks the
provider for its assets, writes them to the inventory one by one and finishes the run. What the
provider answers, and which statements fail, is given with the call. Times are left out: no
statement here reads them.
-/

namespace FieldserviceIT.Rmm

open Admin Common Lib

/-- An asset as a provider reports it. -/
structure AssetMapping where
  name : Option String
  assetType : Option String
  serialNumber : Option String
  manufacturer : Option String
  model : Option String
  os : Option String
  ipAddress : Option String
  status : Option String
  location : Option String

/-- What is written of an asset; what is undefined is not. -/
structure AssetData where
  name : String
  assetType : String
  manufacturer : Option String
  model : Option String
  os : Option String
  ipAddress : Option String
  location : Option String
  status : String
  deriving DecidableEq

/-- An asset, with the place in the report of the entry it was created from. -/
structure Asset where
  id : Nat
  companyId : String
  serialNumber : Option String
  data : AssetData
  deletedAt : Option Int
  stemsFrom : Option Nat
  deriving DecidableEq

inductive RunStatus where
  | running
  | success
  | failed
  deriving DecidableEq

/-- A run, with what it really did in `created` and `updated`, which no statement reads. -/
structure RmmSyncRun where
  id : Nat
  companyId : String
  provider : String
  status : RunStatus
  assetsCreated : Nat
  assetsUpdated : Nat
  assetsSkipped : Nat
  errorMessage : Option String
  created : Nat
  updated : Nat

structure RmmProviderConfig where
  id : String
  companyId : String
  provider : String
  credentials : String
  isActive : Bool
  lastSyncStatus : Option RunStatus
  lastSyncMessage : Option String

abbrev Inventory : Type :=
  NumberedTable Asset Asset.id

/-- `locks` are the names of the locks that are held. -/
structure SyncState where
  inventory : Inventory
  runs : NumberedTable RmmSyncRun RmmSyncRun.id
  configs : List RmmProviderConfig
  locks : List String

/-- How the server compares texts, and how credentials are read: `decipher` with a key, from the
parts of the text. -/
structure SyncPlatform where
  same : String → String → Bool
  same_self : ∀ text, same text text = true
  keys : List String
  decipher : String → String → Option String
  parseJson : String → Except String Unit

/-- How the end of a run goes: the update of the run is carried out or its error ignored, and
the update of the configuration may throw. -/
structure Finish where
  recorded : Bool
  error : Option String

/-- What an attempt meets. A statement about an asset may fail after a number of assets. -/
structure Attempt where
  inserted : Bool
  validation : Except String Bool
  report : Except String (List AssetMapping)
  breaksAfter : Option (Nat × String)
  finish : Finish
  failure : Finish

/-- What a call meets, from the query for the lock to the one that releases it. -/
structure SyncCall where
  lockError : Option String
  attempts : Nat → Attempt
  released : Bool

inductive SyncAnswer where
  | synced (assetsCreated assetsUpdated assetsSkipped : Nat)
  | notSynced (error : String)

structure SyncResult where
  answer : SyncAnswer
  attempts : Option Nat

section Assets

variable (P : SyncPlatform)

/-- `value || fallback` -/
def orText (value : Option String) (fallback : String) : String :=
  (orElse value (some fallback)).getD fallback

/-- `asset.serialNumber || undefined` -/
def serialOf (asset : AssetMapping) : Option String :=
  orElse asset.serialNumber none

def assetData (asset : AssetMapping) : AssetData where
  name := orText asset.name "Unknown Asset"
  assetType := orText asset.assetType "OTHER"
  manufacturer := orElse asset.manufacturer none
  model := orElse asset.model none
  os := orElse asset.os none
  ipAddress := orElse asset.ipAddress none
  location := orElse asset.location none
  status := orText asset.status "ACTIVE"

def AssetData.writeOver (data old : AssetData) : AssetData where
  name := data.name
  assetType := data.assetType
  manufacturer := data.manufacturer.or old.manufacturer
  model := data.model.or old.model
  os := data.os.or old.os
  ipAddress := data.ipAddress.or old.ipAddress
  location := data.location.or old.location
  status := data.status

/-- `WHERE serialNumber = ? AND companyId = ? AND deletedAt IS NULL`, if there is a serial
number to ask for. -/
def isFor (companyId : String) (asset : AssetMapping) (row : Asset) : Bool :=
  (serialOf asset).any fun serialNumber =>
    (row.serialNumber.any fun stored => P.same stored serialNumber) &&
      decide (row.companyId = companyId) && row.deletedAt.isNone

def existingAsset (companyId : String) (asset : AssetMapping) (t : Inventory) : Option Asset :=
  t.rows.find? (isFor P companyId asset)

/-- An entry of a report and its place. -/
abbrev Entry : Type :=
  AssetMapping × Nat

def newAsset (companyId : String) (id : Nat) (entry : Entry) : Asset where
  id := id
  companyId := companyId
  serialNumber := serialOf entry.1
  data := assetData entry.1
  deletedAt := none
  stemsFrom := some entry.2

def updatedAsset (entry : Entry) (row : Asset) : Asset :=
  { row with data := (assetData entry.1).writeOver row.data }

def putAsset (companyId : String) (entry : Entry) (t : Inventory) : Inventory :=
  match existingAsset P companyId entry.1 t with
  | some existing =>
    t.modify (fun row => decide (row.id = existing.id)) (updatedAsset entry) fun _ => rfl
  | none => t.insert (newAsset companyId t.drawn entry) rfl

/-- The loop over the assets, with the counts it keeps. -/
structure SyncLoop where
  state : SyncState
  assetsCreated : Nat
  assetsUpdated : Nat

def noteRun (runId : Nat) (change : RmmSyncRun → RmmSyncRun)
    (hid : ∀ row, (change row).id = row.id) (s : SyncState) : SyncState :=
  { s with runs := s.runs.modify (fun row => decide (row.id = runId)) change hid }

def syncAsset (companyId : String) (runId : Nat) (loop : SyncLoop) (entry : Entry) : SyncLoop :=
  let written := { loop.state with inventory := putAsset P companyId entry loop.state.inventory }
  match existingAsset P companyId entry.1 loop.state.inventory with
  | some _ =>
    { loop with
      state := noteRun runId (fun row => { row with updated := row.updated + 1 })
        (fun _ => rfl) written
      assetsUpdated := loop.assetsUpdated + 1 }
  | none =>
    { loop with
      state := noteRun runId (fun row => { row with created := row.created + 1 })
        (fun _ => rfl) written
      assetsCreated := loop.assetsCreated + 1 }

def syncAssets (companyId : String) (runId : Nat) (entries : List Entry) (s : SyncState) :
    SyncLoop :=
  entries.foldl (syncAsset P companyId runId) ⟨s, 0, 0⟩

end Assets

section Attempts

variable (P : SyncPlatform)

def providers : List String :=
  ["connectwise", "ninjaone", "datto", "atera", "syncro", "kaseya", "nable"]

/-- `getProvider` finds a provider. -/
def supported (name : String) : Bool :=
  providers.contains (lowerCased name)

def decryptSecret (value : String) : Except String String :=
  if "ENC:".toList.isPrefixOf value.toList then
    match P.keys.findSome? fun key => P.decipher key value with
    | some text => .ok text
    | none => .error "RMM credentials cannot be decrypted with the configured keys"
  else .ok value

def parseCredentials (value : String) : Except String Unit :=
  (decryptSecret P (if value = "" then "{}" else value)).bind P.parseJson

def newRun (config : RmmProviderConfig) (id : Nat) : RmmSyncRun where
  id := id
  companyId := config.companyId
  provider := config.provider
  status := .running
  assetsCreated := 0
  assetsUpdated := 0
  assetsSkipped := 0
  errorMessage := none
  created := 0
  updated := 0

def openRun (config : RmmProviderConfig) (inserted : Bool) (s : SyncState) : SyncState :=
  if inserted then { s with runs := s.runs.insert (newRun config s.runs.drawn) rfl } else s

def syncMessage (assetsCreated assetsUpdated assetsSkipped : Nat) : String :=
  toString assetsCreated ++ " created, " ++ toString assetsUpdated ++ " updated, " ++
    toString assetsSkipped ++ " skipped"

def RmmSyncRun.ended (status : RunStatus) (assetsCreated assetsUpdated assetsSkipped : Nat)
    (errorMessage : Option String) (row : RmmSyncRun) : RmmSyncRun :=
  { row with
    status := status
    assetsCreated := assetsCreated
    assetsUpdated := assetsUpdated
    assetsSkipped := assetsSkipped
    errorMessage := orElse errorMessage none }

/-- The error is the one of the update of the configuration, which comes last. -/
def finishSyncRun (runId : Nat) (configId : String) (status : RunStatus)
    (assetsCreated assetsUpdated assetsSkipped : Nat) (errorMessage : Option String)
    (finish : Finish) (s : SyncState) : SyncState × Option String :=
  let recorded := if finish.recorded then
      noteRun runId
        (RmmSyncRun.ended status assetsCreated assetsUpdated assetsSkipped errorMessage)
        (fun _ => rfl) s
    else s
  if finish.error.isSome then (recorded, finish.error)
  else
    ({ recorded with
      configs := updateWhere (fun row => row.id = configId)
        (fun row =>
          { row with
            lastSyncStatus := some status
            lastSyncMessage := orElse errorMessage
              (some (syncMessage assetsCreated assetsUpdated assetsSkipped)) })
        recorded.configs }, none)

/-- Where a statement about an asset fails; after the last asset it can be the one that reads
the asset back. -/
def Attempt.breaks (attempt : Attempt) (assets : List AssetMapping) : Option (Nat × String) :=
  attempt.breaksAfter.filter fun broken =>
    decide (broken.1 ≤ assets.length) && !assets.isEmpty

def syncReported (config : RmmProviderConfig) (runId : Nat) (attempt : Attempt) (s : SyncState) :
    SyncState × Except String SyncAnswer :=
  match attempt.report with
  | .error error => (s, .error error)
  | .ok assets =>
    match attempt.breaks assets with
    | some (n, error) =>
      ((syncAssets P config.companyId runId (assets.zipIdx.take n) s).state, .error error)
    | none =>
      let loop := syncAssets P config.companyId runId assets.zipIdx s
      let finished := finishSyncRun runId config.id .success loop.assetsCreated
        loop.assetsUpdated 0 none attempt.finish loop.state
      match finished.2 with
      | some error => (finished.1, .error error)
      | none => (finished.1, .ok (.synced loop.assetsCreated loop.assetsUpdated 0))

/-- Whatever is thrown on the way, the run is finished as a failed one. -/
def syncValid (config : RmmProviderConfig) (runId : Nat) (attempt : Attempt) (s : SyncState) :
    SyncState × Except String SyncAnswer :=
  let tried := syncReported P config runId attempt s
  match tried.2 with
  | .ok answer => (tried.1, .ok answer)
  | .error error =>
    let finished := finishSyncRun runId config.id .failed 0 0 0
      (some (if error = "" then "Sync failed" else error)) attempt.failure tried.1
    (finished.1, .error (finished.2.getD error))

def syncProviderAssets (config : RmmProviderConfig) (attempt : Attempt) (s : SyncState) :
    SyncState × Except String SyncAnswer :=
  let runId := s.runs.drawn
  let opened := openRun config attempt.inserted s
  if supported config.provider then
    match parseCredentials P config.credentials with
    | .error error => (opened, .error error)
    | .ok _ =>
      match attempt.validation with
      | .error error => (opened, .error error)
      | .ok false =>
        let finished := finishSyncRun runId config.id .failed 0 0 0
          (some "Invalid credentials") attempt.finish opened
        match finished.2 with
        | some error => (finished.1, .error error)
        | none => (finished.1, .ok (.notSynced "Invalid credentials"))
      | .ok true => syncValid P config runId attempt opened
  else (opened, .error ("Unsupported RMM provider: " ++ config.provider))

end Attempts

section Calls

variable (P : SyncPlatform)

/-- As many attempts as remain, until one of them does not throw. -/
def tryAttempts (config : RmmProviderConfig) (attempts : Nat → Attempt) :
    Nat → Nat → SyncState → SyncState × Except String SyncResult
  | 0, _, s => (s, .error "")
  | remaining + 1, attempt, s =>
    let tried := syncProviderAssets P config (attempts attempt) s
    match tried.2 with
    | .ok answer => (tried.1, .ok ⟨answer, some attempt⟩)
    | .error error =>
      if remaining = 0 then (tried.1, .error error)
      else tryAttempts config attempts remaining (attempt + 1) tried.1

def maxAttempts : Nat := 3

def lockName (config : RmmProviderConfig) : String :=
  String.ofList (("rmm:" ++ config.companyId ++ ":" ++ config.provider).toList.take 64)

def runSyncWithRetry (config : RmmProviderConfig) (call : SyncCall) (s : SyncState) :
    SyncState × Except String SyncResult :=
  match call.lockError with
  | some error => (s, .error error)
  | none =>
    if s.locks.contains (lockName config) then
      (s, .error ("A " ++ config.provider ++ " synchronization is already running"))
    else
      let tried := tryAttempts P config call.attempts maxAttempts 1
        { s with locks := lockName config :: s.locks }
      (if call.released then { tried.1 with locks := tried.1.locks.erase (lockName config) }
        else tried.1, tried.2)

def findConfig (companyId provider : String) (s : SyncState) : Option RmmProviderConfig :=
  s.configs.find? fun row => decide (row.companyId = companyId) && P.same row.provider provider

def syncProviderNow (companyId provider : String) (call : SyncCall) (s : SyncState) :
    SyncState × Except String SyncResult :=
  match findConfig P companyId provider s with
  | none => (s, .ok ⟨.notSynced
      ("No RMM configuration found for " ++ provider ++ " in this company"), none⟩)
  | some config =>
    if config.isActive then runSyncWithRetry P config call s
    else (s, .ok ⟨.notSynced (provider ++ " configuration is inactive"), none⟩)

def findRun (companyId : String) (runId : Nat) (s : SyncState) : Option RmmSyncRun :=
  s.runs.rows.find? fun row => decide (row.id = runId) && decide (row.companyId = companyId)

def replayedRun (companyId : String) (runId : Nat) (s : SyncState) : Except String RmmSyncRun :=
  match findRun companyId runId s with
  | none => .error "RMM synchronization run not found"
  | some priorRun =>
    if priorRun.status = .running then .error "A running synchronization cannot be replayed"
    else .ok priorRun

def replaySyncRun (companyId : String) (runId : Nat) (call : SyncCall) (s : SyncState) :
    SyncState × Except String SyncResult :=
  match replayedRun companyId runId s with
  | .error error => (s, .error error)
  | .ok priorRun => syncProviderNow P companyId (lowerCased priorRun.provider) call s

/-- A scheduled synchronisation has the configuration of the time it was scheduled. -/
inductive SyncRequest where
  | now (companyId provider : String)
  | replay (companyId : String) (runId : Nat)
  | scheduled (config : RmmProviderConfig)

def SyncRequest.carryOut (request : SyncRequest) (call : SyncCall) (s : SyncState) :
    SyncState × Except String SyncResult :=
  match request with
  | now companyId provider => syncProviderNow P companyId provider call s
  | replay companyId runId => replaySyncRun P companyId runId call s
  | scheduled config => runSyncWithRetry P config call s

end Calls
end FieldserviceIT.Rmm
