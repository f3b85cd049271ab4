import Mathlib.Data.List.Infix
import Mathlib.Data.List.Sort
import WifiProject.Lib.LinkedMap

/-!
The networks of `MainActivity`. A scan makes an object for every network; a tap
opens a dialog for one of them, and the dialog sets its password and makes it
`Constant.wifiEntity`. When the system reports a connection, that object is
stored under the name of the network that was reported.

Objects are shared between the list, the dialogs and `Constant.wifiEntity`, so
the screen refers to them by their place among all the objects made so far.
-/

namespace WifiProject.App

open Lib

structure WIFIEntity where
  wifiSSID : String
  wifiBSSID : String
  needPassword : Bool
  capabilities : String
  wifiStrength : Int
  password : Option String := some ""
  deriving DecidableEq, Repr

/-- A scan result. `ssid` is `wifiSsid.toString()` from Tiramisu on and `SSID`
before; `level` is the calculated signal level. -/
structure ScanResult where
  ssid : String
  bssid : String
  capabilities : String
  level : Int
  deriving DecidableEq, Repr

inductive PreferenceValue where
  | string (text : String)
  | boolean (value : Bool)
  | long (value : Int)
  deriving DecidableEq, Repr

/-- The file `wifi_data_config`. -/
abbrev Preferences := LinkedMap String PreferenceValue

/-- Uncaught, either ends the process. -/
inductive ScreenFailure where
  | classCast
  | jsonSyntax
  | indexOutOfBounds
  deriving DecidableEq, Repr

/-- `SPUtils.putString`. -/
def Preferences.putString (preferences : Preferences) (key value : String) : Preferences :=
  preferences.put key (.string value)

/-- `SPUtils.getString`. -/
def Preferences.getString (preferences : Preferences) (key defValue : String) :
    Except ScreenFailure String :=
  match preferences.get? key with
  | none => .ok defValue
  | some (.string text) => .ok text
  | some _ => .error .classCast

/-- What is read of the entity that Gson makes of a stored text. Gson sets the
fields by itself, so a field that the text lacks is null. -/
structure Credential where
  wifiSSID : Option String
  password : Option String
  deriving DecidableEq, Repr

/-- `Gson`, for the one class it is used with here. -/
structure Gson where
  toJson : WIFIEntity → String
  fromJson : String → Except ScreenFailure (Option Credential)

/-- `text.contains(part, true)`. -/
def containsIgnoringCase (part text : String) : Bool :=
  decide (part.toList.map Char.toLower <:+: text.toList.map Char.toLower)

/-- What asks for a password. -/
def isSecured (capabilities : String) : Bool :=
  containsIgnoringCase "wpa" capabilities || containsIgnoringCase "wep" capabilities

/-- `ssid.replace("\"", "")`. -/
def withoutQuotes (ssid : String) : String := String.ofList (ssid.toList.filter (· ≠ '"'))

def WIFIEntity.ofScan (result : ScanResult) : WIFIEntity where
  wifiSSID := result.ssid
  wifiBSSID := result.bssid
  needPassword := isSecured result.capabilities
  capabilities := result.capabilities
  wifiStrength := result.level

/-- The network that is connected is left out as well, unless it comes first. -/
def addResult (connectedSSID : Option String) (wifiData : List WIFIEntity) (result : ScanResult) :
    List WIFIEntity :=
  if result.ssid.isEmpty then wifiData
  else if wifiData.any fun item =>
      item.wifiSSID = result.ssid || some result.ssid = connectedSSID then wifiData
  else wifiData ++ [.ofScan result]

/-- The networks that are listed after a scan, the strongest first. -/
def listed (connected : Option String) (scanResults : List ScanResult) : List WIFIEntity :=
  (scanResults.foldl (addResult (connected.map withoutQuotes)) []).insertionSort
    fun a b => b.wifiStrength ≤ a.wifiStrength

/-- `entities` are all the objects made so far and `wifiData` the listed ones.
`entered` keeps the passwords that were confirmed, with the name of the network,
the last one first. -/
structure MainScreen where
  entities : List WIFIEntity := []
  wifiData : List Nat := []
  chooseWifiInfo : Option Nat := none
  dialogs : List Nat := []
  wifiEntity : Option Nat := none
  preferences : Preferences
  entered : List (String × String) := []
  failure : Option ScreenFailure := none

/-- `ssid` of `onWiFiConnectSuccess` is what was reported with the event, and
`connected` the name in `wifiManager.connectionInfo` when it is handled. -/
inductive MainEvent where
  | onCreate
  | onScanResults (scanResults : List ScanResult) (connected : Option String)
  | onItemClick (position : Nat) (isWifiEnabled isOpen : Bool)
  | connectWifi (dialog : Nat) (pwd : String)
  | cancel (dialog : Nat)
  | onWiFiConnectSuccess (ssid connected : Option String)
  deriving DecidableEq, Repr

/-- The text that is stored for a network, empty if there is none. -/
def wifiEntityJson (preferences : Preferences) (wifiSSID : String) : Except ScreenFailure String :=
  preferences.getString wifiSSID ""

def storedCredential (gson : Gson) (preferences : Preferences) (wifiSSID : String) :
    Except ScreenFailure (Option Credential) := do
  let json ← wifiEntityJson preferences wifiSSID
  if json.isEmpty then return none
  gson.fromJson json

/-- The entity with the password of a credential for the same network. -/
def WIFIEntity.withStored (wifiInfo : WIFIEntity) : Option Credential → WIFIEntity
  | none => wifiInfo
  | some stored =>
      if some wifiInfo.wifiSSID = stored.wifiSSID then
        { wifiInfo with password := stored.password }
      else wifiInfo

/-- The entity with the password that is stored for it. -/
def restorePassword (gson : Gson) (preferences : Preferences) (wifiInfo : WIFIEntity) :
    Except ScreenFailure WIFIEntity :=
  (storedCredential gson preferences wifiInfo.wifiSSID).map wifiInfo.withStored

namespace MainScreen

def start (preferences : Preferences) : MainScreen where
  preferences := preferences

/-- A new activity starts with an empty list; `Constant` stays. -/
def onCreate (screen : MainScreen) : MainScreen :=
  { screen with wifiData := [], chooseWifiInfo := none, dialogs := [] }

def reFreshData (scanResults : List ScanResult) (connected : Option String)
    (screen : MainScreen) : MainScreen :=
  { screen with
    entities := screen.entities ++ listed connected scanResults
    wifiData := (List.range (listed connected scanResults).length).map
      (screen.entities.length + ·) }

/-- A tap on the object at `i`. Connecting to an open network leaves
`Constant.wifiEntity` as it is. -/
def onItemClick (gson : Gson) (isWifiEnabled isOpen : Bool) (i : Nat) (wifiInfo : WIFIEntity)
    (screen : MainScreen) : MainScreen :=
  if !isWifiEnabled then screen
  else
    let screen := { screen with chooseWifiInfo := some i }
    if isOpen then screen
    else if isSecured wifiInfo.capabilities then
      match restorePassword gson screen.preferences wifiInfo with
      | .error failure => { screen with failure := some failure }
      | .ok restored =>
          { screen with
            entities := screen.entities.set i restored
            dialogs := screen.dialogs ++ [i] }
    else screen

/-- The dialog does nothing while its text is empty. -/
def connectWifi (dialog : Nat) (pwd : String) (screen : MainScreen) : MainScreen :=
  if pwd.isEmpty then screen
  else
    match screen.dialogs[dialog]? with
    | none => screen
    | some i =>
        match screen.entities[i]? with
        | none => screen
        | some wifiInfo =>
            { screen with
              entities := screen.entities.set i { wifiInfo with password := some pwd }
              wifiEntity := some i
              dialogs := screen.dialogs.eraseIdx dialog
              entered := (wifiInfo.wifiSSID, pwd) :: screen.entered }

/-- What `onWiFiConnectSuccess` stores, and under which key. -/
def stored (ssid connected : Option String) (screen : MainScreen) :
    Option (String × WIFIEntity) := do
  let _ ← screen.chooseWifiInfo
  let ssid ← ssid
  let wifiEntity ← screen.wifiEntity.bind (screen.entities[·]?)
  if some ssid = connected then
    some (withoutQuotes ssid, wifiEntity)
  else none

def onWiFiConnectSuccess (gson : Gson) (ssid connected : Option String) (screen : MainScreen) :
    MainScreen :=
  match screen.stored ssid connected with
  | none => screen
  | some (key, wifiEntity) =>
      { screen with preferences := screen.preferences.putString key (gson.toJson wifiEntity) }

/-- After a failure the process is gone. -/
def step (gson : Gson) (screen : MainScreen) (event : MainEvent) : MainScreen :=
  if screen.failure.isSome then screen
  else
    match event with
    | .onCreate => screen.onCreate
    | .onScanResults scanResults connected => screen.reFreshData scanResults connected
    | .onItemClick position isWifiEnabled isOpen =>
        match screen.wifiData[position]?.bind fun i => (screen.entities[i]?).map (i, ·) with
        | none => { screen with failure := some .indexOutOfBounds }
        | some (i, wifiInfo) => screen.onItemClick gson isWifiEnabled isOpen i wifiInfo
    | .connectWifi dialog pwd => screen.connectWifi dialog pwd
    | .cancel dialog => { screen with dialogs := screen.dialogs.eraseIdx dialog }
    | .onWiFiConnectSuccess ssid connected => screen.onWiFiConnectSuccess gson ssid connected

def run (gson : Gson) (screen : MainScreen) (events : List MainEvent) : MainScreen :=
  events.foldl (step gson) screen

/-- What an event stores. -/
def storedBy (screen : MainScreen) : MainEvent → Option (String × WIFIEntity)
  | .onWiFiConnectSuccess ssid connected =>
      if screen.failure.isSome then none else screen.stored ssid connected
  | _ => none

end MainScreen

section FirstAttempt

/-- A secured network is scanned and tapped, and a password is entered for it. -/
def firstAttempt (result : ScanResult) (pwd : String) : List MainEvent :=
  [.onScanResults [result] none, .onItemClick 0 true false, .connectWifi 0 pwd]

variable {result : ScanResult} {pwd : String}

theorem listed_singleton (hname : result.ssid.isEmpty = false) :
    listed none [result] = [.ofScan result] := by
  simp [listed, addResult, hname]

theorem restorePassword_empty (gson : Gson) (wifiInfo : WIFIEntity) :
    restorePassword gson .empty wifiInfo = .ok wifiInfo := by
  simp only [restorePassword, storedCredential, wifiEntityJson, Preferences.getString,
    LinkedMap.get?_empty]
  rfl

/-- Nothing is stored yet, so the password is the one that was entered. -/
theorem run_firstAttempt (gson : Gson) (hname : result.ssid.isEmpty = false)
    (hsecured : isSecured result.capabilities = true) (hpwd : pwd.isEmpty = false) :
    MainScreen.run gson (.start .empty) (firstAttempt result pwd) =
      { entities := [{ WIFIEntity.ofScan result with password := some pwd }]
        wifiData := [0]
        chooseWifiInfo := some 0
        wifiEntity := some 0
        preferences := .empty
        entered := [(result.ssid, pwd)] } := by
  have hcapabilities : isSecured (WIFIEntity.ofScan result).capabilities = true := hsecured
  have hssid : (WIFIEntity.ofScan result).wifiSSID = result.ssid := rfl
  simp [MainScreen.run, firstAttempt, MainScreen.step, MainScreen.start, MainScreen.reFreshData,
    listed_singleton hname, MainScreen.onItemClick, hcapabilities, restorePassword_empty,
    MainScreen.connectWifi, hpwd, hssid]

end FirstAttempt

end WifiProject.App
