import WifiProject.App.MainScreen

/-!
Settings and credentials share one file. A credential is stored under the name of
its network, and whoever runs an access point chooses that name.
-/

namespace WifiProject.App

open Lib MainScreen

/-- The preferences the app uses besides credentials. -/
inductive Setting where
  | history
  | smart
  | service
  | chooseCountry
  | connectingCountryBean
  | connectedCountryBean
  | connectTime
  | isConnectStatus
  | isShowResultKey
  | iR
  deriving DecidableEq, Repr

namespace Setting

def key : Setting → String
  | history => "history"
  | smart => "smart"
  | service => "service"
  | chooseCountry => "chooseCountry"
  | connectingCountryBean => "connectingCountryBean"
  | connectedCountryBean => "connectedCountryBean"
  | connectTime => "connectTime"
  | isConnectStatus => "isConnectStatus"
  | isShowResultKey => "isShowResultKey"
  | iR => "iR"

end Setting

/-- The name of no setting. -/
def NoSetting (name : String) : Prop := ∀ setting : Setting, setting.key ≠ name

/-- Whatever happened before, a connection to `ssid` leaves every setting as it
was. -/
def WriteKeepsSettings (gson : Gson) (ssid : String) : Prop :=
  ∀ preferences events connected, ∀ setting : Setting,
    let screen := run gson (start preferences) events
    (screen.step gson (.onWiFiConnectSuccess (some ssid) connected)).preferences.get? setting.key =
      screen.preferences.get? setting.key

/-- What is looked up for a network is the same whatever the settings are. -/
def LookupIgnoresSettings (wifiSSID : String) : Prop :=
  ∀ preferences preferences' : Preferences,
    (∀ key, NoSetting key → preferences.get? key = preferences'.get? key) →
    wifiEntityJson preferences wifiSSID = wifiEntityJson preferences' wifiSSID

section Writes

variable {gson : Gson} {screen : MainScreen} {ssid key : String} {connected : Option String}

/-- The one preference that a connection can change. -/
theorem get?_onWiFiConnectSuccess_of_ne (h : key ≠ withoutQuotes ssid) :
    (screen.step gson (.onWiFiConnectSuccess (some ssid) connected)).preferences.get? key =
      screen.preferences.get? key := by
  unfold step
  split
  · rfl
  · dsimp only
    unfold MainScreen.onWiFiConnectSuccess
    split
    · rfl
    · rename_i stored wifiEntity hstored
      have hkey : stored = withoutQuotes ssid := by
        unfold MainScreen.stored at hstored
        simp only [Option.bind_eq_bind, Option.bind_eq_some_iff] at hstored
        obtain ⟨-, -, reported, hreported, entity, -, hpair⟩ := hstored
        cases hreported
        split at hpair
        · cases hpair
          rfl
        · cases hpair
      rw [hkey]
      exact screen.preferences.get?_put_of_ne _ h

/-- After a first attempt everything is there for a write. -/
theorem noSetting_of_writeKeepsSettings (h : WriteKeepsSettings gson ssid) :
    NoSetting (withoutQuotes ssid) := by
  intro setting hkey
  have hkeeps := h .empty
    (firstAttempt ⟨"home", "02:00:00:00:00:01", "[WPA2-PSK-CCMP][ESS]", 3⟩ "secret")
    (some ssid) setting
  rw [run_firstAttempt gson (by decide +kernel) (by decide +kernel) (by decide +kernel)] at hkeeps
  simp [step, MainScreen.onWiFiConnectSuccess, stored, Preferences.putString, hkey] at hkeeps

end Writes

section Lookups

variable {wifiSSID : String}

theorem lookupIgnoresSettings_of_noSetting (h : NoSetting wifiSSID) :
    LookupIgnoresSettings wifiSSID := by
  intro preferences preferences' hagree
  simp only [wifiEntityJson, Preferences.getString, hagree wifiSSID h]

/-- A setting that is there is read in place of a credential. -/
theorem noSetting_of_lookupIgnoresSettings (h : LookupIgnoresSettings wifiSSID) :
    NoSetting wifiSSID := by
  rintro setting rfl
  have hagree : ∀ key, NoSetting key →
      (LinkedMap.empty.put setting.key (PreferenceValue.string "[]")).get? key =
        LinkedMap.empty.get? key := by
    intro key hkey
    exact LinkedMap.get?_put_of_ne _ _ (hkey setting).symm
  have hsame := h _ _ hagree
  simp only [wifiEntityJson, Preferences.getString, LinkedMap.get?_put_self,
    LinkedMap.get?_empty] at hsame
  have htext : "[]" = "" := Except.ok.inj hsame
  revert htext
  decide

end Lookups

/-- For a network that is reported as `ssid` and listed as `wifiSSID`, neither the
write nor the lookup touches a setting exactly if neither name is that of one. -/
theorem settingsApart_iff (gson : Gson) (ssid wifiSSID : String) :
    (WriteKeepsSettings gson ssid ∧ LookupIgnoresSettings wifiSSID) ↔
      (NoSetting (withoutQuotes ssid) ∧ NoSetting wifiSSID) := by
  apply and_congr
  · constructor
    · exact noSetting_of_writeKeepsSettings
    · intro h preferences events connected setting
      exact get?_onWiFiConnectSuccess_of_ne (h setting)
  · constructor
    · exact noSetting_of_lookupIgnoresSettings
    · exact lookupIgnoresSettings_of_noSetting

/-- A network with the name of the stored servers. -/
theorem not_settingsApart_service :
    ¬ ∃ gson, WriteKeepsSettings gson "\"service\"" ∧ LookupIgnoresSettings "service" := by
  rintro ⟨gson, hwrite, -⟩
  apply noSetting_of_writeKeepsSettings hwrite .service
  decide +kernel

end WifiProject.App
