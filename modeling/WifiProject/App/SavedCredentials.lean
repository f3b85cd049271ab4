import WifiProject.App.MainScreen
import WifiProject.Lib.Runs

/-!
Which credentials are stored. The entity that is stored is the object of the last
attempt, whatever network the system has connected to, and a tap on that object
brings back the password that was stored before.
-/

namespace WifiProject.App

open Lib MainScreen

/-- A stored entity has the name it is stored under and the password that was
last entered for that name. -/
def Belongs (entered : List (String × String)) (key : String) (entity : WIFIEntity) : Prop :=
  entity.wifiSSID = key ∧ entity.password = entered.lookup key

def CredentialsBelong (gson : Gson) (preferences : Preferences) (events : List MainEvent) : Prop :=
  ∀ before event after, events = before ++ event :: after →
    ∀ key entity, (run gson (start preferences) before).storedBy event = some (key, entity) →
      Belongs (run gson (start preferences) before).entered key entity

/-- A tap on the network of the last attempt finds another password than the one
that was entered. -/
def Reverts (gson : Gson) (screen : MainScreen) : MainEvent → Prop
  | .onItemClick position isWifiEnabled isOpen =>
      screen.failure = none ∧ isWifiEnabled = true ∧ isOpen = false ∧
        ∃ i wifiInfo restored, screen.wifiEntity = some i ∧ screen.wifiData[position]? = some i ∧
          screen.entities[i]? = some wifiInfo ∧ isSecured wifiInfo.capabilities = true ∧
          restorePassword gson screen.preferences wifiInfo = .ok restored ∧
          restored.password ≠ wifiInfo.password
  | _ => False

/-- A password is entered. -/
def Confirms (screen : MainScreen) : MainEvent → Prop
  | .connectWifi dialog pwd =>
      screen.failure = none ∧ pwd.isEmpty = false ∧
        ∃ i wifiInfo, screen.dialogs[dialog]? = some i ∧ screen.entities[i]? = some wifiInfo
  | _ => False

/-- Another password was brought back since one was entered. -/
inductive Reverted (gson : Gson) (preferences : Preferences) : List MainEvent → Prop where
  | tap {events event} (h : Reverts gson (run gson (start preferences) events) event) :
      Reverted gson preferences (events ++ [event])
  | later {events event} (h : Reverted gson preferences events)
      (hevent : ¬ Confirms (run gson (start preferences) events) event) :
      Reverted gson preferences (events ++ [event])

/-- What is stored comes from a connection to the network for which a password
was entered last, and that password has not been replaced since. -/
def OwnConnections (gson : Gson) (preferences : Preferences) (events : List MainEvent) : Prop :=
  ∀ before event after, events = before ++ event :: after →
    ∀ key entity, (run gson (start preferences) before).storedBy event = some (key, entity) →
      (run gson (start preferences) before).entered.head?.map Prod.fst = some key ∧
        ¬ Reverted gson preferences before

section Restoring

variable {gson : Gson} {preferences : Preferences} {wifiInfo restored : WIFIEntity}

theorem WIFIEntity.withStored_eq (wifiInfo : WIFIEntity) (stored : Option Credential) :
    wifiInfo.withStored stored =
      { wifiInfo with password := (wifiInfo.withStored stored).password } := by
  cases stored with
  | none => rfl
  | some stored =>
      unfold WIFIEntity.withStored
      dsimp only
      split <;> rfl

theorem WIFIEntity.withStored_withStored (wifiInfo : WIFIEntity) (stored : Option Credential) :
    (wifiInfo.withStored stored).withStored stored = wifiInfo.withStored stored := by
  cases stored with
  | none => rfl
  | some stored =>
      simp only [WIFIEntity.withStored]
      by_cases h : some wifiInfo.wifiSSID = stored.wifiSSID
      · simp [h]
      · simp [h]

/-- Only the password changes, and restoring it again changes nothing. -/
theorem restorePassword_spec (h : restorePassword gson preferences wifiInfo = .ok restored) :
    restored = { wifiInfo with password := restored.password } ∧
      restorePassword gson preferences restored = .ok restored := by
  unfold restorePassword at h ⊢
  cases hstored : storedCredential gson preferences wifiInfo.wifiSSID with
  | error failure =>
      rw [hstored] at h
      cases h
  | ok stored =>
      rw [hstored] at h
      cases h
      have heq := wifiInfo.withStored_eq stored
      have hssid : (wifiInfo.withStored stored).wifiSSID = wifiInfo.wifiSSID := by rw [heq]
      refine ⟨heq, ?_⟩
      rw [hssid, hstored]
      exact congrArg Except.ok (wifiInfo.withStored_withStored stored)

end Restoring

/-- What an event can do to the objects, to `Constant.wifiEntity`, and to what is
stored. -/
inductive Change (gson : Gson) (screen : MainScreen) (event : MainEvent) : MainScreen → Prop where
  /-- At most new objects are made. -/
  | keep {screen' : MainScreen} (added : List WIFIEntity)
      (hreverts : ¬ Reverts gson screen event) (hconfirms : ¬ Confirms screen event)
      (hstored : screen.storedBy event = none)
      (hentities : screen'.entities = screen.entities ++ added)
      (hwifiEntity : screen'.wifiEntity = screen.wifiEntity)
      (hentered : screen'.entered = screen.entered)
      (hpreferences : screen'.preferences = screen.preferences) : Change gson screen event screen'
  /-- A tap brings back a password. -/
  | restore {screen' : MainScreen} (i : Nat) (wifiInfo restored : WIFIEntity)
      (hwifiInfo : screen.entities[i]? = some wifiInfo)
      (hrestored : restorePassword gson screen.preferences wifiInfo = .ok restored)
      (hreverts : Reverts gson screen event ↔
        screen.wifiEntity = some i ∧ restored.password ≠ wifiInfo.password)
      (hconfirms : ¬ Confirms screen event)
      (hstored : screen.storedBy event = none)
      (hentities : screen'.entities = screen.entities.set i restored)
      (hwifiEntity : screen'.wifiEntity = screen.wifiEntity)
      (hentered : screen'.entered = screen.entered)
      (hpreferences : screen'.preferences = screen.preferences) : Change gson screen event screen'
  /-- A password is entered. -/
  | confirm {screen' : MainScreen} (i : Nat) (wifiInfo : WIFIEntity) (pwd : String)
      (hwifiInfo : screen.entities[i]? = some wifiInfo)
      (hreverts : ¬ Reverts gson screen event) (hconfirms : Confirms screen event)
      (hentities : screen'.entities =
        screen.entities.set i { wifiInfo with password := some pwd })
      (hwifiEntity : screen'.wifiEntity = some i)
      (hentered : screen'.entered = (wifiInfo.wifiSSID, pwd) :: screen.entered) :
      Change gson screen event screen'
  /-- The entity of the last attempt is stored. -/
  | store {screen' : MainScreen} (key : String) (i : Nat) (wifiEntity : WIFIEntity)
      (hi : screen.wifiEntity = some i) (hentity : screen.entities[i]? = some wifiEntity)
      (hstored : screen.storedBy event = some (key, wifiEntity))
      (hreverts : ¬ Reverts gson screen event) (hconfirms : ¬ Confirms screen event)
      (hentities : screen'.entities = screen.entities)
      (hwifiEntity : screen'.wifiEntity = screen.wifiEntity)
      (hentered : screen'.entered = screen.entered) : Change gson screen event screen'

section Steps

variable (gson : Gson) (screen : MainScreen)

/-- An event that only touches other fields. -/
theorem Change.of_unchanged {gson : Gson} {screen screen' : MainScreen} {event : MainEvent}
    (hreverts : ¬ Reverts gson screen event) (hconfirms : ¬ Confirms screen event)
    (hstored : screen.storedBy event = none)
    (hentities : screen'.entities = screen.entities)
    (hwifiEntity : screen'.wifiEntity = screen.wifiEntity)
    (hentered : screen'.entered = screen.entered)
    (hpreferences : screen'.preferences = screen.preferences) :
    Change gson screen event screen' := by
  apply Change.keep [] hreverts hconfirms hstored _ hwifiEntity hentered hpreferences
  rw [hentities, List.append_nil]

theorem change_failed (event : MainEvent) (h : screen.failure ≠ none) :
    Change gson screen event screen := by
  apply Change.of_unchanged
  · cases event <;> simp [Reverts, h]
  · cases event <;> simp [Confirms, h]
  · have hsome : screen.failure.isSome = true := Option.isSome_iff_ne_none.mpr h
    cases event <;> simp [storedBy, hsome]
  all_goals rfl

/-- A tap that opens no dialog. -/
theorem change_of_noDialog {screen' : MainScreen} (position : Nat) (isWifiEnabled isOpen : Bool)
    (hclosed : ∀ i wifiInfo restored, screen.wifiData[position]? = some i →
      screen.entities[i]? = some wifiInfo → isWifiEnabled = true → isOpen = false →
      isSecured wifiInfo.capabilities = true →
      restorePassword gson screen.preferences wifiInfo ≠ .ok restored)
    (hentities : screen'.entities = screen.entities)
    (hwifiEntity : screen'.wifiEntity = screen.wifiEntity)
    (hentered : screen'.entered = screen.entered)
    (hpreferences : screen'.preferences = screen.preferences) :
    Change gson screen (.onItemClick position isWifiEnabled isOpen) screen' := by
  apply Change.of_unchanged _ _ rfl hentities hwifiEntity hentered hpreferences
  · rintro ⟨-, henabled, hopen, i, wifiInfo, restored, -, hi, hwifiInfo, hsecured, hrestored, -⟩
    exact hclosed i wifiInfo restored hi hwifiInfo henabled hopen hsecured hrestored
  · exact id

/-- A tap on a known object. -/
theorem change_tap (hfailure : screen.failure = none) {position i : Nat} {wifiInfo : WIFIEntity}
    (isWifiEnabled isOpen : Bool) (hi : screen.wifiData[position]? = some i)
    (hwifiInfo : screen.entities[i]? = some wifiInfo) :
    Change gson screen (.onItemClick position isWifiEnabled isOpen)
      (screen.onItemClick gson isWifiEnabled isOpen i wifiInfo) := by
  have hunique : ∀ {j wifiInfo'}, screen.wifiData[position]? = some j →
      screen.entities[j]? = some wifiInfo' → wifiInfo' = wifiInfo := by
    intro j wifiInfo' hj hwifiInfo'
    rw [hi] at hj
    cases hj
    rw [hwifiInfo] at hwifiInfo'
    exact (Option.some.inj hwifiInfo').symm
  unfold MainScreen.onItemClick
  split
  · rename_i hdisabled
    apply change_of_noDialog
    · intro _ _ _ _ _ henabled
      simp [henabled] at hdisabled
    all_goals rfl
  rename_i henabled
  dsimp only
  split
  · rename_i hopened
    apply change_of_noDialog
    · intro _ _ _ _ _ _ hopen
      simp [hopen] at hopened
    all_goals rfl
  rename_i hopen
  split
  · rename_i hsecured
    split
    · rename_i hfail
      apply change_of_noDialog
      · intro j wifiInfo' restored hj hwifiInfo' _ _ _ hrestored
        rw [hunique hj hwifiInfo', hfail] at hrestored
        cases hrestored
      all_goals rfl
    · rename_i restored hrestored
      apply Change.restore i wifiInfo restored hwifiInfo hrestored
      · constructor
        · rintro ⟨-, -, -, j, wifiInfo', restored', hlast, hj, hwifiInfo', -, hok, hne⟩
          cases hunique hj hwifiInfo'
          rw [hi] at hj
          cases hj
          rw [hrestored] at hok
          cases hok
          exact ⟨hlast, hne⟩
        · rintro ⟨hlast, hne⟩
          have henabled' : isWifiEnabled = true := by simpa using henabled
          have hopen' : isOpen = false := by simpa using hopen
          exact ⟨hfailure, henabled', hopen', i, wifiInfo, restored, hlast, hi, hwifiInfo,
            hsecured, hrestored, hne⟩
      · exact id
      all_goals rfl
  · rename_i hplain
    apply change_of_noDialog
    · intro j wifiInfo' restored hj hwifiInfo' _ _ hsecured
      rw [hunique hj hwifiInfo'] at hsecured
      exact absurd hsecured hplain
    all_goals rfl

theorem change_onItemClick (hfailure : screen.failure = none) (position : Nat)
    (isWifiEnabled isOpen : Bool) :
    Change gson screen (.onItemClick position isWifiEnabled isOpen)
      (screen.step gson (.onItemClick position isWifiEnabled isOpen)) := by
  simp only [step, hfailure, Option.isSome_none, Bool.false_eq_true, if_false]
  cases hi : screen.wifiData[position]? with
  | none =>
      apply change_of_noDialog
      · intro i wifiInfo restored hsome
        rw [hi] at hsome
        cases hsome
      all_goals rfl
  | some i =>
      cases hwifiInfo : screen.entities[i]? with
      | none =>
          simp only [Option.bind_some, hwifiInfo, Option.map_none]
          apply change_of_noDialog
          · intro j wifiInfo restored hsome hj
            rw [hi] at hsome
            cases hsome
            rw [hwifiInfo] at hj
            cases hj
          all_goals rfl
      | some wifiInfo =>
          simp only [Option.bind_some, hwifiInfo, Option.map_some]
          exact change_tap gson screen hfailure isWifiEnabled isOpen hi hwifiInfo

/-- A dialog that does nothing. -/
theorem change_of_not_confirms {dialog : Nat} {pwd : String}
    (h : ¬ Confirms screen (.connectWifi dialog pwd)) :
    Change gson screen (.connectWifi dialog pwd) screen := by
  apply Change.of_unchanged id h rfl
  all_goals rfl

theorem change_connectWifi (hfailure : screen.failure = none) (dialog : Nat) (pwd : String) :
    Change gson screen (.connectWifi dialog pwd)
      (screen.step gson (.connectWifi dialog pwd)) := by
  simp only [step, hfailure, Option.isSome_none, Bool.false_eq_true, if_false]
  unfold MainScreen.connectWifi
  split
  · rename_i hempty
    apply change_of_not_confirms
    rintro ⟨-, hpwd, -⟩
    rw [hempty] at hpwd
    cases hpwd
  · rename_i hpwd
    split
    · rename_i hnone
      apply change_of_not_confirms
      rintro ⟨-, -, i, wifiInfo, hi, -⟩
      rw [hnone] at hi
      cases hi
    · rename_i i hi
      split
      · rename_i hnone
        apply change_of_not_confirms
        rintro ⟨-, -, j, wifiInfo, hj, hwifiInfo⟩
        rw [hi] at hj
        cases hj
        rw [hnone] at hwifiInfo
        cases hwifiInfo
      · rename_i wifiInfo hwifiInfo
        apply Change.confirm i wifiInfo pwd hwifiInfo id
        · exact ⟨hfailure, by simpa using hpwd, i, wifiInfo, hi, hwifiInfo⟩
        all_goals rfl

/-- What is stored is the object of the last attempt. -/
theorem exists_attempt_of_stored {ssid connected : Option String} {key : String}
    {wifiEntity : WIFIEntity} (h : screen.stored ssid connected = some (key, wifiEntity)) :
    ∃ i, screen.wifiEntity = some i ∧ screen.entities[i]? = some wifiEntity := by
  unfold stored at h
  simp only [Option.bind_eq_bind, Option.bind_eq_some_iff] at h
  obtain ⟨-, -, reported, -, entity, ⟨i, hi, hentity⟩, hkey⟩ := h
  split at hkey
  · cases hkey
    exact ⟨i, hi, hentity⟩
  · cases hkey

theorem exists_attempt_of_storedBy {screen : MainScreen} {event : MainEvent} {key : String}
    {wifiEntity : WIFIEntity} (h : screen.storedBy event = some (key, wifiEntity)) :
    ∃ i, screen.wifiEntity = some i ∧ screen.entities[i]? = some wifiEntity := by
  cases event with
  | onWiFiConnectSuccess ssid connected =>
      unfold storedBy at h
      dsimp only at h
      split at h
      · cases h
      · exact exists_attempt_of_stored screen h
  | _ => cases h

theorem change_onWiFiConnectSuccess (hfailure : screen.failure = none)
    (ssid connected : Option String) :
    Change gson screen (.onWiFiConnectSuccess ssid connected)
      (screen.step gson (.onWiFiConnectSuccess ssid connected)) := by
  have hby : screen.storedBy (.onWiFiConnectSuccess ssid connected) =
      screen.stored ssid connected := by
    simp [storedBy, hfailure]
  simp only [step, hfailure, Option.isSome_none, Bool.false_eq_true, if_false]
  unfold MainScreen.onWiFiConnectSuccess
  split
  · rename_i hnone
    apply Change.of_unchanged id id (hby.trans hnone)
    all_goals rfl
  · rename_i key wifiEntity hsome
    obtain ⟨i, hi, hentity⟩ := exists_attempt_of_stored screen hsome
    apply Change.store key i wifiEntity hi hentity (hby.trans hsome) id id
    all_goals rfl

theorem change_step (event : MainEvent) : Change gson screen event (screen.step gson event) := by
  by_cases hfailure : screen.failure = none
  · cases event with
    | onCreate =>
        apply Change.of_unchanged id id rfl
        all_goals simp [step, hfailure, MainScreen.onCreate]
    | onScanResults scanResults connected =>
        apply Change.keep (listed connected scanResults) id id rfl
        all_goals simp [step, hfailure, reFreshData]
    | onItemClick position isWifiEnabled isOpen =>
        exact change_onItemClick gson screen hfailure position isWifiEnabled isOpen
    | connectWifi dialog pwd => exact change_connectWifi gson screen hfailure dialog pwd
    | cancel dialog =>
        apply Change.of_unchanged id id rfl
        all_goals simp [step, hfailure]
    | onWiFiConnectSuccess ssid connected =>
        exact change_onWiFiConnectSuccess gson screen hfailure ssid connected
  · have hstep : screen.step gson event = screen := by
      unfold step
      rw [if_pos (Option.isSome_iff_ne_none.mpr hfailure)]
    rw [hstep]
    exact change_failed gson screen event hfailure

end Steps

/-- The object of the last attempt carries the password that was entered, unless
another one has been brought back: then it carries the stored one. -/
structure Attempt (gson : Gson) (reverted : Prop) (screen : MainScreen) (wifiEntity : WIFIEntity)
    (pwd : String) : Prop where
  entered : screen.entered.head? = some (wifiEntity.wifiSSID, pwd)
  fresh : ¬ reverted → wifiEntity.password = some pwd
  stale : reverted → wifiEntity.password ≠ some pwd ∧
    restorePassword gson screen.preferences wifiEntity = .ok wifiEntity

def Attempted (gson : Gson) (reverted : Prop) (screen : MainScreen) : Prop :=
  ∀ i, screen.wifiEntity = some i → ∃ wifiEntity pwd,
    screen.entities[i]? = some wifiEntity ∧ Attempt gson reverted screen wifiEntity pwd

section Attempts

variable {gson : Gson} {screen : MainScreen} {reverted : Prop} {wifiEntity : WIFIEntity}
  {pwd key : String}

theorem lookup_of_head? {entered : List (String × String)}
    (h : entered.head? = some (key, pwd)) : entered.lookup key = some pwd := by
  cases entered with
  | nil => cases h
  | cons first rest =>
      cases h
      simp

/-- Storing is right exactly for the network of the last attempt, and if no other
password has been brought back. -/
theorem Attempt.belongs_iff (h : Attempt gson reverted screen wifiEntity pwd) :
    Belongs screen.entered key wifiEntity ↔
      screen.entered.head?.map Prod.fst = some key ∧ ¬ reverted := by
  rw [h.entered, Option.map_some, Option.some.injEq]
  constructor
  · rintro ⟨hname, hpassword⟩
    subst hname
    rw [lookup_of_head? h.entered] at hpassword
    apply And.intro rfl
    intro hreverted
    exact (h.stale hreverted).1 hpassword
  · rintro ⟨hname, hfresh⟩
    apply And.intro hname
    rw [h.fresh hfresh, ← hname, lookup_of_head? h.entered]

/-- After an event that neither enters a password nor brings one back. -/
theorem Attempt.of_eq {screen' : MainScreen} {reverted' : Prop}
    (h : Attempt gson reverted screen wifiEntity pwd) (hreverted : reverted' ↔ reverted)
    (hentered : screen'.entered = screen.entered)
    (hpreferences : screen'.preferences = screen.preferences ∨ ¬ reverted) :
    Attempt gson reverted' screen' wifiEntity pwd := by
  constructor
  · rw [hentered]
    exact h.entered
  · intro hfresh
    exact h.fresh (mt hreverted.mpr hfresh)
  · intro hstale
    have hold := hreverted.mp hstale
    rcases hpreferences with hsame | hfresh
    · rw [hsame]
      exact h.stale hold
    · exact absurd hold hfresh

theorem Attempt.restore {screen' : MainScreen} {restored : WIFIEntity}
    (h : Attempt gson reverted screen wifiEntity pwd)
    (hrestored : restorePassword gson screen.preferences wifiEntity = .ok restored)
    (hentered : screen'.entered = screen.entered)
    (hpreferences : screen'.preferences = screen.preferences) :
    Attempt gson (restored.password ≠ wifiEntity.password ∨ reverted) screen' restored pwd := by
  obtain ⟨heq, hagain⟩ := restorePassword_spec hrestored
  constructor
  · rw [hentered, h.entered, heq]
  · intro hfresh
    obtain ⟨hsame, hold⟩ := not_or.mp hfresh
    rw [not_not.mp hsame]
    exact h.fresh hold
  · intro hstale
    rw [hpreferences]
    apply And.intro _ hagain
    by_cases hold : reverted
    · -- the stored password is there already
      have hstays := (h.stale hold).2
      rw [hrestored] at hstays
      cases hstays
      exact (h.stale hold).1
    · have hchanged := hstale.resolve_right hold
      rw [h.fresh hold] at hchanged
      exact hchanged

theorem Attempted.step (h : Attempted gson reverted screen) (event : MainEvent)
    (hbelongs : ∀ key entity, screen.storedBy event = some (key, entity) →
      Belongs screen.entered key entity) :
    Attempted gson (Reverts gson screen event ∨ reverted ∧ ¬ Confirms screen event)
      (screen.step gson event) := by
  intro i hi
  cases change_step gson screen event with
  | keep added hreverts hconfirms _ hentities hwifiEntity hentered hpreferences =>
      rw [hwifiEntity] at hi
      obtain ⟨wifiEntity, pwd, hentity, hattempt⟩ := h i hi
      have hlt := (List.getElem?_eq_some_iff.mp hentity).1
      refine ⟨wifiEntity, pwd, ?_, ?_⟩
      · rw [hentities, List.getElem?_append_left hlt, hentity]
      · apply hattempt.of_eq _ hentered (Or.inl hpreferences)
        simp [hreverts, hconfirms]
  | restore j wifiInfo restored hwifiInfo hrestored hreverts hconfirms _ hentities hwifiEntity
      hentered hpreferences =>
      rw [hwifiEntity] at hi
      obtain ⟨wifiEntity, pwd, hentity, hattempt⟩ := h i hi
      by_cases hij : j = i
      · subst hij
        rw [hwifiInfo] at hentity
        cases hentity
        have hlt := (List.getElem?_eq_some_iff.mp hwifiInfo).1
        refine ⟨restored, pwd, ?_, ?_⟩
        · rw [hentities, List.getElem?_set_self hlt]
        · have hrestore := hattempt.restore hrestored hentered hpreferences
          apply hrestore.of_eq _ rfl (Or.inl rfl)
          simp [hreverts, hi, hconfirms]
      · refine ⟨wifiEntity, pwd, ?_, ?_⟩
        · rw [hentities, List.getElem?_set_ne hij, hentity]
        · apply hattempt.of_eq _ hentered (Or.inl hpreferences)
          have hother : screen.wifiEntity ≠ some j := by
            rw [hi, ne_eq, Option.some.injEq]
            exact Ne.symm hij
          simp [hreverts, hother, hconfirms]
  | confirm j wifiInfo pwd hwifiInfo hreverts hconfirms hentities hwifiEntity hentered =>
      rw [hwifiEntity] at hi
      cases hi
      have hlt := (List.getElem?_eq_some_iff.mp hwifiInfo).1
      refine ⟨{ wifiInfo with password := some pwd }, pwd, ?_, ?_⟩
      · rw [hentities, List.getElem?_set_self hlt]
      · constructor
        · rw [hentered]
          rfl
        · intro _
          rfl
        · intro hstale
          simp [hreverts, hconfirms] at hstale
  | store key j wifiEntity hj hentity hstored hreverts hconfirms hentities hwifiEntity hentered =>
      rw [hwifiEntity] at hi
      obtain ⟨entity, pwd, hsame, hattempt⟩ := h i hi
      have hij : j = i := Option.some.inj (hj.symm.trans hi)
      subst hij
      have hentityEq : wifiEntity = entity := Option.some.inj (hentity.symm.trans hsame)
      subst hentityEq
      have hfresh := (hattempt.belongs_iff.mp (hbelongs key wifiEntity hstored)).2
      refine ⟨wifiEntity, pwd, ?_, ?_⟩
      · rw [hentities, hentity]
      · apply hattempt.of_eq _ hentered (Or.inr hfresh)
        simp [hreverts, hconfirms]

end Attempts

section Runs

variable {gson : Gson} {preferences : Preferences} {events : List MainEvent} {event : MainEvent}

theorem run_concat (screen : MainScreen) (events : List MainEvent) (event : MainEvent) :
    run gson screen (events ++ [event]) = (run gson screen events).step gson event := by
  rw [run, List.foldl_append]
  rfl

theorem reverted_concat_iff :
    Reverted gson preferences (events ++ [event]) ↔
      Reverts gson (run gson (start preferences) events) event ∨
        Reverted gson preferences events ∧
          ¬ Confirms (run gson (start preferences) events) event := by
  constructor
  · intro h
    generalize hconcat : events ++ [event] = all at h
    cases h with
    | tap h =>
        obtain ⟨rfl, hevent⟩ := List.append_inj' hconcat rfl
        cases hevent
        exact Or.inl h
    | later h hevent =>
        obtain ⟨rfl, heq⟩ := List.append_inj' hconcat rfl
        cases heq
        exact Or.inr ⟨h, hevent⟩
  · rintro (h | ⟨h, hevent⟩)
    · exact .tap h
    · exact .later h hevent

theorem attempted_of_belong (h : CredentialsBelong gson preferences events) :
    Attempted gson (Reverted gson preferences events) (run gson (start preferences) events) := by
  induction events using List.reverseRecOn with
  | nil =>
      intro i hi
      cases hi
  | append_singleton events event ih =>
      obtain ⟨hfront, hlast⟩ := forall_split_concat_iff.mp h
      rw [run_concat, reverted_concat_iff]
      exact (ih hfront).step event hlast

/-- Every credential that is stored in a run belongs to its network exactly if
all that is stored comes from the network of the last attempt, with no other
password brought back in between. -/
theorem credentialsBelong_iff_ownConnections (gson : Gson) (preferences : Preferences)
    (events : List MainEvent) :
    CredentialsBelong gson preferences events ↔ OwnConnections gson preferences events := by
  induction events using List.reverseRecOn with
  | nil =>
      apply iff_of_true
      · exact forall_split_nil
      · exact forall_split_nil
  | append_singleton events event ih =>
      unfold CredentialsBelong OwnConnections at ih ⊢
      rw [forall_split_concat_iff, forall_split_concat_iff, ← ih]
      apply and_congr_right
      intro hfront
      apply forall₃_congr
      intro key entity hstored
      obtain ⟨i, hi, hentity⟩ := exists_attempt_of_storedBy hstored
      obtain ⟨wifiEntity, pwd, hsame, hattempt⟩ := attempted_of_belong hfront i hi
      rw [hentity] at hsame
      cases hsame
      exact hattempt.belongs_iff

/-- A password is entered for one network and the system connects to another. -/
theorem not_credentialsBelong_fallback :
    ¬ ∃ gson, CredentialsBelong gson LinkedMap.empty
      (firstAttempt ⟨"home", "02:00:00:00:00:01", "[WPA2-PSK-CCMP][ESS]", 3⟩ "secret" ++
        [.onWiFiConnectSuccess (some "\"office\"") (some "\"office\"")]) := by
  rintro ⟨gson, h⟩
  have hlast := (forall_split_concat_iff.mp h).2 "office"
  rw [run_firstAttempt gson (by decide +kernel) (by decide +kernel) (by decide +kernel)] at hlast
  have hkey : withoutQuotes "\"office\"" = "office" := by decide +kernel
  have hbelongs := hlast _ (by simp [storedBy, stored, hkey]; rfl)
  have hname : "home" = "office" := hbelongs.1
  revert hname
  decide

end Runs

end WifiProject.App
