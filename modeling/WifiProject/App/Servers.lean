import WifiProject.Database.ProfileManager

/-!
Choosing a server. `ServersActivity` lists the stored servers and keeps the one
that is tapped by the name of its country; `VpnHomeActivity.connectAnnotation`
makes a profile of what was kept. Preferences hold the values whose JSON text the
app writes.
-/

namespace WifiProject.App

open Lib Database
open Storage (handle)

structure CountryBean where
  ip : String := "51.161.131.222"
  port : Int := 4391
  pwd : String := "t7I=X6YounKxhEaz"
  account : String := "chacha20-ietf-poly1305"
  country : String := "Austrilia"
  city : String := "Sydney"
  deriving DecidableEq, Repr

/-- Resources of `R.mipmap`. -/
inductive Mipmap where
  | fast | unitedstates | india | ireland | israel | italy | japan | koreasouth | netherlands
  | newzealand | norway | singapore | sweden | switzerland | taiwan | turkey
  | unitedarabemirates | unitedkingdom | australia | belgium | brazil | canada | france
  | germany | hongkong
  deriving DecidableEq, Repr

structure Country where
  id : Int := 0
  name : Option String := some "Super Fast Servers"
  host : String := "example.shadowsocks.org"
  remotePort : Int := 8388
  password : String := "u1rRWTssNv0p"
  account : String := "chacha20-ietf-poly1305"
  city : String := ""
  src : Option Mipmap := some .fast
  method : String := "aes-256-cfb"
  isChoose : Option Bool := some false
  route : String := "all"
  remoteDns : String := "dns.google"
  deriving DecidableEq, Repr

/-- `text.contains(part)`. -/
def containsText (part text : String) : Bool := decide (part.toList <:+: text.toList)

/-- The first part that the name of a country contains decides. -/
def flags : List (String × Mipmap) :=
  [("tates", .unitedstates), ("ndia", .india), ("reland", .ireland), ("srael", .israel),
    ("taly", .italy), ("apan", .japan), ("orea", .koreasouth), ("etherlands", .netherlands),
    ("ealand", .newzealand), ("orway", .norway), ("ingapore", .singapore), ("weden", .sweden),
    ("witzerland", .switzerland), ("aiwan", .taiwan), ("urkey", .turkey), ("weden", .sweden),
    ("mirates", .unitedarabemirates), ("ingdom", .unitedkingdom), ("ustralia", .australia),
    ("elgium", .belgium), ("razil", .brazil), ("anada", .canada), ("rance", .france),
    ("ermany", .germany), ("ong", .hongkong)]

/-- The cipher of a bean becomes `method`; `account` keeps its default. -/
def countryBeanToCountry (countryBean : CountryBean) : Country where
  name := some countryBean.country
  city := countryBean.city
  host := countryBean.ip
  password := countryBean.pwd
  method := countryBean.account
  remotePort := countryBean.port
  src := some (((flags.find? fun flag => containsText flag.1 countryBean.country).map Prod.snd).getD
    .fast)

def countryToProfile (country : Country) : Profile where
  name := country.name
  host := country.host
  method := country.account
  password := country.password
  remotePort := country.remotePort

/-- The preferences that choosing a server uses, and the field of
`VpnHomeActivity`. What is not stored is none. -/
structure VpnHome where
  service : List CountryBean
  smart : List String
  chooseCountry : Option Country
  connectingCountryBean : Option CountryBean
  connectedCountryBean : Option CountryBean
  countryBean : Option CountryBean
  deriving DecidableEq, Repr

/-- `item.isChoose = true` for what the name of the chosen country contains. -/
def markChosen (chosen : Option Country) (item : Country) : Country :=
  match chosen.bind Country.name, item.name with
  | some profileName, some name =>
      if containsText name profileName then { item with isChoose := some true } else item
  | _, _ => item

/-- The list of `ServersActivity`, with the smart entry first. -/
def setList (home : VpnHome) : List Country :=
  ({ id := 0, name := some "Super Fast Server" } :: home.service.map countryBeanToCountry).map
    (markChosen home.chooseCountry)

def isSuperFast (name : Option String) : Bool := name.any (containsText "Super Fast")

def saveConnectingCountryBean (event : Country) (home : VpnHome) : VpnHome :=
  if home.service = [] then home
  else if isSuperFast event.name then
    { home with connectingCountryBean := some { country := event.name.getD "" } }
  else
    home.service.foldl (fun home bean =>
      if event.name = some bean.country then { home with connectingCountryBean := some bean }
      else home) home

/-- A tap while the service is not running. -/
def onItemClick (country : Country) (home : VpnHome) : VpnHome :=
  if country.isChoose = some true then home else saveConnectingCountryBean country home

/-- `Core.switchProfile`. -/
def switchProfile {σ : Type} (id : Nat) : Code σ Unit := do
  let found ← ProfileManager.getProfile id
  let result ← found.elim (ProfileManager.createProfile {}) pure
  setProfileId result.id

def connectProfile (country : Country) : Code VpnHome Unit := do
  let profileNew ← ProfileManager.createProfile (countryToProfile country)
  switchProfile profileNew.id

/-- The servers in the smart cities. -/
def getFastSmart (home : VpnHome) : List CountryBean :=
  home.smart.flatMap fun city => home.service.filter fun bean => city = bean.city

/-- One of the first three, by `Random().nextInt`. -/
def pickFast (random : Nat) (home : VpnHome) : Option CountryBean :=
  (getFastSmart home)[random % min 3 (getFastSmart home).length]?

def connectFast (random : Nat) : Code VpnHome Unit := do
  let home ← Routine.read
  match pickFast random home with
  | none => pure ()
  | some fast => do
      let bean := { fast with country := "Super Fast Server" }
      Routine.modify fun home => { home with countryBean := some bean }
      connectProfile { countryBeanToCountry bean with src := some .fast }
      Routine.modify fun home => { home with connectingCountryBean := some bean }

/-- The field is not changed when nothing is stored. -/
def connectAnnotation (canStop : Bool) (random : Nat) : Code VpnHome Unit := do
  ProfileManager.clear
  let home ← Routine.read
  let stored := if canStop then home.connectedCountryBean else home.connectingCountryBean
  let countryBean := stored.or home.countryBean
  Routine.modify fun home => { home with countryBean := countryBean }
  match countryBean with
  | none => connectFast random
  | some bean =>
      if containsText "Super Fast" bean.country then connectFast random
      else do
        connectProfile (countryBeanToCountry bean)
        Routine.modify fun home => { home with connectingCountryBean := some bean }

/-- A tap on a country of the list, and then `connectAnnotation`. -/
def connectTapped (country : Country) (random : Nat) (home : VpnHome) (s : Storage) :
    Except Failure Unit × VpnHome × Storage :=
  let connect := connectAnnotation false random
  Routine.exec handle connect (onItemClick country home) s

/-- The current profile is that of the entry. -/
def ConnectsTo (entry : CountryBean) (run : Except Failure Unit × VpnHome × Storage) : Prop :=
  run.1 = .ok () ∧ ∃ row, run.2.2.table.find? run.2.2.profileId = some row ∧
    row.host = entry.ip ∧ row.remotePort = entry.port ∧ row.password = entry.pwd ∧
      row.method = entry.account

/-- The server that the name of an entry leads to: the last one of the country,
or some smart one. -/
def serverByName (home : VpnHome) (random : Nat) (entry : CountryBean) : Option CountryBean :=
  if containsText "Super Fast" entry.country then pickFast random home
  else (home.service.filter fun bean => entry.country = bean.country).getLast?

/-- The name leads to the address of the entry, and its cipher is the default. -/
def FoundByName (home : VpnHome) (random : Nat) (entry : CountryBean) : Prop :=
  entry.account = "chacha20-ietf-poly1305" ∧
    ∃ found, serverByName home random entry = some found ∧ found.ip = entry.ip ∧
      found.port = entry.port ∧ found.pwd = entry.pwd

section Tap

variable {home : VpnHome} {entry : CountryBean} {country : Country}

theorem markChosen_name (chosen : Option Country) (item : Country) :
    (markChosen chosen item).name = item.name := by
  unfold markChosen
  split
  · split <;> rfl
  · rfl

/-- An entry of the list has the name of its bean. -/
theorem name_of_setList {i : Nat} (hentry : home.service[i]? = some entry)
    (hcountry : (setList home)[i + 1]? = some country) : country.name = some entry.country := by
  rw [setList, List.map_cons, List.getElem?_cons_succ, List.getElem?_map, List.getElem?_map,
    hentry] at hcountry
  cases hcountry
  exact markChosen_name _ _

/-- The loop keeps the last server with the name. -/
theorem foldl_connecting (name : String) (service : List CountryBean) (home : VpnHome) :
    service.foldl (fun home bean =>
        if some name = some bean.country then { home with connectingCountryBean := some bean }
        else home) home =
      { home with
        connectingCountryBean := (service.filter fun bean => name = bean.country).getLast?.or
          home.connectingCountryBean } := by
  induction service generalizing home with
  | nil => rfl
  | cons bean service ih =>
      rw [List.foldl_cons, ih]
      by_cases hname : name = bean.country
      · rw [if_pos (congrArg some hname), List.filter_cons_of_pos (by simpa using hname),
          List.getLast?_cons]
        cases (service.filter fun bean => name = bean.country).getLast? <;> rfl
      · rw [if_neg (fun h => hname (Option.some.inj h)),
          List.filter_cons_of_neg (by simpa using hname)]

/-- What a tap leaves for `connectAnnotation`. -/
theorem onItemClick_eq {i : Nat} (hentry : home.service[i]? = some entry)
    (hcountry : (setList home)[i + 1]? = some country) (hfree : country.isChoose ≠ some true) :
    onItemClick country home =
      { home with
        connectingCountryBean :=
          if containsText "Super Fast" entry.country then some { country := entry.country }
          else (home.service.filter fun bean => entry.country = bean.country).getLast? } := by
  have hname := name_of_setList hentry hcountry
  have hmem := List.mem_of_getElem? hentry
  have hservice : home.service ≠ [] := by
    intro hnil
    simp [hnil] at hmem
  have hsuper : isSuperFast (some entry.country) = containsText "Super Fast" entry.country := rfl
  rw [onItemClick, if_neg hfree, saveConnectingCountryBean, if_neg hservice, hname, hsuper]
  split_ifs
  · rfl
  · rw [foldl_connecting]
    have hsome : entry ∈ home.service.filter fun bean => entry.country = bean.country :=
      List.mem_filter.mpr ⟨hmem, by simp⟩
    rw [List.getLast?_eq_some_getLast (List.ne_nil_of_mem hsome)]
    rfl

end Tap

section Connect

variable {m : VpnHome} {s : Storage}

/-- A created profile becomes the current one. -/
theorem exec_connectProfile (country : Country) (m : VpnHome) (hopen : s.isOpen = true) :
    ∃ file, Routine.exec handle (connectProfile country) m s =
      (.ok (), m, ((s.setTable (s.table.insert (createdObject s.table
        (countryToProfile country)))).setProfileId (s.table.sequence + 1)).setDeviceFile file) := by
  have hrow := s.table.find?_inserted (createdObject s.table (countryToProfile country))
  obtain ⟨file, hfile⟩ := exec_setProfileId m (s.setTable (s.table.insert
    (createdObject s.table (countryToProfile country)))) (s.table.sequence + 1) hopen
  refine ⟨file, ?_⟩
  simp only [connectProfile, switchProfile, Routine.exec_bind, exec_createProfile _ _ _ hopen,
    exec_getProfile, Storage.setTable_isOpen, hopen, if_true, Storage.setTable_table]
  have hid : (createdObject s.table (countryToProfile country)).id = s.table.sequence + 1 := rfl
  simp only [hid, hrow, Option.elim_some, Routine.exec_pure]
  exact hfile

/-- The profile of a bean has its address and the default cipher. -/
theorem connectsTo_bean_iff (bean entry : CountryBean) (src : Option Mipmap) (m' : VpnHome)
    (table : ProfileTable) (file : DeviceFile) :
    ConnectsTo entry (.ok (), m', ((s.setTable (table.insert (createdObject table
      (countryToProfile { countryBeanToCountry bean with src := src })))).setProfileId
        (table.sequence + 1)).setDeviceFile file) ↔
      entry.account = "chacha20-ietf-poly1305" ∧ bean.ip = entry.ip ∧ bean.port = entry.port ∧
        bean.pwd = entry.pwd := by
  have hrow := table.find?_inserted (createdObject table
    (countryToProfile { countryBeanToCountry bean with src := src }))
  unfold ConnectsTo
  simp only [true_and]
  constructor
  · rintro ⟨row, hfind, hhost, hport, hpassword, hmethod⟩
    have hsame := hrow.symm.trans hfind
    cases hsame
    exact ⟨hmethod.symm, hhost, hport, hpassword⟩
  · rintro ⟨haccount, hhost, hport, hpassword⟩
    exact ⟨_, hrow, hhost, hport, hpassword, haccount.symm⟩

/-- Without a smart server there is no profile at all. -/
theorem connectsTo_connectFast_iff (entry : CountryBean) (random : Nat) (hopen : s.isOpen = true)
    (hempty : s.table.rows = []) :
    ConnectsTo entry (Routine.exec handle (connectFast random) m s) ↔
      entry.account = "chacha20-ietf-poly1305" ∧ ∃ found, pickFast random m = some found ∧
        found.ip = entry.ip ∧ found.port = entry.port ∧ found.pwd = entry.pwd := by
  cases hpick : pickFast random m with
  | none =>
      simp [connectFast, Routine.exec_bind, hpick, ConnectsTo, ProfileTable.find?, hempty]
  | some fast =>
      obtain ⟨file, hexec⟩ := exec_connectProfile (s := s)
        { countryBeanToCountry { fast with country := "Super Fast Server" } with src := some .fast }
        { m with countryBean := some { fast with country := "Super Fast Server" } } hopen
      simp only [connectFast, Routine.exec_bind, Routine.exec_read, hpick, Routine.exec_modify, hexec]
      rw [connectsTo_bean_iff]
      simp

theorem last_country {home : VpnHome} {entry last : CountryBean}
    (h : (home.service.filter fun bean => entry.country = bean.country).getLast? = some last) :
    last.country = entry.country := by
  have hmem := List.mem_of_getLast? h
  simpa [eq_comm] using (List.mem_filter.mp hmem).2

/-- The tapped server is the one that is connected exactly if the name of its
country leads to its address, its cipher is the default one, and the database
can be opened. -/
theorem connectsTapped_iff (home : VpnHome) (s : Storage) (random i : Nat) (entry : CountryBean)
    (country : Country) (hentry : home.service[i]? = some entry)
    (hcountry : (setList home)[i + 1]? = some country) (hfree : country.isChoose ≠ some true) :
    ConnectsTo entry (connectTapped country random home s) ↔
      s.isOpen = true ∧ FoundByName home random entry := by
  cases hopen : s.isOpen with
  | false =>
      simp [connectTapped, connectAnnotation, ProfileManager.clear, Routine.exec_bind,
        Storage.onTable, hopen, ConnectsTo]
  | true =>
      have hopen' : ((s.setTable s.table.deleteAll).setDeviceFile .absent).isOpen = true := hopen
      rw [connectTapped, onItemClick_eq hentry hcountry hfree, FoundByName, serverByName]
      simp only [Routine.exec_bind, connectAnnotation, exec_clear _ _ hopen, Routine.exec_read,
        Routine.exec_modify, Bool.false_eq_true, if_false, true_and]
      by_cases hsuper : containsText "Super Fast" entry.country = true
      · simp only [hsuper, if_true, Option.some_or]
        rw [connectsTo_connectFast_iff entry random hopen' rfl]
        rfl
      · rw [if_neg hsuper, if_neg hsuper]
        have hsome : entry ∈ home.service.filter fun bean => entry.country = bean.country :=
          List.mem_filter.mpr ⟨List.mem_of_getElem? hentry, by simp⟩
        obtain ⟨last, hlast⟩ : ∃ last, (home.service.filter fun bean =>
            entry.country = bean.country).getLast? = some last :=
          ⟨_, List.getLast?_eq_some_getLast (List.ne_nil_of_mem hsome)⟩
        rw [hlast]
        simp only [Option.some_or, last_country hlast, hsuper, Bool.false_eq_true, if_false,
          Routine.exec_bind]
        obtain ⟨file, hexec⟩ := exec_connectProfile (s := (s.setTable
          s.table.deleteAll).setDeviceFile .absent) (countryBeanToCountry last)
          { home with connectingCountryBean := some last, countryBean := some last } hopen'
        rw [hexec]
        simp only [Routine.exec_modify]
        rw [connectsTo_bean_iff last entry (countryBeanToCountry last).src]
        simp

/-- A database without profiles. -/
def vpnStorage : Storage where
  isOpen := true
  table := .empty
  profileId := 0
  directBootAware := false
  deviceFile := .absent

def atlanta : CountryBean :=
  { ip := "31.13.213.195", country := "United States", city := "Atlanta" }

def dallas : CountryBean :=
  { ip := "31.13.213.196", country := "United States", city := "Dallas" }

/-- A home with these servers and nothing chosen. -/
def homeWith (service : List CountryBean) : VpnHome where
  service := service
  smart := []
  chooseCountry := none
  connectingCountryBean := none
  connectedCountryBean := none
  countryBean := none

theorem connectsTapped_dallas :
    ConnectsTo dallas (connectTapped (countryBeanToCountry dallas) 0 (homeWith [atlanta, dallas])
      vpnStorage) := by
  have hiff := connectsTapped_iff (homeWith [atlanta, dallas]) vpnStorage 0 1 dallas
    (countryBeanToCountry dallas) rfl (by decide +kernel) (by decide +kernel)
  apply hiff.mpr
  have hfound : serverByName (homeWith [atlanta, dallas]) 0 dallas = some dallas := by
    decide +kernel
  exact ⟨rfl, rfl, dallas, hfound, rfl, rfl, rfl⟩

/-- Tapping the one city connects to the other. -/
theorem not_connectsTapped_atlanta :
    (homeWith [atlanta, dallas]).service[0]? = some atlanta ∧
    (setList (homeWith [atlanta, dallas]))[1]? = some (countryBeanToCountry atlanta) ∧
    (countryBeanToCountry atlanta).isChoose ≠ some true ∧
    ¬ ConnectsTo atlanta (connectTapped (countryBeanToCountry atlanta) 0
      (homeWith [atlanta, dallas]) vpnStorage) := by
  refine ⟨rfl, by decide +kernel, by decide +kernel, ?_⟩
  rintro ⟨-, row, hrow, hhost, -⟩
  have hother : ((connectTapped (countryBeanToCountry atlanta) 0 (homeWith [atlanta, dallas])
      vpnStorage).2.2.table.find? (connectTapped (countryBeanToCountry atlanta) 0
      (homeWith [atlanta, dallas]) vpnStorage).2.2.profileId).map Profile.host =
        some dallas.ip := by decide +kernel
  rw [hrow, Option.map_some, hhost] at hother
  revert hother
  decide

end Connect

end WifiProject.App
