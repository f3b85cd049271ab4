import WifiProject.Preference.RoomPreferenceDataStore

/-!
The ports that `ss-local`, `tun2socks` and `redsocks` are told of, each from a
read of its own. A number in the store is taken as it is and written back as
text; a text is checked, so that the next read may give something else.
-/

namespace WifiProject.Preference

open Lib
open Rfc2396 (bytesOf)

namespace Key

def persistAcrossReboot : String := "isAutoConnect"

end Key

structure LocalPort where
  key : String
  default : Int
  deriving DecidableEq, Repr

def portProxy : LocalPort := ⟨"portProxy", 1080⟩
def portLocalDns : LocalPort := ⟨"portLocalDns", 5450⟩
def portTransproxy : LocalPort := ⟨"portTransproxy", 8200⟩

section Reading

variable {L : Type} [DecidableEq L] (decode : List UInt8 → String) (userIndex : Int)

def getLocalPort (port : LocalPort) (store : RoomPreferenceDataStore L) :
    Except StoreFailure (Int × RoomPreferenceDataStore L) :=
  match store.rows.getInt port.key with
  | .error failure => .error failure
  | .ok (some value) =>
      .ok (value.toInt, store.step (.putString port.key (some (toString value.toInt))))
  | .ok none =>
      .ok (parsePort (store.rows.getString decode port.key) (port.default + userIndex) 1025, store)

def setLocalPort (port : LocalPort) (value : Int) (store : RoomPreferenceDataStore L) :
    RoomPreferenceDataStore L :=
  store.step (.putString port.key (some (toString value)))

def initPort (store : RoomPreferenceDataStore L) (port : LocalPort) :
    Except StoreFailure (RoomPreferenceDataStore L) :=
  if store.rows.getString decode port.key = none then
    (getLocalPort decode userIndex port store).map fun read => setLocalPort port read.1 read.2
  else .ok store

def initPersistAcrossReboot (enabled : Bool) (store : RoomPreferenceDataStore L) :
    Except StoreFailure (RoomPreferenceDataStore L) :=
  (store.rows.getBoolean Key.persistAcrossReboot).map fun value =>
    if value = none then store.step (.putBoolean Key.persistAcrossReboot (some enabled)) else store

/-- `enabled`: the receiver for the end of booting is. -/
def initGlobal (enabled : Bool) (store : RoomPreferenceDataStore L) :
    Except StoreFailure (RoomPreferenceDataStore L) := do
  let store ← initPersistAcrossReboot enabled store
  [portProxy, portLocalDns, portTransproxy].foldlM (initPort decode userIndex) store

/-- The port in the end. -/
def chosenPort (port : LocalPort) : Option Value → Int
  | some (.string text) => parsePort (some text) (port.default + userIndex) 1025
  | some (.long number) =>
      if 1025 ≤ (number.setWidth 32).toInt ∧ (number.setWidth 32).toInt ≤ 65535 then
        (number.setWidth 32).toInt
      else port.default + userIndex
  | _ => port.default + userIndex

end Reading

/-! ## Texts -/

theorem parsePort_toString_default (value : Int) :
    parsePort (some (toString value)) value 1025 = value := by
  simp only [parsePort, Option.bind_some, Decimal.parseInt_toString]
  split_ifs <;> simp

/-- What is written back of a number is checked when it is read. -/
theorem parsePort_toString_toInt (number : BitVec 32) (default : Int) :
    parsePort (some (toString number.toInt)) default 1025 =
      if 1025 ≤ number.toInt ∧ number.toInt ≤ 65535 then number.toInt else default := by
  have hlow := number.le_toInt
  have hhigh := number.toInt_lt
  have hrange : -2147483648 ≤ number.toInt ∧ number.toInt < 2147483648 :=
    ⟨by simpa using hlow, by simpa using hhigh⟩
  simp only [parsePort, Option.bind_some, Decimal.parseInt_toString, if_pos hrange,
    Option.getD_some]
  split_ifs <;> omega

theorem parsePort_none (default min : Int) : parsePort none default min = default := by
  simp only [parsePort, Option.bind_none, Option.getD_none, ite_self]

/-! ## One port -/

section Ports

variable {L : Type} [DecidableEq L] {decode : List UInt8 → String} {userIndex : Int}
  {store : RoomPreferenceDataStore L} {port : LocalPort} {value : Option Value}

theorem getLocalPort_of_long {number : BitVec 64}
    (h : store.rows.get? port.key = (some (Value.long number)).map Value.pair) :
    getLocalPort decode userIndex port store = .ok ((number.setWidth 32).toInt,
      setLocalPort port (number.setWidth 32).toInt store) := by
  rw [getLocalPort, PreferenceStore.getInt_of_row h]
  rfl

theorem getLocalPort_of_not_long (userIndex : Int) (hdecode : ∀ text, decode (bytesOf text) = text)
    (h : store.rows.get? port.key = value.map Value.pair)
    (hnot : ∀ number, value ≠ some (.long number)) :
    getLocalPort decode userIndex port store = .ok (chosenPort userIndex port value, store) := by
  have hnone : value.bind Value.long? = none := by
    rw [Option.bind_eq_none_iff]
    rintro found rfl
    cases found with
    | long number => exact absurd rfl (hnot number)
    | _ => rfl
  have hport : parsePort (value.bind Value.string?) (port.default + userIndex) 1025 =
      chosenPort userIndex port value := by
    cases value with
    | none => exact parsePort_none _ _
    | some found =>
        cases found with
        | string text => rfl
        | long number => exact absurd rfl (hnot number)
        | _ => exact parsePort_none _ _
  rw [getLocalPort, PreferenceStore.getInt_of_row h, hnone,
    PreferenceStore.getString_of_row hdecode h, ← hport]
  rfl

theorem row_setLocalPort (number : Int) :
    (setLocalPort port number store).rows.get? port.key =
      (some (Value.string (toString number))).map Value.pair := by
  rw [setLocalPort, RoomPreferenceDataStore.get?_step]
  exact if_pos rfl

theorem row_setLocalPort_of_ne (number : Int) {key : String} (hne : key ≠ port.key) :
    (setLocalPort port number store).rows.get? key = store.rows.get? key := by
  rw [setLocalPort, RoomPreferenceDataStore.get?_step]
  exact if_neg hne

/-- The port is kept as a text that stands for this value. -/
def Settled (userIndex : Int) (port : LocalPort) (value : Int)
    (store : RoomPreferenceDataStore L) : Prop :=
  ∃ text, store.rows.get? port.key = (some (Value.string text)).map Value.pair ∧
    parsePort (some text) (port.default + userIndex) 1025 = value

omit [DecidableEq L] in
theorem Settled.congr {number : Int} (h : Settled userIndex port number store)
    {after : RoomPreferenceDataStore L}
    (hrow : after.rows.get? port.key = store.rows.get? port.key) :
    Settled userIndex port number after := by
  obtain ⟨text, htext, hvalue⟩ := h
  exact ⟨text, hrow.trans htext, hvalue⟩

theorem Settled.read (hdecode : ∀ text, decode (bytesOf text) = text) {number : Int}
    (h : Settled userIndex port number store) :
    getLocalPort decode userIndex port store = .ok (number, store) := by
  obtain ⟨text, htext, rfl⟩ := h
  rw [getLocalPort_of_not_long userIndex hdecode htext (by simp)]
  rfl

/-- Writing what was read back settles the port. -/
theorem settled_setLocalPort_of_long (number : BitVec 64) :
    Settled userIndex port (chosenPort userIndex port (some (.long number)))
      (setLocalPort port (number.setWidth 32).toInt store) :=
  ⟨_, row_setLocalPort _, parsePort_toString_toInt _ _⟩

theorem initPort_spec (hdecode : ∀ text, decode (bytesOf text) = text)
    (h : store.rows.get? port.key = value.map Value.pair) :
    ∃ next, initPort decode userIndex store port = .ok next ∧
      Settled userIndex port (chosenPort userIndex port value) next ∧
      ∀ key, key ≠ port.key → next.rows.get? key = store.rows.get? key := by
  have hdefault (hnot : ∀ number, value ≠ some (.long number))
      (hnone : value.bind Value.string? = none)
      (hchosen : chosenPort userIndex port value = port.default + userIndex) :
      ∃ next, initPort decode userIndex store port = .ok next ∧
        Settled userIndex port (chosenPort userIndex port value) next ∧
        ∀ key, key ≠ port.key → next.rows.get? key = store.rows.get? key := by
    rw [initPort, PreferenceStore.getString_of_row hdecode h, if_pos hnone,
      getLocalPort_of_not_long userIndex hdecode h hnot, hchosen]
    exact ⟨_, rfl, ⟨_, row_setLocalPort _, parsePort_toString_default _⟩,
      fun key hne => row_setLocalPort_of_ne _ hne⟩
  cases value with
  | none => exact hdefault (by simp) rfl rfl
  | some found =>
      cases found with
      | string text =>
          rw [initPort, PreferenceStore.getString_of_row hdecode h, if_neg (by simp [Value.string?])]
          exact ⟨store, rfl, ⟨text, h, rfl⟩, fun _ _ => rfl⟩
      | long number =>
          have hnone : (some (Value.long number)).bind Value.string? = none := rfl
          rw [initPort, PreferenceStore.getString_of_row hdecode h, if_pos hnone,
            getLocalPort_of_long h]
          refine ⟨_, rfl, settled_setLocalPort_of_long number, ?_⟩
          intro key hne
          exact (row_setLocalPort_of_ne _ hne).trans (row_setLocalPort_of_ne _ hne)
      | _ => exact hdefault (by simp) rfl rfl

/-- One port after the other: they do not share a key. -/
theorem foldlM_initPort (userIndex : Int) (hdecode : ∀ text, decode (bytesOf text) = text)
    (ports : List LocalPort) (hkeys : (ports.map LocalPort.key).Nodup) (store : RoomPreferenceDataStore L)
    (values : String → Option Value)
    (hrows : ∀ port ∈ ports, store.rows.get? port.key = (values port.key).map Value.pair) :
    ∃ next, ports.foldlM (initPort decode userIndex) store = .ok next ∧
      (∀ port ∈ ports, Settled userIndex port (chosenPort userIndex port (values port.key)) next) ∧
      ∀ key, key ∉ ports.map LocalPort.key → next.rows.get? key = store.rows.get? key := by
  induction ports generalizing store with
  | nil => exact ⟨store, rfl, by simp, fun _ _ => rfl⟩
  | cons first ports ih =>
      rw [List.forall_mem_cons] at hrows
      rw [List.map_cons, List.nodup_cons] at hkeys
      obtain ⟨middle, hmiddle, hsettled, hframe⟩ := initPort_spec hdecode hrows.1
      have hne : ∀ port ∈ ports, port.key ≠ first.key := by
        intro port hport heq
        exact hkeys.1 (heq ▸ List.mem_map_of_mem hport)
      obtain ⟨next, hnext, hall, hrest⟩ := ih hkeys.2 middle fun port hport =>
        (hframe port.key (hne port hport)).trans (hrows.2 port hport)
      refine ⟨next, ?_, ?_, ?_⟩
      · rw [List.foldlM_cons, hmiddle]
        exact hnext
      · rw [List.forall_mem_cons]
        exact ⟨hsettled.congr (hrest first.key hkeys.1), hall⟩
      · intro key hkey
        rw [List.map_cons, List.mem_cons, not_or] at hkey
        exact (hrest key hkey.2).trans (hframe key hkey.1)

theorem initPersistAcrossReboot_spec (store : RoomPreferenceDataStore L) (enabled : Bool)
    (h : store.rows.get? Key.persistAcrossReboot = value.map Value.pair) :
    ∃ next, initPersistAcrossReboot enabled store = .ok next ∧
      ∀ key, key ≠ Key.persistAcrossReboot → next.rows.get? key = store.rows.get? key := by
  rw [initPersistAcrossReboot, PreferenceStore.getBoolean_of_row h]
  refine ⟨_, rfl, ?_⟩
  intro key hne
  dsimp only
  split
  · rw [RoomPreferenceDataStore.get?_step]
    exact if_neg hne
  · rfl

theorem get?_foldl_of_not_written {key : String} (calls : List (StoreCall L))
    (h : ∀ call ∈ calls, ∀ write ∈ call.written, write.1 ≠ key) :
    (calls.foldl RoomPreferenceDataStore.step store).rows.get? key = store.rows.get? key := by
  induction calls generalizing store with
  | nil => rfl
  | cons call calls ih =>
      rw [List.forall_mem_cons] at h
      rw [List.foldl_cons, ih h.2, RoomPreferenceDataStore.get?_step]
      split
      · rename_i written next hwritten
        exact if_neg (Ne.symm (h.1 _ hwritten))
      · rfl

theorem initGlobal_spec (userIndex : Int) (hdecode : ∀ text, decode (bytesOf text) = text)
    (enabled : Bool) (values : String → Option Value)
    (hrows : ∀ key, store.rows.get? key = (values key).map Value.pair) :
    ∃ ready, initGlobal decode userIndex enabled store = .ok ready ∧
      ∀ port ∈ [portProxy, portLocalDns, portTransproxy],
        Settled userIndex port (chosenPort userIndex port (values port.key)) ready := by
  obtain ⟨middle, hmiddle, hframe⟩ :=
    initPersistAcrossReboot_spec store enabled (hrows Key.persistAcrossReboot)
  obtain ⟨ready, hready, hall, -⟩ := foldlM_initPort userIndex hdecode
    [portProxy, portLocalDns, portTransproxy] (by decide) middle values (by
      intro port hport
      rw [hframe port.key (by revert port; decide)]
      exact hrows port.key)
  refine ⟨ready, ?_, hall⟩
  rw [initGlobal, hmiddle]
  exact hready

/-- A port that was stored as a number need not be the same at the second read:
it is just if it is in range or the default. From `initGlobal` on all reads agree
until the port is written, and none changes the store, so that the programs that
are told of a port are told of the same one. -/
theorem localPorts_agree (hdecode : ∀ text, decode (bytesOf text) = text) (userIndex : Int)
    (enabled : Bool) (calls : List (StoreCall L)) :
    let store := RoomPreferenceDataStore.run calls
    (∀ port, ∃ first after, getLocalPort decode userIndex port store = .ok (first, after) ∧
      getLocalPort decode userIndex port after =
        .ok (chosenPort userIndex port (typed calls port.key), after) ∧
      (first = chosenPort userIndex port (typed calls port.key) ↔
        ∀ number, typed calls port.key = some (.long number) →
          (1025 ≤ (number.setWidth 32).toInt ∧ (number.setWidth 32).toInt ≤ 65535) ∨
            (number.setWidth 32).toInt = port.default + userIndex)) ∧
    ∃ ready, initGlobal decode userIndex enabled store = .ok ready ∧
      ∀ port ∈ [portProxy, portLocalDns, portTransproxy], ∀ later : List (StoreCall L),
        (∀ call ∈ later, ∀ write ∈ call.written, write.1 ≠ port.key) →
        getLocalPort decode userIndex port (later.foldl RoomPreferenceDataStore.step ready) =
          .ok (chosenPort userIndex port (typed calls port.key),
            later.foldl RoomPreferenceDataStore.step ready) := by
  intro store
  have hrows : ∀ key, store.rows.get? key = (typed calls key).map Value.pair :=
    RoomPreferenceDataStore.rows_run calls
  constructor
  · intro port
    have hrow := hrows port.key
    by_cases hlong : ∃ number, typed calls port.key = some (.long number)
    · obtain ⟨number, hnumber⟩ := hlong
      rw [hnumber] at hrow ⊢
      refine ⟨_, _, getLocalPort_of_long hrow,
        (settled_setLocalPort_of_long number).read hdecode, ?_⟩
      have hvalue : chosenPort userIndex port (some (.long number)) =
          if 1025 ≤ (number.setWidth 32).toInt ∧ (number.setWidth 32).toInt ≤ 65535 then
            (number.setWidth 32).toInt
          else port.default + userIndex := rfl
      rw [hvalue]
      constructor
      · intro heq other hsame
        cases hsame
        split_ifs at heq with hrange
        · exact .inl hrange
        · exact .inr heq
      · intro hall
        split_ifs with hrange
        · rfl
        · exact (hall number rfl).resolve_left hrange
    · have hnot : ∀ number, typed calls port.key ≠ some (.long number) := not_exists.mp hlong
      have hread := getLocalPort_of_not_long userIndex hdecode hrow hnot
      refine ⟨_, _, hread, hread, ?_⟩
      simp only [true_iff]
      intro number hnumber
      exact absurd hnumber (hnot number)
  · obtain ⟨ready, hready, hsettled⟩ :=
      initGlobal_spec userIndex hdecode enabled (typed calls) hrows
    refine ⟨ready, hready, ?_⟩
    intro port hport later hlater
    exact ((hsettled port hport).congr (get?_foldl_of_not_written later hlater)).read hdecode

end Ports

/-- A low port is used once. -/
theorem localPorts_agree_low_port :
    let decode := fun bytes => (Rfc2396.ofBytes bytes).getD ""
    let store := RoomPreferenceDataStore.run [(.putInt "portProxy" (some 80) : StoreCall Nat)]
    (∃ first after, getLocalPort decode 0 portProxy store = .ok (first, after) ∧
      getLocalPort decode 0 portProxy after = .ok (1080, after) ∧ first ≠ 1080) ∧
    ∃ ready, initGlobal decode 0 false store = .ok ready ∧
      getLocalPort decode 0 portProxy ready = .ok (1080, ready) := by
  intro decode store
  have hdecode (text : String) : decode (bytesOf text) = text := by
    change (Rfc2396.ofBytes (bytesOf text)).getD "" = text
    rw [Rfc2396.ofBytes_bytesOf]
    rfl
  obtain ⟨hreads, ready, hready, hagree⟩ := localPorts_agree hdecode 0 false
    [(.putInt "portProxy" (some 80) : StoreCall Nat)]
  obtain ⟨first, after, hfirst, hsecond, hiff⟩ := hreads portProxy
  have hlater := hagree portProxy (by decide) [] (by simp)
  refine ⟨⟨first, after, hfirst, hsecond, ?_⟩, ready, hready, hlater⟩
  intro heq
  have hrange := hiff.mp heq 80 rfl
  exact absurd hrange (by decide)

end WifiProject.Preference
