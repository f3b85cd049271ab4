import WifiProject.Preference.StringSets

/-!
The store over a whole run of its setters, with its change listeners. What it is
for is a map from keys to values of five types; a getter asks for one of them. A
number is kept as a long, so that it comes back as an int or as a long.
-/

namespace WifiProject.Preference

open Lib
open Rfc2396 (bytesOf)

namespace KeyValuePair

def typeFloat : Int := 2

/-- A float is its bits. -/
def float (pair : KeyValuePair) : Except StoreFailure (Option (BitVec 32)) :=
  if pair.valueType = typeFloat then
    (getBytes 4 pair.value).map fun number => some (BitVec.ofNat 32 number)
  else .ok none

def putFloat (value : BitVec 32) : KeyValuePair where
  valueType := typeFloat
  value := bigEndian 4 value.toNat

end KeyValuePair

namespace PreferenceStore

def getFloat (store : PreferenceStore) (key : String) : Except StoreFailure (Option (BitVec 32)) :=
  (store.get? key).elim (.ok none) KeyValuePair.float

/-- `toInt()` keeps the low half. -/
def getInt (store : PreferenceStore) (key : String) : Except StoreFailure (Option (BitVec 32)) :=
  (store.getLong key).map fun value => value.map (BitVec.ofInt 32)

def getStringSet (decode : List UInt8 → String) (store : PreferenceStore) (key : String) :
    Except StoreFailure (Option (List String)) :=
  (store.get? key).elim (.ok none) (KeyValuePair.stringSet decode)

end PreferenceStore

/-- What is called on a store. A null deletes the row. -/
inductive StoreCall (L : Type) where
  | putBoolean (key : String) (value : Option Bool)
  | putFloat (key : String) (value : Option (BitVec 32))
  | putInt (key : String) (value : Option (BitVec 32))
  | putLong (key : String) (value : Option (BitVec 64))
  | putString (key : String) (value : Option String)
  | putStringSet (key : String) (values : Option StringSet)
  | remove (key : String)
  | registerChangeListener (listener : L)
  | unregisterChangeListener (listener : L)

/-- `told` are the notifications, each with the row that its listener finds. -/
structure RoomPreferenceDataStore (L : Type) where
  rows : PreferenceStore := .empty
  listeners : List L := []
  told : List (L × String × Option KeyValuePair) := []

namespace RoomPreferenceDataStore

variable {L : Type} [DecidableEq L]

omit [DecidableEq L] in
def fireChangeListener (store : RoomPreferenceDataStore L) (key : String) :
    RoomPreferenceDataStore L :=
  { store with
    told := store.told ++ store.listeners.map fun listener => (listener, key, store.rows.get? key) }

omit [DecidableEq L] in
def write (store : RoomPreferenceDataStore L) (key : String) (pair : Option KeyValuePair) :
    RoomPreferenceDataStore L :=
  fireChangeListener { store with rows := store.rows.putNullable key pair } key

def step (store : RoomPreferenceDataStore L) : StoreCall L → RoomPreferenceDataStore L
  | .putBoolean key value => store.write key (value.map .putBoolean)
  | .putFloat key value => store.write key (value.map .putFloat)
  | .putInt key value => store.write key (value.map fun number => .putLong number.toInt)
  | .putLong key value => store.write key (value.map fun number => .putLong number.toInt)
  | .putString key value => store.write key (value.map .putString)
  | .putStringSet key values => store.write key (values.map fun set => .putStringSet set.strings)
  | .remove key => store.write key none
  | .registerChangeListener listener =>
      { store with listeners := store.listeners.insert listener }
  | .unregisterChangeListener listener =>
      { store with listeners := store.listeners.erase listener }

def run (calls : List (StoreCall L)) : RoomPreferenceDataStore L := calls.foldl step {}

end RoomPreferenceDataStore

/-! ## What a store is for -/

inductive Value where
  | boolean (value : Bool)
  | float (value : BitVec 32)
  | long (value : BitVec 64)
  | string (value : String)
  | stringSet (values : StringSet)

namespace Value

def boolean? : Value → Option Bool
  | .boolean value => some value
  | _ => none

def float? : Value → Option (BitVec 32)
  | .float value => some value
  | _ => none

def long? : Value → Option (BitVec 64)
  | .long value => some value
  | _ => none

def string? : Value → Option String
  | .string value => some value
  | _ => none

def stringSet? : Value → Option StringSet
  | .stringSet values => some values
  | _ => none

/-- The row of a value. -/
def pair : Value → KeyValuePair
  | .boolean value => .putBoolean value
  | .float value => .putFloat value
  | .long value => .putLong value.toInt
  | .string value => .putString value
  | .stringSet values => .putStringSet values.strings

end Value

namespace StoreCall

variable {L : Type}

/-- The key that a call writes, with its new value. -/
def written : StoreCall L → Option (String × Option Value)
  | .putBoolean key value => some (key, value.map .boolean)
  | .putFloat key value => some (key, value.map .float)
  | .putInt key value => some (key, value.map fun number => .long (number.signExtend 64))
  | .putLong key value => some (key, value.map .long)
  | .putString key value => some (key, value.map .string)
  | .putStringSet key values => some (key, values.map .stringSet)
  | .remove key => some (key, none)
  | .registerChangeListener _ | .unregisterChangeListener _ => none

/-- Whether a listener is registered after a call. -/
def registers [DecidableEq L] (listener : L) (registered : Bool) : StoreCall L → Bool
  | .registerChangeListener other => registered || decide (other = listener)
  | .unregisterChangeListener other => registered && decide (other ≠ listener)
  | _ => registered

end StoreCall

/-- The map that a run of calls stands for. -/
def typed {L : Type} (calls : List (StoreCall L)) (key : String) : Option Value :=
  calls.foldl (fun value call =>
    match call.written with
    | some (written, next) => if key = written then next else value
    | none => value) none

/-- The writes of a run that fall into the time of a listener. -/
def heard {L : Type} [DecidableEq L] (listener : L) :
    Bool → List (StoreCall L) → List (String × Option Value)
  | _, [] => []
  | registered, call :: calls =>
      (if registered then call.written.toList else []) ++
        heard listener (call.registers listener registered) calls

/-! ## One value -/

namespace Value

theorem boolean_pair (value : Value) : value.pair.boolean = .ok value.boolean? := by
  cases value with
  | boolean value => exact KeyValuePair.boolean_putBoolean value
  | _ => rfl

theorem float_pair (value : Value) : value.pair.float = .ok value.float? := by
  cases value with
  | float value =>
      have hsmall : value.toNat % 256 ^ 4 = value.toNat := Nat.mod_eq_of_lt value.isLt
      simp only [pair, KeyValuePair.float, KeyValuePair.putFloat, if_true,
        KeyValuePair.getBytes_bigEndian, hsmall]
      rw [Except.map, BitVec.ofNat_toNat, BitVec.setWidth_eq]
      rfl
  | _ => rfl

theorem long_pair (value : Value) : value.pair.long = .ok (value.long?.map BitVec.toInt) := by
  cases value with
  | long value =>
      have hlow := value.le_toInt
      have hhigh := value.toInt_lt
      exact KeyValuePair.long_putLong ⟨by simpa using hlow, by simpa using hhigh⟩
  | _ => rfl

theorem string_pair {decode : List UInt8 → String} (hdecode : ∀ text, decode (bytesOf text) = text)
    (value : Value) : value.pair.string decode = value.string? := by
  cases value with
  | string value => exact KeyValuePair.string_putString (hdecode value)
  | _ => rfl

theorem stringSet_pair (decode : List UInt8 → String) (value : Value)
    (h : value.stringSet? = none) : value.pair.stringSet decode = .ok none := by
  cases value with
  | stringSet values => cases h
  | _ => rfl

/-- The sets that come back are those of ASCII. -/
theorem stringSet_pair_of_ascii {decode : List UInt8 → String}
    (hdecode : ∀ text, decode (bytesOf text) = text) {values : StringSet} (h : values.Ascii) :
    (pair (.stringSet values)).stringSet decode = .ok (some values.strings) := by
  rw [pair, stringSet_put, readStrings_of_ascii hdecode h values.fits]
  rfl

end Value

/-! ## One row -/

namespace PreferenceStore

variable {store : PreferenceStore} {key : String} {value : Option Value}

theorem getBoolean_of_row (h : store.get? key = value.map Value.pair) :
    store.getBoolean key = .ok (value.bind Value.boolean?) := by
  rw [getBoolean, h]
  cases value with
  | none => rfl
  | some value => exact value.boolean_pair

theorem getFloat_of_row (h : store.get? key = value.map Value.pair) :
    store.getFloat key = .ok (value.bind Value.float?) := by
  rw [getFloat, h]
  cases value with
  | none => rfl
  | some value => exact value.float_pair

theorem getLong_of_row (h : store.get? key = value.map Value.pair) :
    store.getLong key = .ok ((value.bind Value.long?).map BitVec.toInt) := by
  rw [getLong, h]
  cases value with
  | none => rfl
  | some value => exact value.long_pair

theorem ofInt_toInt_eq_setWidth (number : BitVec 64) :
    BitVec.ofInt 32 number.toInt = number.setWidth 32 := by
  apply BitVec.eq_of_toInt_eq
  rw [BitVec.toInt_ofInt, BitVec.toInt_setWidth, BitVec.toInt_eq_toNat_bmod]
  exact Int.bmod_bmod_of_dvd (by decide)

theorem getInt_of_row (h : store.get? key = value.map Value.pair) :
    store.getInt key = .ok ((value.bind Value.long?).map (BitVec.setWidth 32)) := by
  rw [getInt, getLong_of_row h, Except.map, Option.map_map]
  congr 2
  funext number
  exact ofInt_toInt_eq_setWidth number

theorem getString_of_row {decode : List UInt8 → String}
    (hdecode : ∀ text, decode (bytesOf text) = text) (h : store.get? key = value.map Value.pair) :
    store.getString decode key = value.bind Value.string? := by
  rw [getString, h]
  cases value with
  | none => rfl
  | some value => exact value.string_pair hdecode

end PreferenceStore

/-! ## The calls -/

namespace RoomPreferenceDataStore

variable {L : Type} [DecidableEq L] {store : RoomPreferenceDataStore L} {call : StoreCall L}

theorem step_of_written {key : String} {value : Option Value}
    (h : call.written = some (key, value)) :
    store.step call = store.write key (value.map Value.pair) := by
  cases call with
  | putInt key number =>
      obtain ⟨rfl, rfl⟩ := Prod.mk.inj (Option.some.inj h)
      cases number with
      | none => rfl
      | some number =>
          have hsame : (number.signExtend 64).toInt = number.toInt :=
            BitVec.toInt_signExtend_of_le (by decide)
          simp only [step, Option.map_some, Value.pair, hsame]
  | registerChangeListener listener => cases h
  | unregisterChangeListener listener => cases h
  | remove key =>
      obtain ⟨rfl, rfl⟩ := Prod.mk.inj (Option.some.inj h)
      rfl
  | _ key value =>
      obtain ⟨rfl, rfl⟩ := Prod.mk.inj (Option.some.inj h)
      cases value <;> rfl

theorem step_of_not_written (h : call.written = none) :
    (store.step call).rows = store.rows ∧ (store.step call).told = store.told := by
  cases call with
  | registerChangeListener listener => exact ⟨rfl, rfl⟩
  | unregisterChangeListener listener => exact ⟨rfl, rfl⟩
  | _ => cases h

theorem nodup_step (h : store.listeners.Nodup) : (store.step call).listeners.Nodup := by
  cases call with
  | registerChangeListener listener => exact h.insert
  | unregisterChangeListener listener => exact h.erase listener
  | _ => exact h

theorem mem_listeners_step (h : store.listeners.Nodup) (listener : L) :
    decide (listener ∈ (store.step call).listeners) =
      call.registers listener (decide (listener ∈ store.listeners)) := by
  cases call with
  | registerChangeListener other =>
      simp only [step, StoreCall.registers, List.mem_insert_iff]
      by_cases heq : listener = other
      · simp [heq]
      · simp [heq, Ne.symm heq]
  | unregisterChangeListener other =>
      simp only [step, StoreCall.registers, h.mem_erase_iff]
      by_cases heq : listener = other
      · simp [heq]
      · simp [heq, Ne.symm heq]
  | _ => rfl

/-- What a listener has been told. -/
def toldTo (store : RoomPreferenceDataStore L) (listener : L) :
    List (String × Option KeyValuePair) :=
  (store.told.filter (·.1 = listener)).map (·.2)

theorem get?_step (key : String) :
    (store.step call).rows.get? key =
      match call.written with
      | some (written, value) =>
          if key = written then value.map Value.pair else store.rows.get? key
      | none => store.rows.get? key := by
  split
  · rename_i written value hwritten
    rw [step_of_written hwritten]
    exact PreferenceStore.get?_putNullable store.rows written key _
  · rename_i hwritten
    rw [(step_of_not_written hwritten).1]

/-- A listener that is registered is told of a write, and finds the new row. -/
theorem toldTo_write (h : store.listeners.Nodup) (key : String) (pair : Option KeyValuePair)
    (listener : L) : (store.write key pair).toldTo listener =
      store.toldTo listener ++ if listener ∈ store.listeners then [(key, pair)] else [] := by
  have hrow : (store.rows.putNullable key pair).get? key = pair := by
    rw [PreferenceStore.get?_putNullable, if_pos rfl]
  have honce : store.listeners.filter (· = listener) =
      if listener ∈ store.listeners then [listener] else [] := by
    rw [List.filter_eq, h.count]
    split <;> rfl
  simp only [toldTo, write, fireChangeListener, List.filter_append, List.map_append,
    List.filter_map, List.map_map, hrow]
  change _ ++ (store.listeners.filter (· = listener)).map _ = _
  rw [honce]
  split <;> rfl

theorem toldTo_step (h : store.listeners.Nodup) (listener : L) :
    (store.step call).toldTo listener = store.toldTo listener ++
      (if decide (listener ∈ store.listeners) then call.written.toList else []).map
        fun write => (write.1, write.2.map Value.pair) := by
  cases hwritten : call.written with
  | some write =>
      rw [step_of_written hwritten, toldTo_write h]
      by_cases hmem : listener ∈ store.listeners <;> simp [hmem]
  | none =>
      rw [toldTo, (step_of_not_written hwritten).2, ← toldTo]
      simp

/-- The rows are those of the map. -/
theorem rows_run (calls : List (StoreCall L)) (key : String) :
    (run calls).rows.get? key = (typed calls key).map Value.pair := by
  induction calls using List.reverseRecOn with
  | nil => rfl
  | append_singleton calls call ih =>
      rw [run, typed, List.foldl_append, List.foldl_append]
      change ((run calls).step call).rows.get? key = _
      rw [get?_step, ih]
      change _ = Option.map Value.pair (match call.written with
        | some (written, next) => if key = written then next else typed calls key
        | none => typed calls key)
      split
      · split <;> rfl
      · rfl

theorem toldTo_run (h : store.listeners.Nodup) (calls : List (StoreCall L)) (listener : L) :
    (calls.foldl step store).toldTo listener = store.toldTo listener ++
      (heard listener (decide (listener ∈ store.listeners)) calls).map
        fun write => (write.1, write.2.map Value.pair) := by
  induction calls generalizing store with
  | nil => simp [heard]
  | cons call calls ih =>
      rw [List.foldl_cons, ih (nodup_step h), toldTo_step h, mem_listeners_step h, heard,
        List.map_append, List.append_assoc]

/-- The store is the map it stands for: whatever has been written, a getter gives
the value under its key if it has the type that is asked for, null otherwise, and
throws for no key but one whose set is not ASCII. A listener is told of exactly
the writes of its time, in order, and finds what was written. -/
theorem run_refines {decode : List UInt8 → String} (hdecode : ∀ text, decode (bytesOf text) = text)
    (calls : List (StoreCall L)) :
    (∀ key, let value := typed calls key
      (run calls).rows.getBoolean key = .ok (value.bind Value.boolean?) ∧
      (run calls).rows.getFloat key = .ok (value.bind Value.float?) ∧
      (run calls).rows.getLong key = .ok ((value.bind Value.long?).map BitVec.toInt) ∧
      (run calls).rows.getInt key = .ok ((value.bind Value.long?).map (BitVec.setWidth 32)) ∧
      (run calls).rows.getString decode key = value.bind Value.string? ∧
      (value.bind Value.stringSet? = none →
        (run calls).rows.getStringSet decode key = .ok none) ∧
      ∀ values : StringSet, value.bind Value.stringSet? = some values → values.Ascii →
        (run calls).rows.getStringSet decode key = .ok (some values.strings)) ∧
    ∀ listener, (run calls).toldTo listener =
      (heard listener false calls).map fun write => (write.1, write.2.map Value.pair) := by
  constructor
  · intro key value
    have hrow := rows_run calls key
    refine ⟨PreferenceStore.getBoolean_of_row hrow, PreferenceStore.getFloat_of_row hrow,
      PreferenceStore.getLong_of_row hrow, PreferenceStore.getInt_of_row hrow,
      PreferenceStore.getString_of_row hdecode hrow, ?_, ?_⟩
    · rw [PreferenceStore.getStringSet, hrow]
      change _ → (value.map Value.pair).elim _ _ = _
      cases value with
      | none => exact fun _ => rfl
      | some value => exact value.stringSet_pair decode
    · intro values hvalues hascii
      obtain ⟨found, hfound, hset⟩ := Option.bind_eq_some_iff.mp hvalues
      cases found with
      | stringSet found =>
          obtain rfl := Option.some.inj hset
          rw [PreferenceStore.getStringSet, hrow]
          change (value.map Value.pair).elim _ _ = _
          rw [hfound]
          exact Value.stringSet_pair_of_ascii hdecode hascii
      | _ => cases hset
  · exact toldTo_run List.nodup_nil calls

/-- A port is written as an int, and removed when nobody listens any more. -/
def portCalls : List (StoreCall Nat) :=
  [.putString "portProxy" (some "1080"), .registerChangeListener 0,
    .putInt "portProxy" (some 1080), .unregisterChangeListener 0, .putBoolean "isIpv6" none]

theorem run_refines_port :
    (run portCalls).rows.getInt "portProxy" = .ok (some 1080) ∧
      (run portCalls).toldTo 0 = [("portProxy", some (.putLong 1080))] := by
  have hrefines := @run_refines Nat _ (fun bytes => (Rfc2396.ofBytes bytes).getD "")
    (fun text => by rw [Rfc2396.ofBytes_bytesOf]; rfl) portCalls
  exact ⟨(hrefines.1 "portProxy").2.2.2.1, hrefines.2 0⟩

end RoomPreferenceDataStore

end WifiProject.Preference
