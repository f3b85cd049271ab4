import Mathlib.Data.List.Induction
import Mathlib.Data.List.Nodup
import WifiProject.Lib.LinkedMap

/-!
`PluginList`, which looks plugins up by their ids and aliases, and
`PluginManager.fetchPlugins`, which keeps one such list until packages change.
-/

namespace WifiProject.Plugin

open Lib

set_option linter.dupNamespace false

structure Plugin where
  id : String
  idAliases : List String := []
  packageName : String := ""
  deriving DecidableEq, Repr

def Plugin.names (plugin : Plugin) : List String := plugin.id :: plugin.idAliases

/-- A content provider that answers to the plugin intent. -/
structure Provider where
  exported : Bool
  plugin : Plugin
  deriving DecidableEq, Repr

def noPlugin : Plugin := { id := "" }

namespace PluginList

def plugins (providers : List Provider) : List Plugin :=
  noPlugin :: (providers.filter (·.exported)).map (·.plugin)

def message (plugins : List Plugin) (plugin : Plugin) : String :=
  "Conflicting plugins found from: " ++
    ", ".intercalate ((plugins.filter (·.id = plugin.id)).map (·.packageName))

/-- `check(put(name, plugin))`. Plugins are told apart by their place in the list. -/
def enter (plugins : List Plugin) (plugin : Plugin) (place : Nat) (lookup : LinkedMap String Nat)
    (name : String) : Except String (LinkedMap String Nat) :=
  match lookup.get? name with
  | none => .ok (lookup.put name place)
  | some old =>
      if old ≠ place then .error (message plugins plugin) else .ok (lookup.put name place)

/-- The loop over the plugins from a place on. -/
def enterAll (plugins : List Plugin) : Nat → List Plugin → LinkedMap String Nat →
    Except String (LinkedMap String Nat)
  | _, [], lookup => .ok lookup
  | place, plugin :: rest, lookup =>
      (plugin.names.foldlM (enter plugins plugin place) lookup).bind (enterAll plugins (place + 1) rest)

def lookup (plugins : List Plugin) : Except String (LinkedMap String Nat) :=
  enterAll plugins 0 plugins .empty

/-- The list with its lookup; the constructor throws if there is none. -/
def new (providers : List Provider) : Except String (List Plugin × LinkedMap String Nat) :=
  (lookup (plugins providers)).map fun map => (plugins providers, map)

/-! ## Looking up -/

/-- A name of a plugin, and where the plugin stands. -/
def Entry (plugins : List Plugin) (name : String) (place : Nat) : Prop :=
  ∃ plugin, plugins[place]? = some plugin ∧ name ∈ plugin.names

/-- No name stands for two plugins. -/
def Unambiguous (plugins : List Plugin) : Prop :=
  ∀ name place other, Entry plugins name place → Entry plugins name other → place = other

/-- The map holds just these entries. -/
def Holds (lookup : LinkedMap String Nat) (entries : String → Nat → Prop) : Prop :=
  ∀ name place, lookup.get? name = some place ↔ entries name place

/-- The entries of the plugins up to a place. -/
def EntryBefore (plugins : List Plugin) (bound : Nat) (name : String) (place : Nat) : Prop :=
  place < bound ∧ Entry plugins name place

/-- No name stands for two of the plugins up to a place. -/
def UnambiguousBefore (plugins : List Plugin) (bound : Nat) : Prop :=
  ∀ name place other, EntryBefore plugins bound name place →
    EntryBefore plugins bound name other → place = other

/-- The first plugin with a name that is taken already. -/
def FirstClash (plugins : List Plugin) (plugin : Plugin) : Prop :=
  ∃ place name other, plugins[place]? = some plugin ∧ name ∈ plugin.names ∧
    EntryBefore plugins place name other ∧ UnambiguousBefore plugins place

section Lookup

variable {plugins : List Plugin} {plugin : Plugin} {place : Nat} {map : LinkedMap String Nat}
  {entries : String → Nat → Prop}

theorem Holds.put (h : Holds map entries) {name : String}
    (hfree : ∀ other, entries name other → other = place) :
    Holds (map.put name place) fun key other => entries key other ∨ key = name ∧ other = place := by
  intro key other
  rw [LinkedMap.get?_put]
  split_ifs with hkey
  · subst hkey
    constructor
    · intro hplace
      exact .inr ⟨rfl, (Option.some.inj hplace).symm⟩
    · rintro (hentry | ⟨-, rfl⟩)
      · rw [hfree other hentry]
      · rfl
  · rw [h key other]
    constructor
    · exact .inl
    · rintro (hentry | ⟨hsame, -⟩)
      · exact hentry
      · exact absurd hsame hkey

/-- A name is free, or its plugin has it already, or it is somebody else's. -/
theorem enter_cases (plugins : List Plugin) (plugin : Plugin) (place : Nat)
    (h : Holds map entries) (name : String) :
    (enter plugins plugin place map name = .ok (map.put name place) ∧
      ∀ other, entries name other → other = place) ∨
    (enter plugins plugin place map name = .error (message plugins plugin) ∧
      ∃ other, entries name other ∧ other ≠ place) := by
  unfold enter
  cases hget : map.get? name with
  | none =>
      refine .inl ⟨rfl, fun other hentry => ?_⟩
      rw [(h name other).mpr hentry] at hget
      cases hget
  | some old =>
      dsimp only
      split_ifs with hold
      · exact .inr ⟨rfl, old, (h name old).mp hget, hold⟩
      · refine .inl ⟨rfl, fun other hentry => ?_⟩
        rw [(h name other).mpr hentry] at hget
        rw [Option.some.inj hget]
        exact not_not.mp hold

/-- The names of a plugin, one after the other. -/
theorem foldlM_enter (plugins : List Plugin) (plugin : Plugin) (place : Nat)
    (names : List String) (h : Holds map entries) :
    (∃ next, names.foldlM (enter plugins plugin place) map = .ok next ∧
      Holds next (fun name other => entries name other ∨ name ∈ names ∧ other = place) ∧
      ∀ name ∈ names, ∀ other, entries name other → other = place) ∨
    (names.foldlM (enter plugins plugin place) map = .error (message plugins plugin) ∧
      ∃ name ∈ names, ∃ other, entries name other ∧ other ≠ place) := by
  induction names generalizing map entries with
  | nil =>
      refine .inl ⟨map, rfl, ?_, by simp⟩
      simpa [Holds] using h
  | cons name names ih =>
      rw [List.foldlM_cons]
      rcases enter_cases plugins plugin place h name with
        ⟨henter, hfree⟩ | ⟨henter, other, hentry, hother⟩
      · rw [henter]
        rcases ih (h.put hfree) with
          ⟨next, hnext, hholds, hrest⟩ | ⟨herror, key, hkey, other, hentry, hother⟩
        · refine .inl ⟨next, hnext, ?_, ?_⟩
          · intro key other
            rw [hholds key other]
            simp only [List.mem_cons, or_and_right, or_assoc]
          · rw [List.forall_mem_cons]
            exact ⟨hfree, fun key hkey other hentry => hrest key hkey other (.inl hentry)⟩
        · refine .inr ⟨herror, key, List.mem_cons_of_mem _ hkey, other, ?_, hother⟩
          rcases hentry with hentry | ⟨-, hsame⟩
          · exact hentry
          · exact absurd hsame hother
      · rw [henter]
        exact .inr ⟨rfl, name, List.mem_cons_self .., other, hentry, hother⟩

theorem entryBefore_succ {bound : Nat} (hplugin : plugins[bound]? = some plugin) (name : String)
    (place : Nat) : EntryBefore plugins (bound + 1) name place ↔
      EntryBefore plugins bound name place ∨ name ∈ plugin.names ∧ place = bound := by
  constructor
  · rintro ⟨hplace, hentry⟩
    rcases Nat.lt_succ_iff_lt_or_eq.mp hplace with hless | rfl
    · exact .inl ⟨hless, hentry⟩
    · obtain ⟨found, hfound, hname⟩ := hentry
      rw [hplugin] at hfound
      cases hfound
      exact .inr ⟨hname, rfl⟩
  · rintro (⟨hplace, hentry⟩ | ⟨hname, rfl⟩)
    · exact ⟨by omega, hentry⟩
    · exact ⟨by omega, plugin, hplugin, hname⟩

theorem UnambiguousBefore.succ {bound : Nat} (h : UnambiguousBefore plugins bound)
    (hplugin : plugins[bound]? = some plugin)
    (hfree : ∀ name ∈ plugin.names, ∀ other, EntryBefore plugins bound name other → other = bound) :
    UnambiguousBefore plugins (bound + 1) := by
  intro name place other hplace hother
  rw [entryBefore_succ hplugin] at hplace hother
  rcases hplace with hplace | ⟨hname, rfl⟩ <;> rcases hother with hother | ⟨hname', rfl⟩
  · exact h name place other hplace hother
  · exact hfree name hname' place hplace
  · exact (hfree name hname other hother).symm
  · rfl

theorem enterAll_spec (rest : List Plugin) (bound : Nat) (hrest : plugins.drop bound = rest)
    (h : Holds map (EntryBefore plugins bound)) (hunambiguous : UnambiguousBefore plugins bound) :
    (∃ next, enterAll plugins bound rest map = .ok next ∧ Holds next (Entry plugins) ∧
      Unambiguous plugins) ∨
    ∃ plugin, enterAll plugins bound rest map = .error (message plugins plugin) ∧
      FirstClash plugins plugin := by
  induction rest generalizing bound map with
  | nil =>
      have hbound : plugins.length ≤ bound := List.drop_eq_nil_iff.mp hrest
      have hall : ∀ name place, EntryBefore plugins bound name place ↔ Entry plugins name place := by
        intro name place
        refine ⟨fun hentry => hentry.2, fun hentry => ⟨?_, hentry⟩⟩
        obtain ⟨found, hfound, -⟩ := hentry
        have hplace := (List.getElem?_eq_some_iff.mp hfound).1
        omega
      refine .inl ⟨map, rfl, fun name place => (h name place).trans (hall name place), ?_⟩
      intro name place other hplace hother
      exact hunambiguous name place other ((hall _ _).mpr hplace) ((hall _ _).mpr hother)
  | cons plugin rest ih =>
      have hplugin : plugins[bound]? = some plugin := by
        rw [← List.head?_drop, hrest, List.head?_cons]
      have hdrop : plugins.drop (bound + 1) = rest := by
        rw [← List.tail_drop, hrest, List.tail_cons]
      unfold enterAll
      rcases foldlM_enter plugins plugin bound plugin.names h with
        ⟨next, hnext, hholds, hfree⟩ | ⟨herror, name, hname, other, hentry, -⟩
      · rw [hnext]
        refine ih (bound + 1) hdrop ?_ (hunambiguous.succ hplugin hfree)
        intro name place
        rw [hholds name place, entryBefore_succ hplugin]
      · rw [herror]
        exact .inr ⟨plugin, rfl, bound, name, other, hplugin, hname, hentry, hunambiguous⟩

theorem FirstClash.not_unambiguous (h : FirstClash plugins plugin) : ¬ Unambiguous plugins := by
  obtain ⟨place, name, other, hplugin, hname, ⟨hless, hentry⟩, -⟩ := h
  intro hunambiguous
  exact absurd (hunambiguous name other place hentry ⟨plugin, hplugin, hname⟩) (by omega)

theorem lookup_spec (plugins : List Plugin) :
    (Unambiguous plugins ∧ ∃ map, lookup plugins = .ok map ∧ Holds map (Entry plugins)) ∨
    (¬ Unambiguous plugins ∧ ∃ plugin, lookup plugins = .error (message plugins plugin) ∧
      FirstClash plugins plugin) := by
  have hstart : Holds .empty (EntryBefore plugins 0) := by
    intro name place
    simp [EntryBefore]
  have hbefore : UnambiguousBefore plugins 0 := by
    rintro name place other ⟨hplace, -⟩
    omega
  rcases enterAll_spec plugins 0 List.drop_zero hstart hbefore with
    ⟨map, hmap, hholds, hunambiguous⟩ | ⟨plugin, herror, hclash⟩
  · exact .inl ⟨hunambiguous, map, hmap, hholds⟩
  · exact .inr ⟨hclash.not_unambiguous, plugin, herror, hclash⟩

end Lookup

/-- The lookup takes every id and every alias to the one plugin that bears it.
There is none if a name is borne twice, by the empty plugin even, whose id is
empty; the message then names the packages with the id of the first plugin that
came too late, be it the id that was taken or an alias. -/
theorem new_spec (providers : List Provider) :
    (Unambiguous (plugins providers) ∧ ∃ map, new providers = .ok (plugins providers, map) ∧
      Holds map (Entry (plugins providers))) ∨
    (¬ Unambiguous (plugins providers) ∧ ∃ plugin,
      new providers = .error (message (plugins providers) plugin) ∧
      FirstClash (plugins providers) plugin) := by
  unfold new
  rcases lookup_spec (plugins providers) with
    ⟨hunambiguous, map, hmap, hholds⟩ | ⟨hambiguous, plugin, herror, hclash⟩
  · rw [hmap]
    exact .inl ⟨hunambiguous, map, rfl, hholds⟩
  · rw [herror]
    exact .inr ⟨hambiguous, plugin, rfl, hclash⟩

end PluginList

/-! ## `fetchPlugins` -/

/-- `registered` are the receivers for package changes, and `receiver` is the
one of `fetchPlugins`. `announcements` counts the changes that the system has
made and not yet broadcast, `pending` has the broadcasts on their way, with
their receivers, and `finishing` is a receiver between its callback and
`unregisterReceiver`. -/
structure PluginManager where
  providers : List Provider := []
  registered : List Nat := []
  next : Nat := 0
  receiver : Option Nat := none
  cachedPlugins : Option (List Plugin × LinkedMap String Nat) := none
  announcements : Nat := 0
  pending : List Nat := []
  finishing : Option Nat := none

inductive PluginEvent where
  /-- A package is added or removed. -/
  | change (providers : List Provider)
  | announce
  /-- The next broadcast reaches its receiver. -/
  | callback
  /-- `onReceive` goes on to its end. -/
  | unregister
  | fetch

namespace PluginManager

/-- The first statement of `fetchPlugins`. -/
def listen (manager : PluginManager) : PluginManager :=
  if manager.receiver = none then
    { manager with
      receiver := some manager.next
      registered := manager.next :: manager.registered
      next := manager.next + 1 }
  else manager

def fetchPlugins (manager : PluginManager) :
    Except String (List Plugin × LinkedMap String Nat) × PluginManager :=
  match manager.listen.cachedPlugins with
  | some cached => (.ok cached, manager.listen)
  | none =>
      match PluginList.new manager.listen.providers with
      | .ok list => (.ok list, { manager.listen with cachedPlugins := some list })
      | .error message => (.error message, manager.listen)

/-- Nothing reaches a receiver that has been unregistered. -/
def callback (manager : PluginManager) : PluginManager :=
  match manager.finishing, manager.pending with
  | none, receiver :: pending =>
      if receiver ∈ manager.registered then
        { manager with
          receiver := none, cachedPlugins := none
          pending := pending, finishing := some receiver }
      else { manager with pending := pending }
  | _, _ => manager

def unregister (manager : PluginManager) : PluginManager :=
  match manager.finishing with
  | none => manager
  | some receiver =>
      { manager with registered := manager.registered.filter (· ≠ receiver), finishing := none }

def step (manager : PluginManager) : PluginEvent → PluginManager
  | .change providers =>
      { manager with providers := providers, announcements := manager.announcements + 1 }
  | .announce =>
      if manager.announcements = 0 then manager
      else
        { manager with
          announcements := manager.announcements - 1
          pending := manager.pending ++ manager.registered }
  | .callback => manager.callback
  | .unregister => manager.unregister
  | .fetch => manager.fetchPlugins.2

def run (manager : PluginManager) (events : List PluginEvent) : PluginManager :=
  events.foldl step manager

/-- The receiver of `fetchPlugins` has heard of all that has changed. -/
def Settled (manager : PluginManager) : Prop :=
  manager.announcements = 0 ∧ ∀ receiver ∈ manager.receiver, receiver ∉ manager.pending

structure Inv (manager : PluginManager) : Prop where
  listens : ∀ receiver ∈ manager.receiver, receiver ∈ manager.registered ∧
    manager.finishing ≠ some receiver
  accounted : ∀ receiver ∈ manager.registered, manager.receiver = some receiver ∨
    manager.finishing = some receiver
  known : ∀ receiver ∈ manager.registered ++ manager.pending, receiver < manager.next
  knownFinishing : ∀ receiver ∈ manager.finishing, receiver < manager.next
  watched : manager.receiver = none → manager.cachedPlugins = none
  current : ∀ list ∈ manager.cachedPlugins, manager.Settled →
    PluginList.new manager.providers = .ok list

variable {manager : PluginManager}

theorem Inv.start : Inv {} := by
  constructor <;> simp

/-- A new receiver has no broadcast on its way. -/
theorem Inv.listen (h : manager.Inv) : manager.listen.Inv ∧ manager.listen.receiver ≠ none := by
  unfold PluginManager.listen
  split_ifs with hreceiver
  · refine ⟨⟨?_, ?_, ?_, ?_, ?_, ?_⟩, Option.some_ne_none _⟩
    · rintro receiver ⟨⟩
      refine ⟨List.mem_cons_self .., fun hfinishing => ?_⟩
      exact absurd (h.knownFinishing manager.next hfinishing) (Nat.lt_irrefl _)
    · intro receiver hregistered
      rcases List.mem_cons.mp hregistered with rfl | hregistered
      · exact .inl rfl
      · rcases h.accounted receiver hregistered with hsame | hfinishing
        · rw [hreceiver] at hsame
          cases hsame
        · exact .inr hfinishing
    · intro receiver hmem
      rcases List.mem_cons.mp hmem with rfl | hmem
      · exact Nat.lt_succ_self _
      · exact Nat.lt_succ_of_lt (h.known receiver hmem)
    · intro receiver hfinishing
      exact Nat.lt_succ_of_lt (h.knownFinishing receiver hfinishing)
    · intro hnone
      cases hnone
    · intro list hlist
      rw [h.watched hreceiver] at hlist
      cases hlist
  · exact ⟨h, hreceiver⟩

theorem listen_providers : manager.listen.providers = manager.providers := by
  unfold listen
  split_ifs <;> rfl

theorem Inv.fetchPlugins (h : manager.Inv) : manager.fetchPlugins.2.Inv := by
  obtain ⟨hlisten, hreceiver⟩ := h.listen
  unfold PluginManager.fetchPlugins
  split
  · exact hlisten
  · split
    · rename_i list hlist
      refine ⟨hlisten.listens, hlisten.accounted, hlisten.known, hlisten.knownFinishing, ?_, ?_⟩
      · intro hnone
        exact absurd hnone hreceiver
      · rintro _ ⟨⟩ -
        exact hlist
    · exact hlisten

/-- The broadcast that is taken is for the receiver of `fetchPlugins`, if its
own is still registered. -/
theorem Inv.callback (h : manager.Inv) : manager.callback.Inv := by
  unfold PluginManager.callback
  split
  · rename_i receiver pending hfinishing hpending
    have hknown : ∀ other ∈ manager.registered ++ pending, other < manager.next := by
      intro other hmem
      apply h.known other
      rw [hpending]
      rw [List.mem_append] at hmem ⊢
      exact hmem.imp_right (List.mem_cons_of_mem _)
    split_ifs with hregistered
    · refine ⟨by simp, ?_, hknown, ?_, fun _ => rfl, by simp⟩
      · intro other hother
        rcases h.accounted other hother with hsame | hsame
        · rcases h.accounted receiver hregistered with hcurrent | hcurrent
          · rw [hsame] at hcurrent
            exact .inr hcurrent.symm
          · rw [hfinishing] at hcurrent
            cases hcurrent
        · rw [hfinishing] at hsame
          cases hsame
      · rintro _ ⟨⟩
        exact h.known receiver (List.mem_append_left _ hregistered)
    · refine ⟨h.listens, h.accounted, hknown, h.knownFinishing, h.watched, ?_⟩
      intro list hlist ⟨hannounced, hheard⟩
      refine h.current list hlist ⟨hannounced, fun other hother hmem => ?_⟩
      rw [hpending] at hmem
      rcases List.mem_cons.mp hmem with rfl | hmem
      · exact hregistered (h.listens _ hother).1
      · exact hheard other hother hmem
  · exact h

theorem Inv.unregister (h : manager.Inv) : manager.unregister.Inv := by
  unfold PluginManager.unregister
  split
  · exact h
  · rename_i finished hfinishing
    refine ⟨?_, ?_, ?_, by simp, h.watched, h.current⟩
    · intro receiver hreceiver
      obtain ⟨hregistered, hne⟩ := h.listens receiver hreceiver
      refine ⟨?_, by simp⟩
      rw [hfinishing] at hne
      simpa [hregistered] using fun hsame => hne (congrArg some hsame.symm)
    · intro receiver hmem
      rw [List.mem_filter, decide_eq_true_eq] at hmem
      rcases h.accounted receiver hmem.1 with hsame | hsame
      · exact .inl hsame
      · rw [hfinishing] at hsame
        exact absurd (Option.some.inj hsame).symm hmem.2
    · intro receiver hmem
      apply h.known receiver
      rw [List.mem_append] at hmem ⊢
      exact hmem.imp_left List.mem_of_mem_filter

theorem Inv.step (h : manager.Inv) (event : PluginEvent) : (manager.step event).Inv := by
  cases event with
  | change providers =>
      refine ⟨h.listens, h.accounted, h.known, h.knownFinishing, h.watched, ?_⟩
      rintro _ - ⟨hannounced, -⟩
      cases hannounced
  | announce =>
      unfold PluginManager.step
      dsimp only
      split_ifs with hannounced
      · exact h
      · refine ⟨h.listens, h.accounted, ?_, h.knownFinishing, h.watched, ?_⟩
        · intro receiver hmem
          apply h.known receiver
          simpa [or_comm] using hmem
        -- whoever has cached a list is registered, and now has a broadcast on its way
        · rintro list hlist ⟨-, hheard⟩
          cases hreceiver : manager.receiver with
          | none =>
              rw [Option.mem_def, h.watched hreceiver] at hlist
              cases hlist
          | some receiver =>
              exact absurd (List.mem_append_right _ (h.listens receiver hreceiver).1)
                (hheard receiver hreceiver)
  | callback => exact h.callback
  | unregister => exact h.unregister
  | fetch => exact h.fetchPlugins

theorem Inv.run (h : manager.Inv) (events : List PluginEvent) : (manager.run events).Inv := by
  induction events generalizing manager with
  | nil => exact h
  | cons event events ih => exact ih (h.step event)

/-- Listening anew is no reason to look again. -/
theorem Settled.listen (h : manager.Inv) (hsettled : manager.Settled) : manager.listen.Settled := by
  unfold PluginManager.listen
  split_ifs
  · refine ⟨hsettled.1, ?_⟩
    rintro _ ⟨⟩ hmem
    exact absurd (h.known _ (List.mem_append_right _ hmem)) (Nat.lt_irrefl _)
  · exact hsettled

/-- However fetching, changes of packages and their broadcasts come in turn: once
the broadcasts are through, `fetchPlugins` answers as a new list would, and no
receiver is left behind, the current one and one in the midst of its
`onReceive` apart. -/
theorem fetchPlugins_current (events : List PluginEvent) :
    ((run {} events).Settled →
      (run {} events).fetchPlugins.1 = PluginList.new (run {} events).providers) ∧
    ∀ receiver ∈ (run {} events).fetchPlugins.2.registered,
      (run {} events).fetchPlugins.2.receiver = some receiver ∨
        (run {} events).fetchPlugins.2.finishing = some receiver := by
  have hinv : (run {} events).Inv := Inv.start.run events
  refine ⟨fun hsettled => ?_, hinv.fetchPlugins.accounted⟩
  unfold fetchPlugins
  split
  · rename_i list hlist
    rw [← listen_providers]
    exact (hinv.listen.1.current list hlist (hsettled.listen hinv)).symm
  · split <;> rename_i hnew <;> rw [listen_providers] at hnew <;> exact hnew.symm

/-- The first list is dropped by the broadcast, and fetched anew before its
receiver is unregistered. -/
theorem fetchPlugins_current_replaced :
    (run {} [.fetch, .change [⟨true, { id := "p" }⟩], .announce, .fetch, .callback, .fetch,
        .unregister]).fetchPlugins.1 =
      PluginList.new [⟨true, { id := "p" }⟩] :=
  (fetchPlugins_current [.fetch, .change [⟨true, { id := "p" }⟩], .announce, .fetch, .callback,
    .fetch, .unregister]).1 ⟨by decide, by decide⟩

end PluginManager

end WifiProject.Plugin
