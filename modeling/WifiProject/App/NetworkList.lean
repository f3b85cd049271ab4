import WifiProject.App.MainScreen

/-!
The networks that `reFreshData` lists, by name. The connected network is looked
for inside the loop over the networks listed so far, so the first network of a
scan is never compared with it.
-/

namespace WifiProject.App

/-- `WifiInfo.getSSID()` of a network with this name. -/
def quoted (name : String) : String := "\"" ++ name ++ "\""

/-- The first name in a scan. -/
def firstNamed (scanResults : List ScanResult) : Option String :=
  (scanResults.map (·.ssid)).find? (· ≠ "")

/-- Every named network of the scan is listed once and the connected one is not,
the strongest first. -/
structure ListsOthersOnce (connected : String) (scanResults : List ScanResult)
    (wifiData : List WIFIEntity) : Prop where
  once : ∀ ssid, (wifiData.map (·.wifiSSID)).count ssid =
    if ssid ∈ scanResults.map (·.ssid) ∧ ssid ≠ "" ∧ ssid ≠ connected then 1 else 0
  strongestFirst : wifiData.Pairwise fun a b => b.wifiStrength ≤ a.wifiStrength

/-- The connected network is not the first of the scan. If its name has quotes,
it is not in the scan at all, and no other than the first has its name without
them. -/
def ComparedWith (connected : String) (scanResults : List ScanResult) : Prop :=
  if withoutQuotes connected = connected then firstNamed scanResults ≠ some connected
  else connected ∉ scanResults.map (·.ssid) ∧
    (withoutQuotes connected ∈ scanResults.map (·.ssid) → withoutQuotes connected ≠ "" →
      firstNamed scanResults = some (withoutQuotes connected))

section Fold

variable {connectedSSID : Option String} {results : List ScanResult} {result : ScanResult}

theorem firstNamed_concat (results : List ScanResult) (result : ScanResult) :
    firstNamed (results ++ [result]) =
      (firstNamed results).or (if result.ssid = "" then none else some result.ssid) := by
  rw [firstNamed, List.map_append, List.find?_append]
  congr 1
  by_cases hname : result.ssid = ""
  · simp [hname]
  · simp [hname]

/-- The names after one more scan result. -/
theorem names_addResult (wifiData : List WIFIEntity) (result : ScanResult) :
    (addResult connectedSSID wifiData result).map (·.wifiSSID) =
      if result.ssid = "" ∨ result.ssid ∈ wifiData.map (·.wifiSSID) ∨
          (wifiData.map (·.wifiSSID) ≠ [] ∧ some result.ssid = connectedSSID) then
        wifiData.map (·.wifiSSID)
      else wifiData.map (·.wifiSSID) ++ [result.ssid] := by
  have hany : (wifiData.any fun item =>
      item.wifiSSID = result.ssid || some result.ssid = connectedSSID) = true ↔
        result.ssid ∈ wifiData.map (·.wifiSSID) ∨
          (wifiData.map (·.wifiSSID) ≠ [] ∧ some result.ssid = connectedSSID) := by
    simp only [List.any_eq_true, Bool.or_eq_true, decide_eq_true_eq, List.mem_map, ne_eq,
      List.map_eq_nil_iff]
    constructor
    · rintro ⟨item, hitem, hname | hconnected⟩
      · exact Or.inl ⟨item, hitem, hname⟩
      · exact Or.inr ⟨List.ne_nil_of_mem hitem, hconnected⟩
    · rintro (⟨item, hitem, hname⟩ | ⟨hne, hconnected⟩)
      · exact ⟨item, hitem, Or.inl hname⟩
      · obtain ⟨item, hitem⟩ := List.exists_mem_of_ne_nil wifiData hne
        exact ⟨item, hitem, Or.inr hconnected⟩
  unfold addResult
  by_cases hname : result.ssid = ""
  · simp [hname]
  · simp only [String.isEmpty_iff, hname, if_false, false_or, hany]
    split
    · rfl
    · rw [List.map_append]
      rfl

/-- The names collected from the front of a scan. -/
structure Collected (connectedSSID : Option String) (results : List ScanResult)
    (names : List String) : Prop where
  nodup : names.Nodup
  mem : ∀ ssid, ssid ∈ names ↔ ssid ∈ results.map (·.ssid) ∧ ssid ≠ "" ∧
    (firstNamed results = some ssid ∨ some ssid ≠ connectedSSID)
  first : names = [] → firstNamed results = none

theorem Collected.skip {names : List String} (h : Collected connectedSSID results names)
    (hskip : result.ssid = "" ∨ result.ssid ∈ names ∨
      (names ≠ [] ∧ some result.ssid = connectedSSID)) :
    Collected connectedSSID (results ++ [result]) names := by
  have hnone : names = [] → result.ssid = "" := by
    intro hempty
    rcases hskip with hname | hmem | ⟨hne, -⟩
    · exact hname
    · rw [hempty] at hmem
      cases hmem
    · exact absurd hempty hne
  have hfirst : firstNamed (results ++ [result]) = firstNamed results := by
    rw [firstNamed_concat]
    cases hnamed : firstNamed results with
    | some first => rfl
    | none =>
        have hnotMem : names = [] := by
          by_contra hne
          obtain ⟨ssid, hssid⟩ := List.exists_mem_of_ne_nil names hne
          obtain ⟨hscanned, hname, -⟩ := (h.mem ssid).mp hssid
          have hfound := List.find?_eq_none.mp hnamed ssid hscanned
          simp [hname] at hfound
        rw [Option.none_or, if_pos (hnone hnotMem)]
  refine ⟨h.nodup, ?_, fun hempty => hfirst.trans (h.first hempty)⟩
  intro ssid
  rw [hfirst, h.mem, List.map_append, List.mem_append]
  constructor
  · rintro ⟨hscanned, hrest⟩
    exact ⟨Or.inl hscanned, hrest⟩
  · rintro ⟨hscanned | hlast, hname, hkept⟩
    · exact ⟨hscanned, hname, hkept⟩
    · have hssid : ssid = result.ssid := by simpa using hlast
      subst hssid
      rcases hskip with hempty | hmem | ⟨-, hconnected⟩
      · exact absurd hempty hname
      · exact (h.mem _).mp hmem
      · rcases hkept with hfound | hother
        · exact ⟨List.mem_of_find?_eq_some hfound, hname, Or.inl hfound⟩
        · exact absurd hconnected hother

theorem Collected.add {names : List String} (h : Collected connectedSSID results names)
    (hname : result.ssid ≠ "") (hnew : result.ssid ∉ names)
    (hother : names ≠ [] → some result.ssid ≠ connectedSSID) :
    Collected connectedSSID (results ++ [result]) (names ++ [result.ssid]) := by
  have hfirst : firstNamed (results ++ [result]) =
      (firstNamed results).or (some result.ssid) := by
    rw [firstNamed_concat, if_neg hname]
  refine ⟨?_, ?_, by simp⟩
  · rw [List.nodup_append]
    refine ⟨h.nodup, by simp, ?_⟩
    intro ssid hssid other hlast
    rw [List.mem_singleton.mp hlast]
    rintro rfl
    exact hnew hssid
  · intro ssid
    rw [List.mem_append, h.mem, List.mem_singleton, hfirst, List.map_append, List.mem_append]
    constructor
    · rintro (⟨hscanned, hnamed, hkept⟩ | rfl)
      · refine ⟨Or.inl hscanned, hnamed, ?_⟩
        rcases hkept with hfound | hkept
        · exact Or.inl (by rw [hfound, Option.some_or])
        · exact Or.inr hkept
      · refine ⟨Or.inr (by simp), hname, ?_⟩
        by_cases hempty : names = []
        · exact Or.inl (by rw [h.first hempty, Option.none_or])
        · exact Or.inr (hother hempty)
    · rintro ⟨hscanned | hlast, hnamed, hkept⟩
      · by_cases hssid : ssid = result.ssid
        · exact Or.inr hssid
        · refine Or.inl ⟨hscanned, hnamed, ?_⟩
          rcases hkept with hfound | hkept
          · cases hbefore : firstNamed results with
            | some first =>
                rw [hbefore, Option.some_or] at hfound
                exact Or.inl hfound
            | none =>
                rw [hbefore, Option.none_or, Option.some.injEq] at hfound
                exact absurd hfound.symm hssid
          · exact Or.inr hkept
      · exact Or.inr (by simpa using hlast)

theorem collected_foldl (connectedSSID : Option String) (results : List ScanResult) :
    Collected connectedSSID results
      ((results.foldl (addResult connectedSSID) []).map (·.wifiSSID)) := by
  induction results using List.reverseRecOn with
  | nil => exact ⟨List.nodup_nil, by simp, fun _ => rfl⟩
  | append_singleton results result ih =>
      rw [List.foldl_concat, names_addResult]
      split
      · rename_i hskip
        exact ih.skip hskip
      · rename_i hadd
        simp only [not_or, not_and] at hadd
        exact ih.add hadd.1 hadd.2.1 hadd.2.2

end Fold

section Listed

variable {connected : String} {scanResults : List ScanResult}

theorem withoutQuotes_quoted (name : String) : withoutQuotes (quoted name) = withoutQuotes name := by
  simp [withoutQuotes, quoted]

theorem count_listed (ssid : String) :
    ((listed (some (quoted connected)) scanResults).map (·.wifiSSID)).count ssid =
      if ssid ∈ scanResults.map (·.ssid) ∧ ssid ≠ "" ∧
        (firstNamed scanResults = some ssid ∨ ssid ≠ withoutQuotes connected) then 1 else 0 := by
  have hcollected := collected_foldl (some (withoutQuotes connected)) scanResults
  have hperm := (List.perm_insertionSort
    (fun a b : WIFIEntity => b.wifiStrength ≤ a.wifiStrength)
    (scanResults.foldl (addResult (some (withoutQuotes connected))) [])).map (·.wifiSSID)
  have hmem := hcollected.mem ssid
  simp only [ne_eq, Option.some.injEq] at hmem
  rw [listed, Option.map_some, withoutQuotes_quoted, hperm.count_eq]
  split
  · rename_i hlisted
    exact List.count_eq_one_of_mem hcollected.nodup (hmem.mpr hlisted)
  · rename_i hlisted
    exact List.count_eq_zero_of_not_mem fun hin => hlisted (hmem.mp hin)

theorem listed_strongestFirst (connected : Option String) (scanResults : List ScanResult) :
    (listed connected scanResults).Pairwise fun a b => b.wifiStrength ≤ a.wifiStrength := by
  have : Std.Total fun a b : WIFIEntity => b.wifiStrength ≤ a.wifiStrength :=
    ⟨fun a b => le_total b.wifiStrength a.wifiStrength⟩
  have : IsTrans WIFIEntity fun a b => b.wifiStrength ≤ a.wifiStrength :=
    ⟨fun _ _ _ hab hbc => hbc.trans hab⟩
  exact List.pairwise_insertionSort _ _

theorem firstNamed_spec {first : String} (h : firstNamed scanResults = some first) :
    first ∈ scanResults.map (·.ssid) ∧ first ≠ "" := by
  refine ⟨List.mem_of_find?_eq_some h, ?_⟩
  simpa using List.find?_some h

/-- The first name is listed whatever it is, and of the others those that are not
the connected one without its quotes. -/
theorem comparedWith_iff (connected : String) (scanResults : List ScanResult) :
    ComparedWith connected scanResults ↔
      ∀ ssid ∈ scanResults.map (·.ssid), ssid ≠ "" →
        ((firstNamed scanResults = some ssid ∨ ssid ≠ withoutQuotes connected) ↔
          ssid ≠ connected) := by
  unfold ComparedWith
  split
  · rename_i hplain
    rw [hplain]
    constructor
    · intro hfirst ssid _ _
      constructor
      · rintro (hfound | hother)
        · rintro rfl
          exact hfirst hfound
        · exact hother
      · exact Or.inr
    · intro h hfirst
      obtain ⟨hscanned, hnamed⟩ := firstNamed_spec hfirst
      exact (h connected hscanned hnamed).mp (Or.inl hfirst) rfl
  · rename_i hquoted
    constructor
    · rintro ⟨habsent, hbare⟩ ssid hscanned hnamed
      have hother : ssid ≠ connected := by
        rintro rfl
        exact habsent hscanned
      refine ⟨fun _ => hother, fun _ => ?_⟩
      by_cases hssid : ssid = withoutQuotes connected
      · subst hssid
        exact Or.inl (hbare hscanned hnamed)
      · exact Or.inr hssid
    · intro h
      constructor
      · intro hscanned
        have hnamed : connected ≠ "" := by
          rintro rfl
          exact hquoted (by decide)
        have hlisted := (h connected hscanned hnamed).mp (Or.inr (Ne.symm hquoted))
        exact hlisted rfl
      · intro hscanned hnamed
        have hlisted := (h _ hscanned hnamed).mpr hquoted
        exact hlisted.resolve_right fun hne => hne rfl

/-- The other networks are listed once each, and the connected one is not,
exactly when the scan was compared with its name. -/
theorem listsOthersOnce_iff_comparedWith (connected : String) (scanResults : List ScanResult) :
    ListsOthersOnce connected scanResults (listed (some (quoted connected)) scanResults) ↔
      ComparedWith connected scanResults := by
  rw [comparedWith_iff]
  constructor
  · rintro ⟨honce, -⟩ ssid hscanned hnamed
    have hcount := honce ssid
    rw [count_listed] at hcount
    by_cases hlisted : firstNamed scanResults = some ssid ∨ ssid ≠ withoutQuotes connected
    · rw [if_pos ⟨hscanned, hnamed, hlisted⟩] at hcount
      split at hcount
      · rename_i hother
        exact ⟨fun _ => hother.2.2, fun _ => hlisted⟩
      · contradiction
    · rw [if_neg fun h => hlisted h.2.2] at hcount
      split at hcount
      · contradiction
      · rename_i hconnected
        refine ⟨fun h => absurd h hlisted, fun hother => ?_⟩
        exact absurd ⟨hscanned, hnamed, hother⟩ hconnected
  · intro h
    refine ⟨?_, listed_strongestFirst _ _⟩
    intro ssid
    rw [count_listed]
    congr 1
    apply propext
    constructor
    · rintro ⟨hscanned, hnamed, hlisted⟩
      exact ⟨hscanned, hnamed, (h ssid hscanned hnamed).mp hlisted⟩
    · rintro ⟨hscanned, hnamed, hother⟩
      exact ⟨hscanned, hnamed, (h ssid hscanned hnamed).mpr hother⟩

/-- The connected network is listed when it comes first. -/
theorem listed_connected_first :
    ¬ ListsOthersOnce "home" [⟨"home", "00:00:00:00:00:01", "[WPA2-PSK-CCMP]", 3⟩]
      (listed (some (quoted "home")) [⟨"home", "00:00:00:00:00:01", "[WPA2-PSK-CCMP]", 3⟩]) := by
  intro h
  have hcount := h.once "home"
  rw [count_listed] at hcount
  exact absurd hcount (by decide)

end Listed

end WifiProject.App
