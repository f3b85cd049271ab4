import WifiProject.Acl.Acl

/-!
What `flatten` computes: the rules of every list that an import path leads to.
Imports may be cyclic; the depth bounds the paths.
-/

namespace WifiProject.Acl

open Lib Net

variable {Url : Type} (platform : Platform Url) (connect : Url → String)

/-- The lists along an import path, each parsed with the mode of the one before
as default. -/
inductive ImportPath : Acl Url → List (Acl Url) → Prop where
  | here (acl : Acl Url) : ImportPath acl [acl]
  | step {acl child : Acl Url} {lists : List (Acl Url)} (url : Url)
      (hurl : url ∈ platform.urls.items acl.urls)
      (hchild : download platform connect acl.bypass url = .ok child)
      (hpath : ImportPath child lists) : ImportPath acl (acl :: lists)

/-- `last` is the end of an import path of at most `depth` imports. -/
def Reaches (depth : Nat) (acl last : Acl Url) : Prop :=
  ∃ lists, ImportPath platform connect acl lists ∧ lists.length ≤ depth + 1 ∧
    lists.getLast? = some last

/-- The same, and every list on the path has the mode of the first. -/
def ReachesInMode (depth : Nat) (acl last : Acl Url) : Prop :=
  ∃ lists, ImportPath platform connect acl lists ∧ lists.length ≤ depth + 1 ∧
    lists.getLast? = some last ∧ ∀ list ∈ lists, list.bypass = acl.bypass

/-- The flattened list has the rules of all lists reached, and no imports. -/
structure Flattened (depth : Nat) (acl result : Acl Url) : Prop where
  urls : result.urls = []
  bypass : result.bypass = acl.bypass
  bypassHostnames : ∀ hostname, hostname ∈ platform.hostnames.items result.bypassHostnames ↔
    ∃ last, Reaches platform connect depth acl last ∧
      hostname ∈ platform.hostnames.items last.bypassHostnames
  proxyHostnames : ∀ hostname, hostname ∈ platform.hostnames.items result.proxyHostnames ↔
    ∃ last, Reaches platform connect depth acl last ∧
      hostname ∈ platform.hostnames.items last.proxyHostnames
  subnets : ∀ subnet, subnet ∈ platform.subnets.items result.subnets ↔
    ∃ last, ReachesInMode platform connect depth acl last ∧
      subnet ∈ platform.subnets.items last.subnets

section Paths

variable {platform connect} {acl last : Acl Url} {depth : Nat}

theorem ImportPath.eq_cons {lists : List (Acl Url)} (h : ImportPath platform connect acl lists) :
    ∃ rest, lists = acl :: rest := by
  cases h with
  | here => exact ⟨[], rfl⟩
  | step url hurl hchild hpath => exact ⟨_, rfl⟩

theorem getLast?_cons_path {lists : List (Acl Url)} {child : Acl Url}
    (h : ImportPath platform connect child lists) :
    (acl :: lists).getLast? = lists.getLast? := by
  obtain ⟨rest, rfl⟩ := h.eq_cons
  rw [List.getLast?_cons_cons]

theorem reaches_zero_iff : Reaches platform connect 0 acl last ↔ last = acl := by
  constructor
  · rintro ⟨lists, hpath, hlength, hlast⟩
    obtain ⟨rest, rfl⟩ := hpath.eq_cons
    rw [List.length_cons] at hlength
    obtain rfl : rest = [] := List.eq_nil_of_length_eq_zero (by omega)
    simpa using hlast.symm
  · rintro rfl
    exact ⟨[last], .here last, by simp, rfl⟩

/-- A path ends where it starts or goes on from an import. -/
theorem reaches_succ_iff :
    Reaches platform connect (depth + 1) acl last ↔ last = acl ∨
      ∃ url ∈ platform.urls.items acl.urls, ∃ child,
        download platform connect acl.bypass url = .ok child ∧
          Reaches platform connect depth child last := by
  constructor
  · rintro ⟨lists, hpath, hlength, hlast⟩
    cases hpath with
    | here => exact Or.inl (by simpa using hlast.symm)
    | step url hurl hchild hpath =>
        rw [getLast?_cons_path hpath] at hlast
        rw [List.length_cons] at hlength
        exact Or.inr ⟨url, hurl, _, hchild, _, hpath, by omega, hlast⟩
  · rintro (rfl | ⟨url, hurl, child, hchild, lists, hpath, hlength, hlast⟩)
    · exact ⟨[last], .here last, by simp, rfl⟩
    · refine ⟨acl :: lists, .step url hurl hchild hpath, ?_, ?_⟩
      · rw [List.length_cons]
        omega
      · rw [getLast?_cons_path hpath]
        exact hlast

theorem reachesInMode_zero_iff : ReachesInMode platform connect 0 acl last ↔ last = acl := by
  constructor
  · rintro ⟨lists, hpath, hlength, hlast, -⟩
    exact reaches_zero_iff.mp ⟨lists, hpath, hlength, hlast⟩
  · rintro rfl
    exact ⟨[last], .here last, by simp, rfl, by simp⟩

theorem reachesInMode_succ_iff :
    ReachesInMode platform connect (depth + 1) acl last ↔ last = acl ∨
      ∃ url ∈ platform.urls.items acl.urls, ∃ child,
        download platform connect acl.bypass url = .ok child ∧ child.bypass = acl.bypass ∧
          ReachesInMode platform connect depth child last := by
  constructor
  · rintro ⟨lists, hpath, hlength, hlast, hmode⟩
    cases hpath with
    | here => exact Or.inl (by simpa using hlast.symm)
    | step url hurl hchild hpath =>
        rw [getLast?_cons_path hpath] at hlast
        rw [List.length_cons] at hlength
        rw [List.forall_mem_cons] at hmode
        obtain ⟨rest, hcons⟩ := hpath.eq_cons
        have hsame := hmode.2 _ (hcons ▸ List.mem_cons_self ..)
        refine Or.inr ⟨url, hurl, _, hchild, hsame, _, hpath, by omega, hlast, ?_⟩
        intro list hlist
        rw [hmode.2 list hlist, hsame]
  · rintro (rfl | ⟨url, hurl, child, hchild, hsame, lists, hpath, hlength, hlast, hmode⟩)
    · exact ⟨[last], .here last, by simp, rfl, by simp⟩
    · refine ⟨acl :: lists, .step url hurl hchild hpath, ?_, ?_, ?_⟩
      · rw [List.length_cons]
        omega
      · rw [getLast?_cons_path hpath]
        exact hlast
      · rw [List.forall_mem_cons]
        refine ⟨rfl, ?_⟩
        intro list hlist
        rw [hmode list hlist, hsame]

/-- The rules of a list are its own and those its imports lead to. -/
theorem exists_reaches_succ_iff {child : Url → Acl Url} {holds : Acl Url → Prop}
    (hchild : ∀ url, download platform connect acl.bypass url = .ok (child url)) :
    (∃ last, Reaches platform connect (depth + 1) acl last ∧ holds last) ↔
      holds acl ∨ ∃ url ∈ platform.urls.items acl.urls,
        ∃ last, Reaches platform connect depth (child url) last ∧ holds last := by
  simp only [reaches_succ_iff, hchild, Except.ok.injEq, exists_eq_left']
  constructor
  · rintro ⟨last, rfl | ⟨url, hurl, hreach⟩, hholds⟩
    · exact Or.inl hholds
    · exact Or.inr ⟨url, hurl, last, hreach, hholds⟩
  · rintro (hholds | ⟨url, hurl, last, hreach, hholds⟩)
    · exact ⟨acl, Or.inl rfl, hholds⟩
    · exact ⟨last, Or.inr ⟨url, hurl, hreach⟩, hholds⟩

theorem exists_reachesInMode_succ_iff {child : Url → Acl Url} {holds : Acl Url → Prop}
    (hchild : ∀ url, download platform connect acl.bypass url = .ok (child url)) :
    (∃ last, ReachesInMode platform connect (depth + 1) acl last ∧ holds last) ↔
      holds acl ∨ ∃ url ∈ platform.urls.items acl.urls, (child url).bypass = acl.bypass ∧
        ∃ last, ReachesInMode platform connect depth (child url) last ∧ holds last := by
  simp only [reachesInMode_succ_iff, hchild, Except.ok.injEq, exists_eq_left']
  constructor
  · rintro ⟨last, rfl | ⟨url, hurl, hmode, hreach⟩, hholds⟩
    · exact Or.inl hholds
    · exact Or.inr ⟨url, hurl, hmode, last, hreach, hholds⟩
  · rintro (hholds | ⟨url, hurl, hmode, last, hreach, hholds⟩)
    · exact ⟨acl, Or.inl rfl, hholds⟩
    · exact ⟨last, Or.inr ⟨url, hurl, hmode, hreach⟩, hholds⟩

end Paths

section Loop

variable {platform}

/-- One import adds the hostnames, and the subnets when the modes agree. -/
theorem mem_merge_subnets (acl child : Acl Url) (subnet : Subnet) :
    subnet ∈ (merge platform acl child).subnets ↔
      subnet ∈ acl.subnets ∨ (child.bypass = acl.bypass ∧ subnet ∈ child.subnets) := by
  unfold merge
  split_ifs with hmode
  · simp [Sorter.mem_items, Ne.symm hmode]
  · simp [Sorter.mem_items, not_not.mp hmode]

theorem mem_merge_bypassHostnames (acl child : Acl Url) (hostname : String) :
    hostname ∈ (merge platform acl child).bypassHostnames ↔
      hostname ∈ acl.bypassHostnames ∨ hostname ∈ child.bypassHostnames := by
  unfold merge
  split_ifs <;> simp [Sorter.mem_items]

theorem mem_merge_proxyHostnames (acl child : Acl Url) (hostname : String) :
    hostname ∈ (merge platform acl child).proxyHostnames ↔
      hostname ∈ acl.proxyHostnames ∨ hostname ∈ child.proxyHostnames := by
  unfold merge
  split_ifs <;> simp [Sorter.mem_items]

/-- What a list has after its imports `urls`, when each of them loads. -/
theorem importAll_spec (load : Bool → Url → Except Failure (Acl Url))
    (loaded : Url → Acl Url) (urls : List Url) (acl : Acl Url)
    (hload : ∀ url ∈ urls, load acl.bypass url = .ok (loaded url)) :
    ∃ result, importAll platform load urls acl = .ok result ∧ result.bypass = acl.bypass ∧
      (∀ hostname, hostname ∈ result.bypassHostnames ↔ hostname ∈ acl.bypassHostnames ∨
        ∃ url ∈ urls, hostname ∈ (loaded url).bypassHostnames) ∧
      (∀ hostname, hostname ∈ result.proxyHostnames ↔ hostname ∈ acl.proxyHostnames ∨
        ∃ url ∈ urls, hostname ∈ (loaded url).proxyHostnames) ∧
      (∀ subnet, subnet ∈ result.subnets ↔ subnet ∈ acl.subnets ∨
        ∃ url ∈ urls, (loaded url).bypass = acl.bypass ∧ subnet ∈ (loaded url).subnets) := by
  induction urls generalizing acl with
  | nil => exact ⟨acl, rfl, rfl, by simp, by simp, by simp⟩
  | cons url rest ih =>
      rw [List.forall_mem_cons] at hload
      obtain ⟨result, hresult, hbypass, hbypassHostnames, hproxyHostnames, hsubnets⟩ :=
        ih (merge platform acl (loaded url)) hload.2
      refine ⟨result, ?_, hbypass, ?_, ?_, ?_⟩
      · rw [importAll, hload.1]
        exact hresult
      · intro hostname
        rw [hbypassHostnames, mem_merge_bypassHostnames, List.exists_mem_cons_iff, or_assoc]
      · intro hostname
        rw [hproxyHostnames, mem_merge_proxyHostnames, List.exists_mem_cons_iff, or_assoc]
      · intro subnet
        rw [hsubnets, mem_merge_subnets, List.exists_mem_cons_iff, or_assoc]
        rfl

end Loop

section Depth

variable {platform connect}

/-- The recursion, by depth: a child contributes what it has after its own
imports. -/
theorem flattenLevels_spec
    (htexts : ∀ bypass url, ∃ child, download platform connect bypass url = .ok child)
    (depth : Nat) (acl : Acl Url) :
    ∃ result, flattenLevels platform connect depth acl = .ok result ∧
      Flattened platform connect depth acl result := by
  induction depth generalizing acl with
  | zero =>
      refine ⟨_, rfl, rfl, rfl, ?_, ?_, ?_⟩
      · simp [reaches_zero_iff]
      · simp [reaches_zero_iff]
      · simp [reachesInMode_zero_iff]
  | succ depth ih =>
      choose child hchild using fun url => htexts acl.bypass url
      choose loaded hloaded hflattened using fun url => ih (child url)
      have hload : ∀ url, (download platform connect acl.bypass url).bind
          (flattenLevels platform connect depth) = .ok (loaded url) := by
        intro url
        rw [hchild]
        exact hloaded url
      obtain ⟨result, hresult, hbypass, hbypassHostnames, hproxyHostnames, hsubnets⟩ :=
        importAll_spec (fun bypass url => (download platform connect bypass url).bind
          (flattenLevels platform connect depth)) loaded (platform.urls.items acl.urls) acl
          fun url _ => hload url
      refine ⟨{ result with urls := [] }, ?_, rfl, hbypass, ?_, ?_, ?_⟩
      · rw [flattenLevels, hresult]
        rfl
      · intro hostname
        have hrules := fun url => (hflattened url).bypassHostnames hostname
        simp only [Sorter.mem_items] at hrules ⊢
        rw [exists_reaches_succ_iff hchild, hbypassHostnames]
        simp only [hrules]
      · intro hostname
        have hrules := fun url => (hflattened url).proxyHostnames hostname
        simp only [Sorter.mem_items] at hrules ⊢
        rw [exists_reaches_succ_iff hchild, hproxyHostnames]
        simp only [hrules]
      · intro subnet
        have hrules := fun url => (hflattened url).subnets subnet
        simp only [Sorter.mem_items] at hrules ⊢
        rw [exists_reachesInMode_succ_iff hchild, hsubnets]
        simp only [hrules, fun url => (hflattened url).bypass]

/-- Flattening ends, with no imports left, the mode unchanged and exactly the
rules that import paths of at most `depth` steps lead to. -/
theorem flatten_flattened (platform : Platform Url) (connect : Url → String)
    (htexts : ∀ bypass url, ∃ child, download platform connect bypass url = .ok child)
    (depth : Int) (acl : Acl Url) :
    ∃ result, flatten platform connect depth acl = .ok result ∧
      Flattened platform connect depth.toNat acl result :=
  flattenLevels_spec htexts depth.toNat acl

/-- Two lists that import each other, in different modes. -/
def cyclicTexts (url : String) : String :=
  if url = "http://a/" then "[bypass_all]\n[proxy_list]\n10.0.0.0/8\n#IMPORT_URL <http://b/>\n"
  else "[proxy_all]\n[proxy_list]\nexample\n#IMPORT_URL <http://a/>\n"

theorem flatten_flattened_cyclic :
    (∀ bypass url, ∃ child, download plainPlatform cyclicTexts bypass url = .ok child) ∧
    ∃ result, flatten plainPlatform cyclicTexts 10 { urls := ["http://a/"], bypass := true } =
        .ok result ∧
      Flattened plainPlatform cyclicTexts 10 { urls := ["http://a/"], bypass := true } result := by
  have htexts : ∀ bypass url, ∃ child,
      download plainPlatform cyclicTexts bypass url = .ok child := by
    intro bypass url
    have hloads : ∀ bypass,
        (download plainPlatform cyclicTexts bypass "http://a/").toOption.isSome = true ∧
        (download plainPlatform cyclicTexts bypass "http://b/").toOption.isSome = true := by
      decide +kernel
    by_cases hurl : url = "http://a/"
    · subst hurl
      cases hchild : download plainPlatform cyclicTexts bypass "http://a/" with
      | error failure => simpa [hchild, Except.toOption] using (hloads bypass).1
      | ok child => exact ⟨child, rfl⟩
    · have hsame : download plainPlatform cyclicTexts bypass url =
          download plainPlatform cyclicTexts bypass "http://b/" := by
        have hother : cyclicTexts url = cyclicTexts "http://b/" := by
          simp [cyclicTexts, hurl]
        rw [download, download, hother]
      rw [hsame]
      cases hchild : download plainPlatform cyclicTexts bypass "http://b/" with
      | error failure => simpa [hchild, Except.toOption] using (hloads bypass).2
      | ok child => exact ⟨child, rfl⟩
  exact ⟨htexts, flatten_flattened plainPlatform cyclicTexts htexts 10 _⟩

end Depth

end WifiProject.Acl
