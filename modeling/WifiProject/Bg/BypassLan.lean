import WifiProject.Bg.SplitTunnel

/-!
`assets/acl/bypass-lan.acl`, which the proxy behind the tunnel obeys under the
route `bypass-lan`, against the routes of that tunnel.
-/

namespace WifiProject.Bg

open Lib Net Database

def bypassLanLines : List (List Char) :=
  "[proxy_all]".toList :: [] :: "[bypass_list]".toList :: bypassLan.map Block.item

def bypassLanText : String := String.ofList (bypassLanLines.flatMap fun line => line ++ ['\n'])

section Blocks

variable {b : List UInt8}

/-- Every block of the one is inside a block of the other. -/
theorem Listed.of_within {blocks blocks' : List Block}
    (h : ∀ block ∈ blocks, ∃ block' ∈ blocks', block.range.Within block'.range)
    (hb : b.length = 4) (hlisted : Listed blocks b) : Listed blocks' b := by
  obtain ⟨block, hmem, hmatches⟩ := hlisted
  obtain ⟨block', hmem', hwithin⟩ := h block hmem
  refine ⟨block', hmem', (Subnet.matches_iff_range _ _).mpr ⟨hb, ?_⟩⟩
  exact hwithin.contains ((Subnet.matches_iff_range _ _).mp hmatches).2

theorem listed_bypassLan (hb : b.length = 4) :
    Listed bypassLan b ↔ Listed localNetworks b ∨ Listed protocolBlocks b := by
  rw [← listed_append]
  constructor
  · rintro ⟨block, hmem, hmatches⟩
    have hcases : ∀ block ∈ bypassLan,
        block ∈ localNetworks ++ protocolBlocks ∨ block = ⟨192, 0, 0, 0, 24⟩ := by decide
    rcases hcases block hmem with hsame | rfl
    · exact ⟨block, hsame, hmatches⟩
    · let pieces : List Block := ⟨192, 0, 0, 0, 29⟩ :: protocolBlocks.take 5
      have htiles : Range.Tiles 3221225472 (pieces.map Block.range) 3221225728 := by decide
      have hpieces : ∀ block ∈ pieces, block ∈ localNetworks ++ protocolBlocks := by decide
      obtain ⟨-, hle, hlt⟩ := (Subnet.matches_iff_range _ _).mp hmatches
      obtain ⟨range, hrange, hx⟩ := htiles.exists_contains hle hlt
      obtain ⟨piece, hpiece, rfl⟩ := List.mem_map.mp hrange
      exact ⟨piece, hpieces piece hpiece, (Subnet.matches_iff_range _ _).mpr ⟨hb, hx⟩⟩
  · exact Listed.of_within (by decide +kernel) hb

/-- They are on the routes, so they are not left out. -/
theorem not_listed_of_protocolBlocks (hb : b.length = 4) (h : Listed protocolBlocks b) :
    ¬ Listed (localNetworks ++ nameServers) b := by
  refine (listed_bypassPrivateRoute hb).mp (Listed.of_within ?_ hb h)
  decide +kernel

theorem not_listed_of_nameServers (h : Listed nameServers b) :
    ¬ Listed localNetworks b := by
  rintro ⟨block, hmem, hmatches⟩
  obtain ⟨block', hmem', hmatches'⟩ := h
  have hpairwise := (List.pairwise_append.mp (Range.pairwise_of_tiles tiles_bypassPrivateRoute)).2.1
  rw [List.map_append] at hpairwise
  have hdisjoint := (List.pairwise_append.mp hpairwise).2.2 _ (List.mem_map_of_mem hmem) _
    (List.mem_map_of_mem hmem')
  exact hdisjoint _ ((Subnet.matches_iff_range _ _).mp hmatches).2
    ((Subnet.matches_iff_range _ _).mp hmatches').2

end Blocks

section Loading

variable {Url : Type} {platform : Acl.Platform Url}

structure ReadsDotted (platform : Acl.Platform Url) : Prop where
  parse_dotted : ∀ {address : InetAddress}, address.address.length = 4 →
    platform.parseNumericAddress (dotted address) = some address
  hostAddress_dotted : ∀ {address : InetAddress}, address.address.length = 4 →
    platform.hostAddress address = dotted address

theorem entry_bypassLan (hdocumented : platform.Documented) (hdotted : ReadsDotted platform) :
    ∀ subnet ∈ bypassLan.map Block.subnet, Acl.EntryLine (subnet.toString platform.hostAddress) ∧
      Subnet.fromString platform.parseNumericAddress (subnet.toString platform.hostAddress) =
        some subnet := by
  intro subnet hmem
  obtain ⟨block, -, rfl⟩ := List.mem_map.mp hmem
  have htext := hdotted.parse_dotted (show block.subnet.address.address.length = 4 from rfl)
  refine ⟨Acl.entryLine_subnet hdocumented htext, ?_⟩
  apply Subnet.fromString_toString block.subnet (hdocumented.parse_hostAddress htext)
  intro hslash
  exact (hdocumented.hostAddress_chars htext '/' hslash).1 rfl

theorem readLines_bypassLanText (hdocumented : platform.Documented)
    (hdotted : ReadsDotted platform) :
    Text.readLines bypassLanText.toList = "[proxy_all]".toList :: [] :: "[bypass_list]".toList ::
      (bypassLan.map Block.subnet).map (Subnet.toString platform.hostAddress) := by
  have hitems : bypassLan.map Block.item =
      (bypassLan.map Block.subnet).map (Subnet.toString platform.hostAddress) := by
    rw [List.map_map]
    exact List.map_congr_left fun block _ => block.item_eq_toString (hdotted.hostAddress_dotted rfl)
  have hone : ∀ line ∈ bypassLanLines, Text.OneLine line := by
    rw [bypassLanLines, hitems]
    simp only [List.forall_mem_cons]
    refine ⟨by decide, by decide, by decide, ?_⟩
    intro line hline
    obtain ⟨subnet, hsubnet, rfl⟩ := List.mem_map.mp hline
    exact (entry_bypassLan hdocumented hdotted subnet hsubnet).1.oneLine
  rw [bypassLanText, String.toList_ofList, Text.readLines_flatMap _ hone, bypassLanLines, hitems]

/-- The list as the parser takes it. -/
theorem fromReader_bypassLan (hdocumented : platform.Documented) (hdotted : ReadsDotted platform) :
    Acl.fromReader platform {} bypassLanText false =
      .ok { subnets := bypassLan.map Block.subnet } := by
  have hmode := @Acl.Parse.line_mode Url platform (Acl.Parse.start false) false
  rw [if_neg (by decide)] at hmode
  have hblank (state : Acl.Parse Url) : state.line platform [] = .ok state := rfl
  have hheader (state : Acl.Parse Url) : state.line platform "[bypass_list]".toList =
      .ok { state with side := some .bypass } := Acl.Parse.line_header .bypass
  have hsubnets (state : Acl.Parse Url) (hside : state.side = some .bypass) :=
    Acl.Parse.lines_subnets hside _ (entry_bypassLan hdocumented hdotted)
  have hparse : Acl.parse platform bypassLanText false = .ok
      { bypass := false, side := some .bypass, bypassSubnets := bypassLan.map Block.subnet } := by
    rw [Acl.parse, readLines_bypassLanText hdocumented hdotted, Acl.Parse.lines, hmode, Except.bind,
      Acl.Parse.lines, hblank, Except.bind, Acl.Parse.lines, hheader, Except.bind, hsubnets _ rfl]
    simp [Acl.Parse.add, Acl.Parse.start]
  exact Acl.fromReader_of_parse hparse

end Loading

/-- Under the route `bypass-lan` the tunnel and the list disagree on exactly two
kinds of addresses: the router and the protocol blocks are taken and then let
through, and the blocks of the name servers never reach the proxy, which would
not let them through. -/
theorem bypassLan_disagreement {Url : Type} (platform : Acl.Platform Url)
    (hdocumented : platform.Documented) (hdotted : ReadsDotted platform) (profile : Profile)
    (hroute : profile.route = "bypass-lan") :
    ∃ acl, Acl.fromReader platform {} bypassLanText false = .ok acl ∧ acl.bypass = false ∧
      ∀ b, b.length = 4 →
        let bypassed := ∃ subnet ∈ platform.subnets.items acl.subnets, subnet.Matches b
        (VpnService.Inside profile b ∧ bypassed ↔
          b = VpnService.router.address ∨ Listed protocolBlocks b) ∧
        (¬ VpnService.Inside profile b ∧ ¬ bypassed ↔ Listed nameServers b) := by
  refine ⟨_, fromReader_bypassLan hdocumented hdotted, rfl, ?_⟩
  intro b hb bypassed
  have hbypassed : bypassed ↔ Listed localNetworks b ∨ Listed protocolBlocks b := by
    rw [← listed_bypassLan hb]
    simp only [bypassed, Sorter.mem_items, List.mem_map, exists_exists_and_eq_and, Listed]
  have hinside : VpnService.Inside profile b ↔
      b = VpnService.router.address ∨ ¬ Listed (localNetworks ++ nameServers) b := by
    have hall : VpnService.routesAll "bypass-lan" = false := by decide
    simp [VpnService.Inside, hroute, hall, hb]
  have hrouter : b = VpnService.router.address → Listed localNetworks b := by
    rintro rfl
    exact ⟨⟨172, 16, 0, 0, 12⟩, by decide, (Subnet.matches_iff_range _ _).mpr (by decide)⟩
  rw [hbypassed, hinside]
  refine ⟨⟨?_, ?_⟩, ⟨?_, ?_⟩⟩
  · rintro ⟨heq | hrouted, hkept⟩
    · exact .inl heq
    · exact .inr (hkept.resolve_left fun hlocal => hrouted (listed_append.mpr (.inl hlocal)))
  · rintro (heq | hprotocol)
    · exact ⟨.inl heq, .inl (hrouter heq)⟩
    · exact ⟨.inr (not_listed_of_protocolBlocks hb hprotocol), .inr hprotocol⟩
  · rintro ⟨houtside, hkept⟩
    have hlisted : Listed (localNetworks ++ nameServers) b :=
      not_not.mp fun hnone => houtside (.inr hnone)
    exact (listed_append.mp hlisted).resolve_left fun hlocal => hkept (.inl hlocal)
  · intro hserver
    have hlisted := listed_append.mpr (Or.inr (a := Listed localNetworks b) hserver)
    have hlocal := not_listed_of_nameServers hserver
    refine ⟨?_, ?_⟩
    · rintro (heq | hrouted)
      · exact hlocal (hrouter heq)
      · exact hrouted hlisted
    · rintro (hlisted' | hprotocol)
      · exact hlocal hlisted'
      · exact not_listed_of_protocolBlocks hb hprotocol hlisted

theorem plainPlatform_readsDotted : ReadsDotted Acl.plainPlatform where
  parse_dotted h := parseDotted_dotted h
  hostAddress_dotted _ := rfl

theorem bypassLan_disagreement_plain :
    ∃ acl, Acl.fromReader Acl.plainPlatform {} bypassLanText false = .ok acl ∧ acl.bypass = false ∧
      ∀ b, b.length = 4 →
        let bypassed := ∃ subnet ∈ Acl.plainPlatform.subnets.items acl.subnets, subnet.Matches b
        (VpnService.Inside { route := "bypass-lan" } b ∧ bypassed ↔
          b = VpnService.router.address ∨ Listed protocolBlocks b) ∧
        (¬ VpnService.Inside { route := "bypass-lan" } b ∧ ¬ bypassed ↔ Listed nameServers b) :=
  bypassLan_disagreement Acl.plainPlatform Acl.plainPlatform_documented plainPlatform_readsDotted
    { route := "bypass-lan" } rfl

end WifiProject.Bg
