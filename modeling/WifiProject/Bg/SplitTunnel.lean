import WifiProject.Bg.VpnRoutes

/-!
Which addresses go into the tunnel, and how that fits what `bypass-lan.acl`
tells the proxy at its end: an address the list lets through should not have
been taken in the first place.
-/

namespace WifiProject.Bg

open Lib Net Database

def Listed (blocks : List Block) (b : List UInt8) : Prop :=
  ∃ block ∈ blocks, block.subnet.Matches b

namespace Block

def range (block : Block) : Range := block.subnet.range

end Block

section Listed

variable {b : List UInt8}

theorem bytesToNat_lt (hb : b.length = 4) : bytesToNat b < 2 ^ 32 := by
  have hlt := binary_lt (bits b)
  rwa [length_bits, binary_bits, hb] at hlt

theorem listed_iff {blocks : List Block} (hb : b.length = 4) :
    Listed blocks b ↔ ∃ range ∈ blocks.map Block.range, range.Contains (bytesToNat b) := by
  have hmatches (block : Block) :
      block.subnet.Matches b ↔ block.range.Contains (bytesToNat b) := by
    rw [Subnet.matches_iff_range]
    exact and_iff_right hb
  simp only [Listed, List.mem_map, exists_exists_and_eq_and, hmatches]

@[simp] theorem listed_append {blocks blocks' : List Block} :
    Listed (blocks ++ blocks') b ↔ Listed blocks b ∨ Listed blocks' b := by
  simp only [Listed, List.mem_append, or_and_right, exists_or]

/-- The routes and what they leave out fill the address space. -/
theorem tiles_bypassPrivateRoute :
    Range.Tiles 0 (Range.sorted (bypassPrivateRoute.map Block.range ++
      (localNetworks ++ nameServers).map Block.range)) (2 ^ 32) := by
  decide +kernel

theorem listed_bypassPrivateRoute (hb : b.length = 4) :
    Listed bypassPrivateRoute b ↔ ¬ Listed (localNetworks ++ nameServers) b := by
  have htiles := Range.contains_iff_of_tiles tiles_bypassPrivateRoute (bytesToNat_lt hb)
  rw [listed_iff hb, listed_iff hb, not_exists]
  simpa only [not_and] using htiles

end Listed

namespace VpnService

def Builder.Routed {Network : Type} (builder : Builder Network) (b : List UInt8) : Prop :=
  ∃ route ∈ builder.routes, route.Matches b

/-- What a profile sends through the tunnel. -/
def Inside (profile : Profile) (b : List UInt8) : Prop :=
  (b.length = 4 ∧ (routesAll profile.route = true ∨ b = router.address ∨
    ¬ Listed (localNetworks ++ nameServers) b)) ∨
  (b.length = 16 ∧ profile.ipv6 = true ∧
    (routesAll profile.route = true ∨ (bits b).take 3 = [false, false, true]))

def unspecifiedRoute : Subnet := ⟨unspecified, 0, by decide⟩
def unspecifiedRoute6 : Subnet := ⟨unspecified6, 0, by decide⟩
def routerRoute : Subnet := ⟨router, 32, by decide⟩
def globalUnicastRoute : Subnet := ⟨globalUnicast, 3, by decide⟩

/-- The routes of a profile, in the order in which they are added. -/
def routesOf (profile : Profile) : List Subnet :=
  if routesAll profile.route then
    unspecifiedRoute :: if profile.ipv6 then [unspecifiedRoute6] else []
  else
    bypassPrivateRoute.map Block.subnet ++
      routerRoute :: if profile.ipv6 then [globalUnicastRoute] else []

section Routes

variable {Network : Type} {platform : Platform}

/-- One more route after others. -/
theorem addRoute_push (hplatform : platform.Documented) {text : String} {subnet : Subnet}
    (htext : platform.parseNumericAddress text = some subnet.address) (hroutable : Routable subnet)
    (builder : Option (Builder Network)) (routes : List Subnet) :
    addRoute platform text subnet.prefixSize (builder.map (·.push routes)) =
      .ok (builder.map (·.push (routes ++ [subnet]))) := by
  rw [addRoute_eq hplatform htext hroutable]
  cases builder with
  | none => rfl
  | some builder => simp [Builder.push_push]

/-- None of the routes is refused. -/
theorem addRoutes_eq (hplatform : platform.Documented) (profile : Profile)
    (builder : Option (Builder Network)) :
    addRoutes platform profile builder = .ok (builder.map (·.push (routesOf profile))) := by
  have hdotted : dotted unspecified = "0.0.0.0" ∧ dotted router = PRIVATE_VLAN4_ROUTER := by decide
  have hunspecified : platform.parseNumericAddress "0.0.0.0" = some unspecifiedRoute.address :=
    hdotted.1 ▸ hplatform.parse_dotted rfl
  have hrouter : platform.parseNumericAddress PRIVATE_VLAN4_ROUTER = some routerRoute.address :=
    hdotted.2 ▸ hplatform.parse_dotted rfl
  have hroutable : Routable unspecifiedRoute ∧ Routable unspecifiedRoute6 ∧ Routable routerRoute ∧
      Routable globalUnicastRoute := by decide
  have hall : addRoute platform "0.0.0.0" 0 builder = .ok (builder.map (·.push [unspecifiedRoute])) :=
    addRoute_eq hplatform hunspecified hroutable.1 builder
  have hall6 : addRoute platform "::" 0 (builder.map (·.push [unspecifiedRoute])) =
      .ok (builder.map (·.push ([unspecifiedRoute] ++ [unspecifiedRoute6]))) :=
    addRoute_push hplatform hplatform.parse_unspecified6 hroutable.2.1 builder _
  have hlocal (routes : List Subnet) :
      addRoute platform PRIVATE_VLAN4_ROUTER 32 (builder.map (·.push routes)) =
        .ok (builder.map (·.push (routes ++ [routerRoute]))) :=
    addRoute_push hplatform hrouter hroutable.2.2.1 builder routes
  have hglobal (routes : List Subnet) :
      addRoute platform "2000::" 3 (builder.map (·.push routes)) =
        .ok (builder.map (·.push (routes ++ [globalUnicastRoute]))) :=
    addRoute_push hplatform hplatform.parse_globalUnicast hroutable.2.2.2 builder routes
  unfold addRoutes routesOf
  split_ifs with hroute hipv6 hipv6
  · rw [hall]
    exact hall6
  · rw [hall]
    rfl
  · rw [addItems_eq hplatform _ routable_bypassPrivateRoute]
    simp only [Except.bind, hlocal, hglobal, List.append_assoc, List.singleton_append]
  · rw [addItems_eq hplatform _ routable_bypassPrivateRoute]
    simp only [Except.bind, hlocal]

end Routes

section Matching

variable {b : List UInt8}

theorem unspecifiedRoute_matches : unspecifiedRoute.Matches b ↔ b.length = 4 := by
  rw [Subnet.matches_iff_bits]
  simp [unspecifiedRoute, unspecified]

theorem unspecifiedRoute6_matches : unspecifiedRoute6.Matches b ↔ b.length = 16 := by
  rw [Subnet.matches_iff_bits]
  simp [unspecifiedRoute6, unspecified6]

theorem routerRoute_matches : routerRoute.Matches b ↔ b = router.address := by
  have hfull {xs : List UInt8} (hxs : xs.length = 4) : (bits xs).take 32 = bits xs :=
    List.take_of_length_le (by rw [length_bits, hxs])
  rw [Subnet.matches_iff_bits]
  constructor
  · rintro ⟨hlength, hbits⟩
    change (bits b).take 32 = (bits router.address).take 32 at hbits
    rw [hfull hlength, @hfull router.address rfl] at hbits
    exact bits_inj hlength hbits
  · rintro rfl
    exact ⟨rfl, rfl⟩

theorem globalUnicastRoute_matches :
    globalUnicastRoute.Matches b ↔ b.length = 16 ∧ (bits b).take 3 = [false, false, true] := by
  have hprefix : (bits globalUnicast.address).take 3 = [false, false, true] := by decide
  rw [Subnet.matches_iff_bits, ← hprefix]
  rfl

theorem matches_bypassPrivateRoute :
    (∃ route ∈ bypassPrivateRoute.map Block.subnet, route.Matches b) ↔
      b.length = 4 ∧ ¬ Listed (localNetworks ++ nameServers) b := by
  have hlength : Listed bypassPrivateRoute b → b.length = 4 := by
    rintro ⟨block, -, hmatches⟩
    exact ((Subnet.matches_iff_bits _ _).mp hmatches).1
  simp only [List.mem_map, exists_exists_and_eq_and]
  change Listed bypassPrivateRoute b ↔ _
  constructor
  · intro hlisted
    exact ⟨hlength hlisted, (listed_bypassPrivateRoute (hlength hlisted)).mp hlisted⟩
  · rintro ⟨hb, hnone⟩
    exact (listed_bypassPrivateRoute hb).mpr hnone

theorem matches_routesOf (profile : Profile) (b : List UInt8) :
    (∃ route ∈ routesOf profile, route.Matches b) ↔ Inside profile b := by
  have hrouter : b = router.address → b.length = 4 := by
    rintro rfl
    rfl
  unfold routesOf Inside
  split_ifs with hroute hipv6 hipv6
  · simp [hroute, hipv6, unspecifiedRoute_matches, unspecifiedRoute6_matches]
  · simp [hroute, hipv6, unspecifiedRoute_matches]
  · simp only [List.mem_append, List.mem_cons, List.not_mem_nil, or_false, or_and_right, exists_or,
      exists_eq_left, routerRoute_matches, globalUnicastRoute_matches, matches_bypassPrivateRoute]
    tauto
  · simp only [List.mem_append, List.mem_cons, List.not_mem_nil, or_false, or_and_right, exists_or,
      exists_eq_left, routerRoute_matches, matches_bypassPrivateRoute]
    tauto

end Matching

variable {Network : Type}

theorem newBuilder_spec {environment : Environment Network} {profile : Profile}
    {builder : Builder Network} (h : newBuilder environment profile = some builder) :
    builder.routes = [] ∧ builder.dnsServers = [PRIVATE_VLAN4_ROUTER] := by
  unfold newBuilder at h
  split at h
  · cases h
    exact ⟨rfl, rfl⟩
  · cases h

theorem routed_setNetworks (environment : Environment Network) {profile : Profile}
    {builder : Builder Network} (hroutes : builder.routes = []) (b : List UInt8) :
    (setNetworks environment profile (builder.push (routesOf profile))).Routed b ↔
      Inside profile b := by
  change (∃ route ∈ builder.routes ++ routesOf profile, route.Matches b) ↔ _
  rw [hroutes, List.nil_append]
  exact matches_routesOf profile b

/-- Dotted quads and the two other addresses that `startVpn` spells out. -/
def plainPlatform : Platform where
  parseNumericAddress text :=
    if text = "::" then some unspecified6 else if text = "2000::" then some globalUnicast
    else parseDotted text
  hostAddress := dotted
  validRoute address prefixLength :=
    if h : prefixLength ≤ 8 * address.address.length then
      decide (Routable ⟨address, prefixLength, h⟩)
    else false

theorem plainPlatform_documented : plainPlatform.Documented where
  parse_dotted := by
    intro address h
    have hcolon : ∀ text : String, ':' ∈ text.toList → dotted address ≠ text := by
      rintro text hmem rfl
      rcases dotted_chars hmem with hdot | hdigit
      · exact absurd hdot (by decide)
      · exact absurd hdigit (by decide)
    simp only [plainPlatform, hcolon "::" (by decide), hcolon "2000::" (by decide), if_false]
    exact parseDotted_dotted h
  hostAddress_dotted _ := rfl
  parse_unspecified6 := rfl
  parse_globalUnicast := rfl
  validRoute subnet hroutable := by
    simp only [plainPlatform, dif_pos subnet.inRange]
    exact decide_eq_true hroutable

def phone : Environment Unit where
  configured := true
  packageName := "com.bird.yy.wifiproject"
  sdkInt := 30
  underlyingNetwork := some ()
  tun2socks := "libtun2socks.so"
  listenAddress := "127.0.0.1"
  portProxy := 1080
  portLocalDns := 5450

/-- The tunnel is refused by the device or takes exactly what the profile means
to send through it; the name server the device is told of is inside. -/
theorem startVpn_routed (platform : Platform) (hplatform : platform.Documented)
    (environment : Environment Network) (establish : Builder Network → Bool) (profile : Profile) :
    startVpn platform environment establish profile = .error .nullConnection ∨
    ∃ tunnel, startVpn platform environment establish profile = .ok tunnel ∧
      (∀ b, tunnel.builder.Routed b ↔ Inside profile b) ∧
      ∀ server ∈ tunnel.builder.dnsServers, ∃ address,
        platform.parseNumericAddress server = some address ∧
          tunnel.builder.Routed address.address := by
  rw [startVpn, addRoutes_eq hplatform]
  cases hnew : newBuilder environment profile with
  | none => exact .inl rfl
  | some builder =>
      obtain ⟨hroutes, hservers⟩ := newBuilder_spec hnew
      simp only [Except.bind, Option.map_some]
      split
      · right
        refine ⟨_, rfl, routed_setNetworks environment hroutes, ?_⟩
        intro server hserver
        change server ∈ builder.dnsServers at hserver
        rw [hservers, List.mem_singleton] at hserver
        subst hserver
        refine ⟨router, ?_, (routed_setNetworks environment hroutes _).mpr ?_⟩
        · have hdotted : dotted router = PRIVATE_VLAN4_ROUTER := by decide
          rw [← hdotted]
          exact hplatform.parse_dotted rfl
        · exact .inl ⟨rfl, .inr (.inl rfl)⟩
      · exact .inl rfl

/-- On a phone without IPv6 the LAN stays outside. -/
theorem startVpn_routed_lan :
    plainPlatform.Documented ∧
    ∃ tunnel, startVpn plainPlatform phone (fun _ => true) { route := "bypass-lan" } = .ok tunnel ∧
      ∀ b, tunnel.builder.Routed b ↔ Inside { route := "bypass-lan" } b := by
  refine ⟨plainPlatform_documented, ?_⟩
  rcases startVpn_routed plainPlatform plainPlatform_documented phone (fun _ => true)
    { route := "bypass-lan" } with hnone | ⟨tunnel, hok, hrouted, -⟩
  · rw [startVpn, addRoutes_eq plainPlatform_documented] at hnone
    cases hnone
  · exact ⟨tunnel, hok, hrouted⟩

end VpnService

end WifiProject.Bg
