import WifiProject.Acl.AclText
import WifiProject.Database.Profile
import WifiProject.Net.SubnetRange

/-!
`VpnService.startVpn`: what goes into the tunnel. The routes are a resource that
spells out everything but the local networks; `bypass-lan.acl` lists what the
proxy behind the tunnel lets through. The two were written by hand.
-/

namespace WifiProject.Bg

open Lib Net Database

/-- An IPv4 subnet of the resources. -/
structure Block where
  a : UInt8
  b : UInt8
  c : UInt8
  d : UInt8
  prefixSize : Fin 32
  deriving DecidableEq, Repr

namespace Block

def address (block : Block) : InetAddress := ⟨[block.a, block.b, block.c, block.d], Or.inl rfl⟩

/-- As it is spelled there. -/
def item (block : Block) : List Char :=
  (dotted block.address).toList ++ '/' :: Nat.toDigits 10 block.prefixSize

def subnet (block : Block) : Subnet where
  address := block.address
  prefixSize := block.prefixSize
  inRange := by
    have hlt := block.prefixSize.isLt
    simp only [address, List.length_cons, List.length_nil]
    omega

theorem item_eq_toString (block : Block) {hostAddress : InetAddress → String}
    (h : hostAddress block.address = dotted block.address) :
    block.item = block.subnet.toString hostAddress := by
  have hlt := block.prefixSize.isLt
  rw [Subnet.toString, if_neg]
  · rw [item, ← h]
    rfl
  · intro hfull
    have hsize : (block.prefixSize : Nat) = 32 := hfull
    omega

example : (⟨1, 0, 0, 0, 8⟩ : Block).item = "1.0.0.0/8".toList := by decide

end Block

/-- The array of `res/values/arrays.xml`. -/
def bypassPrivateRoute : List Block :=
  [⟨1, 0, 0, 0, 8⟩, ⟨2, 0, 0, 0, 7⟩, ⟨4, 0, 0, 0, 6⟩, ⟨8, 0, 0, 0, 7⟩, ⟨11, 0, 0, 0, 8⟩,
    ⟨12, 0, 0, 0, 6⟩, ⟨16, 0, 0, 0, 4⟩, ⟨32, 0, 0, 0, 3⟩, ⟨64, 0, 0, 0, 3⟩, ⟨96, 0, 0, 0, 6⟩,
    ⟨100, 0, 0, 0, 10⟩, ⟨100, 128, 0, 0, 9⟩, ⟨101, 0, 0, 0, 8⟩, ⟨102, 0, 0, 0, 7⟩,
    ⟨104, 0, 0, 0, 5⟩, ⟨112, 0, 0, 0, 10⟩, ⟨112, 64, 0, 0, 11⟩, ⟨112, 96, 0, 0, 12⟩,
    ⟨112, 112, 0, 0, 13⟩, ⟨112, 120, 0, 0, 14⟩, ⟨112, 124, 0, 0, 19⟩, ⟨112, 124, 32, 0, 21⟩,
    ⟨112, 124, 40, 0, 22⟩, ⟨112, 124, 44, 0, 23⟩, ⟨112, 124, 46, 0, 24⟩, ⟨112, 124, 48, 0, 20⟩,
    ⟨112, 124, 64, 0, 18⟩, ⟨112, 124, 128, 0, 17⟩, ⟨112, 125, 0, 0, 16⟩, ⟨112, 126, 0, 0, 15⟩,
    ⟨112, 128, 0, 0, 9⟩, ⟨113, 0, 0, 0, 8⟩, ⟨114, 0, 0, 0, 10⟩, ⟨114, 64, 0, 0, 11⟩,
    ⟨114, 96, 0, 0, 12⟩, ⟨114, 112, 0, 0, 15⟩, ⟨114, 114, 0, 0, 18⟩, ⟨114, 114, 64, 0, 19⟩,
    ⟨114, 114, 96, 0, 20⟩, ⟨114, 114, 112, 0, 23⟩, ⟨114, 114, 115, 0, 24⟩, ⟨114, 114, 116, 0, 22⟩,
    ⟨114, 114, 120, 0, 21⟩, ⟨114, 114, 128, 0, 17⟩, ⟨114, 115, 0, 0, 16⟩, ⟨114, 116, 0, 0, 14⟩,
    ⟨114, 120, 0, 0, 13⟩, ⟨114, 128, 0, 0, 9⟩, ⟨115, 0, 0, 0, 8⟩, ⟨116, 0, 0, 0, 6⟩,
    ⟨120, 0, 0, 0, 6⟩, ⟨124, 0, 0, 0, 7⟩, ⟨126, 0, 0, 0, 8⟩, ⟨128, 0, 0, 0, 3⟩, ⟨160, 0, 0, 0, 5⟩,
    ⟨168, 0, 0, 0, 8⟩, ⟨169, 0, 0, 0, 9⟩, ⟨169, 128, 0, 0, 10⟩, ⟨169, 192, 0, 0, 11⟩,
    ⟨169, 224, 0, 0, 12⟩, ⟨169, 240, 0, 0, 13⟩, ⟨169, 248, 0, 0, 14⟩, ⟨169, 252, 0, 0, 15⟩,
    ⟨169, 255, 0, 0, 16⟩, ⟨170, 0, 0, 0, 7⟩, ⟨172, 0, 0, 0, 12⟩, ⟨172, 32, 0, 0, 11⟩,
    ⟨172, 64, 0, 0, 10⟩, ⟨172, 128, 0, 0, 9⟩, ⟨173, 0, 0, 0, 8⟩, ⟨174, 0, 0, 0, 7⟩,
    ⟨176, 0, 0, 0, 4⟩, ⟨192, 0, 0, 8, 29⟩, ⟨192, 0, 0, 16, 28⟩, ⟨192, 0, 0, 32, 27⟩,
    ⟨192, 0, 0, 64, 26⟩, ⟨192, 0, 0, 128, 25⟩, ⟨192, 0, 1, 0, 24⟩, ⟨192, 0, 3, 0, 24⟩,
    ⟨192, 0, 4, 0, 22⟩, ⟨192, 0, 8, 0, 21⟩, ⟨192, 0, 16, 0, 20⟩, ⟨192, 0, 32, 0, 19⟩,
    ⟨192, 0, 64, 0, 18⟩, ⟨192, 0, 128, 0, 17⟩, ⟨192, 1, 0, 0, 16⟩, ⟨192, 2, 0, 0, 15⟩,
    ⟨192, 4, 0, 0, 14⟩, ⟨192, 8, 0, 0, 13⟩, ⟨192, 16, 0, 0, 12⟩, ⟨192, 32, 0, 0, 11⟩,
    ⟨192, 64, 0, 0, 12⟩, ⟨192, 80, 0, 0, 13⟩, ⟨192, 88, 0, 0, 18⟩, ⟨192, 88, 64, 0, 19⟩,
    ⟨192, 88, 96, 0, 23⟩, ⟨192, 88, 98, 0, 24⟩, ⟨192, 88, 100, 0, 22⟩, ⟨192, 88, 104, 0, 21⟩,
    ⟨192, 88, 112, 0, 20⟩, ⟨192, 88, 128, 0, 17⟩, ⟨192, 89, 0, 0, 16⟩, ⟨192, 90, 0, 0, 15⟩,
    ⟨192, 92, 0, 0, 14⟩, ⟨192, 96, 0, 0, 11⟩, ⟨192, 128, 0, 0, 11⟩, ⟨192, 160, 0, 0, 13⟩,
    ⟨192, 169, 0, 0, 16⟩, ⟨192, 170, 0, 0, 15⟩, ⟨192, 172, 0, 0, 14⟩, ⟨192, 176, 0, 0, 12⟩,
    ⟨192, 192, 0, 0, 10⟩, ⟨193, 0, 0, 0, 8⟩, ⟨194, 0, 0, 0, 7⟩, ⟨196, 0, 0, 0, 7⟩,
    ⟨198, 0, 0, 0, 12⟩, ⟨198, 16, 0, 0, 15⟩, ⟨198, 20, 0, 0, 14⟩, ⟨198, 24, 0, 0, 13⟩,
    ⟨198, 32, 0, 0, 12⟩, ⟨198, 48, 0, 0, 15⟩, ⟨198, 50, 0, 0, 16⟩, ⟨198, 51, 0, 0, 18⟩,
    ⟨198, 51, 64, 0, 19⟩, ⟨198, 51, 96, 0, 22⟩, ⟨198, 51, 101, 0, 24⟩, ⟨198, 51, 102, 0, 23⟩,
    ⟨198, 51, 104, 0, 21⟩, ⟨198, 51, 112, 0, 20⟩, ⟨198, 51, 128, 0, 17⟩, ⟨198, 52, 0, 0, 14⟩,
    ⟨198, 56, 0, 0, 13⟩, ⟨198, 64, 0, 0, 10⟩, ⟨198, 128, 0, 0, 9⟩, ⟨199, 0, 0, 0, 8⟩,
    ⟨200, 0, 0, 0, 7⟩, ⟨202, 0, 0, 0, 8⟩, ⟨203, 0, 0, 0, 18⟩, ⟨203, 0, 64, 0, 19⟩,
    ⟨203, 0, 96, 0, 20⟩, ⟨203, 0, 112, 0, 24⟩, ⟨203, 0, 114, 0, 23⟩, ⟨203, 0, 116, 0, 22⟩,
    ⟨203, 0, 120, 0, 21⟩, ⟨203, 0, 128, 0, 17⟩, ⟨203, 1, 0, 0, 16⟩, ⟨203, 2, 0, 0, 15⟩,
    ⟨203, 4, 0, 0, 14⟩, ⟨203, 8, 0, 0, 13⟩, ⟨203, 16, 0, 0, 12⟩, ⟨203, 32, 0, 0, 11⟩,
    ⟨203, 64, 0, 0, 10⟩, ⟨203, 128, 0, 0, 9⟩, ⟨204, 0, 0, 0, 6⟩, ⟨208, 0, 0, 0, 4⟩]

/-- Private and reserved networks, multicast included. -/
def localNetworks : List Block :=
  [⟨0, 0, 0, 0, 8⟩, ⟨10, 0, 0, 0, 8⟩, ⟨100, 64, 0, 0, 10⟩, ⟨127, 0, 0, 0, 8⟩,
    ⟨169, 254, 0, 0, 16⟩, ⟨172, 16, 0, 0, 12⟩, ⟨192, 0, 0, 0, 29⟩, ⟨192, 0, 2, 0, 24⟩,
    ⟨192, 88, 99, 0, 24⟩, ⟨192, 168, 0, 0, 16⟩, ⟨198, 18, 0, 0, 15⟩, ⟨198, 51, 100, 0, 24⟩,
    ⟨203, 0, 113, 0, 24⟩, ⟨224, 0, 0, 0, 3⟩]

/-- Two public blocks that the resource leaves out as well; both have name servers. -/
def nameServers : List Block := [⟨112, 124, 47, 0, 24⟩, ⟨114, 114, 114, 0, 24⟩]

/-- The entries of `assets/acl/bypass-lan.acl`. -/
def bypassLan : List Block :=
  [⟨0, 0, 0, 0, 8⟩, ⟨10, 0, 0, 0, 8⟩, ⟨100, 64, 0, 0, 10⟩, ⟨127, 0, 0, 0, 8⟩,
    ⟨169, 254, 0, 0, 16⟩, ⟨172, 16, 0, 0, 12⟩, ⟨192, 0, 0, 0, 24⟩, ⟨192, 0, 2, 0, 24⟩,
    ⟨192, 31, 196, 0, 24⟩, ⟨192, 52, 193, 0, 24⟩, ⟨192, 88, 99, 0, 24⟩, ⟨192, 168, 0, 0, 16⟩,
    ⟨192, 175, 48, 0, 24⟩, ⟨198, 18, 0, 0, 15⟩, ⟨198, 51, 100, 0, 24⟩, ⟨203, 0, 113, 0, 24⟩,
    ⟨224, 0, 0, 0, 3⟩]

/-- What that list lets through and the routes take all the same: most of
192.0.0.0/24, and the anycast blocks. -/
def protocolBlocks : List Block :=
  [⟨192, 0, 0, 8, 29⟩, ⟨192, 0, 0, 16, 28⟩, ⟨192, 0, 0, 32, 27⟩, ⟨192, 0, 0, 64, 26⟩,
    ⟨192, 0, 0, 128, 25⟩, ⟨192, 31, 196, 0, 24⟩, ⟨192, 52, 193, 0, 24⟩, ⟨192, 175, 48, 0, 24⟩]

namespace VpnService

def PRIVATE_VLAN4_CLIENT : String := "172.19.0.1"
def PRIVATE_VLAN4_ROUTER : String := "172.19.0.2"
def PRIVATE_VLAN6_CLIENT : String := "fdfe:dcba:9876::1"
def PRIVATE_VLAN6_ROUTER : String := "fdfe:dcba:9876::2"
def VPN_MTU : Nat := 1500

structure Platform where
  parseNumericAddress : String → Option InetAddress
  hostAddress : InetAddress → String
  /-- `Builder.addRoute` throws for any other route. -/
  validRoute : InetAddress → Nat → Bool

/-- What the device and the settings say. -/
structure Environment (Network : Type) where
  /-- `Core.configureIntent(this)` is not null. -/
  configured : Bool
  packageName : String
  sdkInt : Nat
  underlyingNetwork : Option Network
  tun2socks : String
  listenAddress : String
  portProxy : Nat
  portLocalDns : Nat

/-- What a `VpnService.Builder` was told. -/
structure Builder (Network : Type) where
  session : String
  mtu : Nat
  addresses : List (String × Nat)
  dnsServers : List String
  disallowedApplications : List String := []
  routes : List Subnet := []
  underlyingNetworks : Option (List Network) := none
  metered : Option Bool := none

inductive Failure where
  /-- `!!` on null. -/
  | nullPointer
  | illegalArgument (address : String)
  | nullConnection
  deriving DecidableEq, Repr

structure Tunnel (Network : Type) where
  builder : Builder Network
  command : List String

section

variable {Network : Type} (platform : Platform)

/-- `builder?.addRoute(address, prefixLength)`. -/
def addRoute (address : String) (prefixLength : Nat) :
    Option (Builder Network) → Except Failure (Option (Builder Network))
  | none => .ok none
  | some builder =>
      match platform.parseNumericAddress address with
      | none => .error (.illegalArgument address)
      | some addr =>
          if h : prefixLength ≤ 8 * addr.address.length then
            if platform.validRoute addr prefixLength then
              .ok (some { builder with routes := builder.routes ++ [⟨addr, prefixLength, h⟩] })
            else .error (.illegalArgument address)
          else .error (.illegalArgument address)

/-- The loop over the resource. The items are read even without a builder. -/
def addItems : List (List Char) → Option (Builder Network) →
    Except Failure (Option (Builder Network))
  | [], builder => .ok builder
  | it :: items, builder =>
      match Subnet.fromString platform.parseNumericAddress it with
      | none => .error .nullPointer
      | some subnet =>
          (addRoute platform (platform.hostAddress subnet.address) subnet.prefixSize builder).bind
            (addItems items)

/-- `Acl.ALL`, `Acl.BYPASS_CHN` and `Acl.CUSTOM_RULES`. -/
def routesAll (route : String) : Bool :=
  route = "all" || route = "bypass-china" || route = "custom-rules"

def addRoutes (profile : Profile) (builder : Option (Builder Network)) :
    Except Failure (Option (Builder Network)) :=
  if routesAll profile.route then
    (addRoute platform "0.0.0.0" 0 builder).bind fun builder =>
      if profile.ipv6 then addRoute platform "::" 0 builder else .ok builder
  else
    (addItems platform (bypassPrivateRoute.map Block.item) builder).bind fun builder =>
      (addRoute platform PRIVATE_VLAN4_ROUTER 32 builder).bind fun builder =>
        if profile.ipv6 then addRoute platform "2000::" 3 builder else .ok builder

variable (environment : Environment Network)

def newBuilder (profile : Profile) : Option (Builder Network) :=
  if environment.configured then
    some {
      session := profile.formattedName
      mtu := VPN_MTU
      addresses := (PRIVATE_VLAN4_CLIENT, 30) ::
        if profile.ipv6 then [(PRIVATE_VLAN6_CLIENT, 126)] else []
      dnsServers := [PRIVATE_VLAN4_ROUTER]
      disallowedApplications := [environment.packageName] }
  else none

/-- Clearing the networks makes Android 9 take the network for a metered one. -/
def underlyingNetworks (metered : Bool) : Option (List Network) :=
  if environment.sdkInt = 28 ∧ metered then none
  else environment.underlyingNetwork.map fun network => [network]

def setNetworks (profile : Profile) (builder : Builder Network) : Builder Network :=
  { builder with
    underlyingNetworks := underlyingNetworks environment profile.metered
    metered := if environment.sdkInt ≥ 29 then some profile.metered else none }

def tun2socksCommand (profile : Profile) : List String :=
  [environment.tun2socks, "--netif-ipaddr", PRIVATE_VLAN4_ROUTER, "--socks-server-addr",
    environment.listenAddress ++ ":" ++ toString environment.portProxy,
    "--tunmtu", toString VPN_MTU, "--sock-path", "sock_path",
    "--dnsgw", "127.0.0.1:" ++ toString environment.portLocalDns, "--loglevel", "warning"] ++
  (if profile.ipv6 then ["--netif-ip6addr", PRIVATE_VLAN6_ROUTER] else []) ++ ["--enable-udprelay"]

/-- `establish` may give null for a builder: the service was not prepared. -/
def startVpn (establish : Builder Network → Bool) (profile : Profile) :
    Except Failure (Tunnel Network) :=
  (addRoutes platform profile (newBuilder environment profile)).bind fun builder =>
    match builder with
    | none => .error .nullConnection
    | some builder =>
        if establish (setNetworks environment profile builder) then
          .ok ⟨setNetworks environment profile builder, tun2socksCommand environment profile⟩
        else .error .nullConnection

end

/-! What a device does with addresses and routes. -/

def isLoopbackAddress (address : InetAddress) : Bool :=
  if address.address.length = 4 then address.address.head? = some 127
  else address.address = List.replicate 15 0 ++ [1]

def unspecified : InetAddress := ⟨[0, 0, 0, 0], Or.inl rfl⟩
def unspecified6 : InetAddress := ⟨List.replicate 16 0, Or.inr rfl⟩
def router : InetAddress := ⟨[172, 19, 0, 2], Or.inl rfl⟩
/-- `2000::`. -/
def globalUnicast : InetAddress := ⟨0x20 :: List.replicate 15 0, Or.inr rfl⟩

/-- Routes are refused for bits after the prefix and for the loopback device. -/
def Routable (subnet : Subnet) : Prop :=
  subnet.Aligned ∧ isLoopbackAddress subnet.address = false

instance (subnet : Subnet) : Decidable (Routable subnet) := inferInstanceAs (Decidable (_ ∧ _))

structure Platform.Documented (platform : Platform) : Prop where
  parse_dotted : ∀ {address : InetAddress}, address.address.length = 4 →
    platform.parseNumericAddress (dotted address) = some address
  hostAddress_dotted : ∀ {address : InetAddress}, address.address.length = 4 →
    platform.hostAddress address = dotted address
  parse_unspecified6 : platform.parseNumericAddress "::" = some unspecified6
  parse_globalUnicast : platform.parseNumericAddress "2000::" = some globalUnicast
  validRoute : ∀ subnet : Subnet, Routable subnet →
    platform.validRoute subnet.address subnet.prefixSize = true

def Builder.push {Network : Type} (builder : Builder Network) (routes : List Subnet) :
    Builder Network :=
  { builder with routes := builder.routes ++ routes }

section Adding

variable {Network : Type} {platform : Platform}

theorem Builder.push_push (builder : Builder Network) (routes routes' : List Subnet) :
    (builder.push routes).push routes' = builder.push (routes ++ routes') := by
  simp [Builder.push]

theorem addRoute_eq (hplatform : platform.Documented) {text : String} {subnet : Subnet}
    (htext : platform.parseNumericAddress text = some subnet.address) (hroutable : Routable subnet)
    (builder : Option (Builder Network)) :
    addRoute platform text subnet.prefixSize builder = .ok (builder.map (·.push [subnet])) := by
  cases builder with
  | none => rfl
  | some builder =>
      rw [addRoute, htext]
      dsimp only
      rw [dif_pos subnet.inRange, if_pos (hplatform.validRoute subnet hroutable)]
      rfl

end Adding

theorem routable_bypassPrivateRoute : ∀ block ∈ bypassPrivateRoute, Routable block.subnet := by
  decide +kernel

section Items

variable {Network : Type} {platform : Platform}

theorem fromString_item (hplatform : platform.Documented) (block : Block) :
    Subnet.fromString platform.parseNumericAddress block.item = some block.subnet := by
  rw [block.item_eq_toString rfl]
  refine Subnet.fromString_toString block.subnet (hplatform.parse_dotted rfl) ?_
  intro hslash
  rcases dotted_chars hslash with hdot | hdigit
  · exact absurd hdot (by decide)
  · exact absurd hdigit (by decide)

theorem addItems_eq (hplatform : platform.Documented) (blocks : List Block)
    (hblocks : ∀ block ∈ blocks, Routable block.subnet) (builder : Option (Builder Network)) :
    addItems platform (blocks.map Block.item) builder =
      .ok (builder.map (·.push (blocks.map Block.subnet))) := by
  induction blocks generalizing builder with
  | nil => cases builder <;> simp [addItems, Builder.push]
  | cons block blocks ih =>
      obtain ⟨hblock, hrest⟩ := List.forall_mem_cons.mp hblocks
      have htext : platform.parseNumericAddress (platform.hostAddress block.subnet.address) =
          some block.subnet.address := by
        rw [hplatform.hostAddress_dotted rfl]
        exact hplatform.parse_dotted rfl
      rw [List.map_cons, addItems, fromString_item hplatform]
      dsimp only
      rw [addRoute_eq hplatform htext hblock]
      simp only [Except.bind]
      rw [ih hrest, Option.map_map, List.map_cons]
      cases builder with
      | none => rfl
      | some builder =>
          rw [Option.map_some, Option.map_some, Function.comp_apply, Builder.push_push,
            List.singleton_append]

end Items

end VpnService

end WifiProject.Bg
