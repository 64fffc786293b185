import ClusterNet.Dict

/- The desired network of a cluster. An optional field that is unset is filled with a computed
   default before a pass looks at it. -/
namespace ClusterNet

inductive AttachmentKind where
  | raw
  | simpleMacvlan
  deriving DecidableEq, Repr

inductive MacvlanMode where
  | bridge
  | privateMode
  | vepa
  | passthru
  deriving DecidableEq, Repr

inductive IpamKind where
  | static
  | dhcp
  deriving DecidableEq, Repr

structure StaticAddress where
  address : String
  gateway : Option String
  deriving DecidableEq, Repr

structure StaticRoute where
  destination : String
  gateway : Option String
  deriving DecidableEq, Repr

structure StaticIpam where
  addresses : List StaticAddress
  routes : List StaticRoute
  deriving DecidableEq, Repr

structure Ipam where
  kind : IpamKind
  static : Option StaticIpam
  deriving DecidableEq, Repr

structure Macvlan where
  master : Option String
  mode : Option MacvlanMode
  mtu : Option UInt32
  ipam : Option Ipam
  deriving DecidableEq, Repr

structure Attachment where
  name : String
  namespaceName : Option String
  kind : AttachmentKind
  rawConfig : Option String
  macvlan : Option Macvlan
  deriving DecidableEq, Repr

structure KuryrConfig where
  serviceNetwork : Option String
  prepopulation : Option Bool
  poolMax : Option UInt32
  poolMin : Option UInt32
  poolBatch : Option UInt32
  daemonProbesPort : Option UInt32
  controllerProbesPort : Option UInt32
  mtu : Option UInt32
  deriving DecidableEq, Repr

structure ProxyConfig where
  bindAddress : Option String
  syncPeriod : Option String
  arguments : Dict (List String)
  deriving DecidableEq, Repr

structure NodeIdentityConfig where
  enabled : Option Bool
  webhookPort : Option UInt32
  deriving DecidableEq, Repr

/-- Where pod addresses come from, and how much of it each node gets. -/
structure ClusterEntry where
  cidr : String
  hostPrefix : Option UInt32
  deriving DecidableEq, Repr

/-- The choice of pod network. A block for a network that is not chosen is kept and ignored. -/
structure DefaultNetwork where
  type : String
  kuryr : Option KuryrConfig
  deriving DecidableEq, Repr

structure Spec where
  serviceNetwork : List String
  clusterNetwork : List ClusterEntry
  defaultNetwork : DefaultNetwork
  proxy : Option ProxyConfig
  deployProxy : Option Bool
  disableMultiNetwork : Option Bool
  attachments : List Attachment
  nodeIdentity : Option NodeIdentityConfig
  deriving DecidableEq, Repr

inductive NetworkType where
  | kuryr
  | thirdParty
  deriving DecidableEq, Repr

def AttachmentKind.name : AttachmentKind → String
  | .raw => "Raw"
  | .simpleMacvlan => "SimpleMacvlan"

def AttachmentKind.all : List AttachmentKind := [.raw, .simpleMacvlan]

def MacvlanMode.name : MacvlanMode → String
  | .bridge => "bridge"
  | .privateMode => "private"
  | .vepa => "vepa"
  | .passthru => "passthru"

def MacvlanMode.all : List MacvlanMode := [.bridge, .privateMode, .vepa, .passthru]

def IpamKind.name : IpamKind → String
  | .static => "Static"
  | .dhcp => "DHCP"

def IpamKind.all : List IpamKind := [.static, .dhcp]

def NetworkType.name : NetworkType → String
  | .kuryr => "Kuryr"
  | .thirdParty => "ThirdParty"

def NetworkType.all : List NetworkType := [.kuryr, .thirdParty]

def NetworkType.ofTag? (tag : String) : Option NetworkType := all.find? (name · = tag)

def Macvlan.empty : Macvlan := ⟨none, none, none, none⟩

def KuryrConfig.empty : KuryrConfig := ⟨none, none, none, none, none, none, none, none⟩

def ProxyConfig.empty : ProxyConfig := ⟨none, none, .empty⟩

def NodeIdentityConfig.empty : NodeIdentityConfig := ⟨none, none⟩

def DefaultNetwork.empty : DefaultNetwork := ⟨"", none⟩

namespace Spec

def empty : Spec := ⟨[], [], .empty, none, none, none, [], none⟩

def type? (s : Spec) : Option NetworkType := NetworkType.ofTag? s.defaultNetwork.type

def kuryr (s : Spec) : Option KuryrConfig := s.defaultNetwork.kuryr

end Spec
end ClusterNet
