import ClusterNet.Spec
import ClusterNet.Wire.Format

/- The written form of a spec. Unset options and empty lists marked so are left out; reading fills
   what is absent. -/
namespace ClusterNet

open Wire Fields

def natField (n : Option UInt32) : Option Json := n.map fun n => .natural n.toNat

def textField (s : Option String) : Option Json := s.map .text

def listField (items : List Json) : Option Json :=
  if items.isEmpty then none else some (.list items)

namespace StaticAddress

def toJson (a : StaticAddress) : Json :=
  .ofFields [("address", some (.text a.address)), ("gateway", textField a.gateway)]

def read [Format ν] : ν → Except Fault StaticAddress :=
  readRecord "StaticIpamAddress" 2 <|
    mk <$> required 0 "address" Format.text <*> optional 1 "gateway" Format.text

end StaticAddress

namespace StaticRoute

def toJson (r : StaticRoute) : Json :=
  .ofFields [("destination", some (.text r.destination)), ("gateway", textField r.gateway)]

def read [Format ν] : ν → Except Fault StaticRoute :=
  readRecord "StaticIpamRoute" 2 <|
    mk <$> required 0 "destination" Format.text <*> optional 1 "gateway" Format.text

end StaticRoute

namespace StaticIpam

def toJson (s : StaticIpam) : Json :=
  .ofFields [
    ("addresses", listField (s.addresses.map StaticAddress.toJson)),
    ("routes", listField (s.routes.map StaticRoute.toJson))]

def read [Format ν] : ν → Except Fault StaticIpam :=
  readRecord "StaticIpamConfig" 2 <|
    mk <$> defaulted 0 "addresses" [] (readList StaticAddress.read)
      <*> defaulted 1 "routes" [] (readList StaticRoute.read)

end StaticIpam

namespace Ipam

def toJson (i : Ipam) : Json :=
  .ofFields [
    ("type", some (.text i.kind.name)),
    ("staticIpamConfig", i.static.map StaticIpam.toJson)]

def read [Format ν] : ν → Except Fault Ipam :=
  readRecord "IpamConfig" 2 <|
    mk <$> required 0 "type" (readChoice IpamKind.name IpamKind.all)
      <*> optional 1 "staticIpamConfig" StaticIpam.read

end Ipam

namespace Macvlan

def toJson (m : Macvlan) : Json :=
  .ofFields [
    ("master", textField m.master),
    ("mode", m.mode.map fun mode => .text mode.name),
    ("mtu", natField m.mtu),
    ("ipamConfig", m.ipam.map Ipam.toJson)]

def read [Format ν] : ν → Except Fault Macvlan :=
  readRecord "SimpleMacvlanConfig" 4 <|
    mk <$> optional 0 "master" Format.text
      <*> optional 1 "mode" (readChoice MacvlanMode.name MacvlanMode.all)
      <*> optional 2 "mtu" readNat32
      <*> optional 3 "ipamConfig" Ipam.read

end Macvlan

namespace Attachment

def toJson (a : Attachment) : Json :=
  .ofFields [
    ("name", some (.text a.name)),
    ("namespace", textField a.namespaceName),
    ("type", some (.text a.kind.name)),
    ("rawCNIConfig", textField a.rawConfig),
    ("simpleMacvlanConfig", a.macvlan.map Macvlan.toJson)]

def read [Format ν] : ν → Except Fault Attachment :=
  readRecord "AdditionalNetwork" 5 <|
    mk <$> required 0 "name" Format.text
      <*> optional 1 "namespace" Format.text
      <*> required 2 "type" (readChoice AttachmentKind.name AttachmentKind.all)
      <*> optional 3 "rawCNIConfig" Format.text
      <*> optional 4 "simpleMacvlanConfig" Macvlan.read

end Attachment

namespace KuryrConfig

def toJson (k : KuryrConfig) : Json :=
  .ofFields [
    ("openStackServiceNetwork", textField k.serviceNetwork),
    ("enablePortPoolsPrepopulation", k.prepopulation.map .boolean),
    ("poolMaxPorts", natField k.poolMax),
    ("poolMinPorts", natField k.poolMin),
    ("poolBatchPorts", natField k.poolBatch),
    ("daemonProbesPort", natField k.daemonProbesPort),
    ("controllerProbesPort", natField k.controllerProbesPort),
    ("mtu", natField k.mtu)]

def read [Format ν] : ν → Except Fault KuryrConfig :=
  readRecord "KuryrConfig" 8 <|
    mk <$> optional 0 "openStackServiceNetwork" Format.text
      <*> optional 1 "enablePortPoolsPrepopulation" Format.boolean
      <*> optional 2 "poolMaxPorts" readNat32
      <*> optional 3 "poolMinPorts" readNat32
      <*> optional 4 "poolBatchPorts" readNat32
      <*> optional 5 "daemonProbesPort" readNat32
      <*> optional 6 "controllerProbesPort" readNat32
      <*> optional 7 "mtu" readNat32

end KuryrConfig

namespace ProxyConfig

def toJson (p : ProxyConfig) : Json :=
  .ofFields [
    ("bindAddress", textField p.bindAddress),
    ("iptablesSyncPeriod", textField p.syncPeriod),
    ("proxyArguments",
      if p.arguments.isEmpty then none
      else some (.object (p.arguments.entries.map fun entry => (entry.1, .texts entry.2))))]

def read [Format ν] : ν → Except Fault ProxyConfig :=
  readRecord "ProxyConfig" 3 <|
    mk <$> optional 0 "bindAddress" Format.text
      <*> optional 1 "iptablesSyncPeriod" Format.text
      <*> defaulted 2 "proxyArguments" .empty (readDict readTexts)

end ProxyConfig

namespace NodeIdentityConfig

def toJson (n : NodeIdentityConfig) : Json :=
  .ofFields [("enabled", n.enabled.map .boolean), ("webhookPort", natField n.webhookPort)]

def read [Format ν] : ν → Except Fault NodeIdentityConfig :=
  readRecord "NodeIdentityConfig" 2 <|
    mk <$> optional 0 "enabled" Format.boolean <*> optional 1 "webhookPort" readNat32

end NodeIdentityConfig

namespace ClusterEntry

def toJson (c : ClusterEntry) : Json :=
  .ofFields [("cidr", some (.text c.cidr)), ("hostPrefix", natField c.hostPrefix)]

def read [Format ν] : ν → Except Fault ClusterEntry :=
  readRecord "ClusterNetworkEntry" 2 <|
    mk <$> required 0 "cidr" Format.text <*> optional 1 "hostPrefix" readNat32

end ClusterEntry

namespace DefaultNetwork

def toJson (d : DefaultNetwork) : Json :=
  .ofFields [("type", some (.text d.type)), ("kuryrConfig", d.kuryr.map KuryrConfig.toJson)]

def read [Format ν] : ν → Except Fault DefaultNetwork :=
  readRecord "DefaultNetworkDefinition" 2 <|
    mk <$> defaulted 0 "type" "" Format.text <*> optional 1 "kuryrConfig" KuryrConfig.read

end DefaultNetwork

namespace Spec

def toJson (s : Spec) : Json :=
  .ofFields [
    ("serviceNetwork", some (.texts s.serviceNetwork)),
    ("clusterNetwork", some (.list (s.clusterNetwork.map ClusterEntry.toJson))),
    ("defaultNetwork", some s.defaultNetwork.toJson),
    ("kubeProxyConfig", s.proxy.map ProxyConfig.toJson),
    ("deployKubeProxy", s.deployProxy.map .boolean),
    ("disableMultiNetwork", s.disableMultiNetwork.map .boolean),
    ("additionalNetworks", listField (s.attachments.map Attachment.toJson)),
    ("nodeIdentity", s.nodeIdentity.map NodeIdentityConfig.toJson)]

def read [Format ν] : ν → Except Fault Spec :=
  readRecord "NetworkSpec" 8 <|
    mk <$> defaulted 0 "serviceNetwork" [] readTexts
      <*> defaulted 1 "clusterNetwork" [] (readList ClusterEntry.read)
      <*> defaulted 2 "defaultNetwork" .empty DefaultNetwork.read
      <*> optional 3 "kubeProxyConfig" ProxyConfig.read
      <*> optional 4 "deployKubeProxy" Format.boolean
      <*> optional 5 "disableMultiNetwork" Format.boolean
      <*> defaulted 6 "additionalNetworks" [] (readList Attachment.read)
      <*> optional 7 "nodeIdentity" NodeIdentityConfig.read

end Spec
end ClusterNet
