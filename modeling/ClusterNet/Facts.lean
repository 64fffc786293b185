import ClusterNet.Wire.Format

/- What was discovered about a running cluster before a pass, and its written form. -/
namespace ClusterNet

open Wire Fields

structure Credentials where
  username : String
  password : String
  userDomain : Option String
  deriving DecidableEq, Repr

structure Progress where
  daemonUpdated : Bool
  controllerUpdated : Bool
  deriving DecidableEq, Repr

structure OpenStackFacts where
  authUrl : String
  region : Option String
  projectId : String
  credentials : Credentials
  caBundle : Option String
  podSubnetPool : String
  serviceSubnet : String
  router : String
  workerSubnets : List String
  podSecurityGroups : List String
  externalNetwork : Option String
  octaviaProvider : Option String
  octaviaVersion : Option String
  rollout : Progress
  deriving DecidableEq, Repr

structure ApiServer where
  host : String
  port : UInt16
  deriving DecidableEq, Repr

structure WebhookFacts where
  caBundle : Option String
  ready : Bool
  deriving DecidableEq, Repr

structure Facts where
  runningVersion : Option String
  apiServer : Option ApiServer
  openStack : Option OpenStackFacts
  webhook : WebhookFacts
  deriving DecidableEq, Repr

def Progress.none : Progress := ⟨false, false⟩

def WebhookFacts.none : WebhookFacts := ⟨.none, false⟩

def Facts.none : Facts := ⟨.none, .none, .none, .none⟩

/-- An IPv6 host is put in brackets. -/
def ApiServer.url (a : ApiServer) : String :=
  if ':' ∈ a.host.toList ∧ a.host.toList.head? ≠ some '[' then s!"https://[{a.host}]:{a.port.toNat}"
  else s!"https://{a.host}:{a.port.toNat}"

namespace Credentials

def toJson (c : Credentials) : Json :=
  .ofFields [
    ("username", some (.text c.username)),
    ("password", some (.text c.password)),
    ("userDomainName", c.userDomain.map .text)]

def read [Format ν] : ν → Except Fault Credentials :=
  readRecord "OpenStackCredentials" 3 <|
    mk <$> required 0 "username" Format.text
      <*> required 1 "password" Format.text
      <*> optional 2 "userDomainName" Format.text

end Credentials

namespace Progress

def toJson (p : Progress) : Json :=
  .ofFields [
    ("daemonUpdated", some (.boolean p.daemonUpdated)),
    ("controllerUpdated", some (.boolean p.controllerUpdated))]

def read [Format ν] : ν → Except Fault Progress :=
  readRecord "ComponentRollout" 2 <|
    mk <$> defaulted 0 "daemonUpdated" false Format.boolean
      <*> defaulted 1 "controllerUpdated" false Format.boolean

end Progress

namespace OpenStackFacts

def toJson (f : OpenStackFacts) : Json :=
  .ofFields [
    ("authUrl", some (.text f.authUrl)),
    ("regionName", f.region.map .text),
    ("projectId", some (.text f.projectId)),
    ("credentials", some f.credentials.toJson),
    ("caBundle", f.caBundle.map .text),
    ("podSubnetpoolId", some (.text f.podSubnetPool)),
    ("serviceSubnetId", some (.text f.serviceSubnet)),
    ("routerId", some (.text f.router)),
    ("workerNodesSubnetIds", some (.texts f.workerSubnets)),
    ("podSecurityGroupIds", some (.texts f.podSecurityGroups)),
    ("externalNetworkId", f.externalNetwork.map .text),
    ("octaviaProvider", f.octaviaProvider.map .text),
    ("octaviaVersion", f.octaviaVersion.map .text),
    ("rollout", some f.rollout.toJson)]

def read [Format ν] : ν → Except Fault OpenStackFacts :=
  readRecord "KuryrFacts" 14 <|
    mk <$> required 0 "authUrl" Format.text
      <*> optional 1 "regionName" Format.text
      <*> required 2 "projectId" Format.text
      <*> required 3 "credentials" Credentials.read
      <*> optional 4 "caBundle" Format.text
      <*> required 5 "podSubnetpoolId" Format.text
      <*> required 6 "serviceSubnetId" Format.text
      <*> required 7 "routerId" Format.text
      <*> defaulted 8 "workerNodesSubnetIds" [] readTexts
      <*> defaulted 9 "podSecurityGroupIds" [] readTexts
      <*> optional 10 "externalNetworkId" Format.text
      <*> optional 11 "octaviaProvider" Format.text
      <*> optional 12 "octaviaVersion" Format.text
      <*> defaulted 13 "rollout" .none Progress.read

end OpenStackFacts

namespace ApiServer

def toJson (a : ApiServer) : Json :=
  .ofFields [("host", some (.text a.host)), ("port", some (.natural a.port.toNat))]

def read [Format ν] : ν → Except Fault ApiServer :=
  readRecord "ApiServerEndpoint" 2 <|
    mk <$> required 0 "host" Format.text <*> required 1 "port" readNat16

end ApiServer

namespace WebhookFacts

def toJson (w : WebhookFacts) : Json :=
  .ofFields [("caBundle", w.caBundle.map .text), ("webhookReady", some (.boolean w.ready))]

def read [Format ν] : ν → Except Fault WebhookFacts :=
  readRecord "NodeIdentityFacts" 2 <|
    mk <$> optional 0 "caBundle" Format.text <*> defaulted 1 "webhookReady" false Format.boolean

end WebhookFacts

namespace Facts

def toJson (f : Facts) : Json :=
  .ofFields [
    ("runningReleaseVersion", f.runningVersion.map .text),
    ("apiServer", f.apiServer.map ApiServer.toJson),
    ("kuryr", f.openStack.map OpenStackFacts.toJson),
    ("nodeIdentity", some f.webhook.toJson)]

def read [Format ν] : ν → Except Fault Facts :=
  readRecord "BootstrapFacts" 4 <|
    mk <$> optional 0 "runningReleaseVersion" Format.text
      <*> optional 1 "apiServer" ApiServer.read
      <*> optional 2 "kuryr" OpenStackFacts.read
      <*> defaulted 3 "nodeIdentity" .none WebhookFacts.read

end Facts
end ClusterNet
