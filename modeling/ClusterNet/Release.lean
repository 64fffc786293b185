import ClusterNet.Wire.Format

/- The release that is rolled out: its version and the images of its workloads. What a written
   release leaves out is taken from the built-in one. -/
namespace ClusterNet

open Wire Fields

structure Images where
  kuryrController : String
  kuryrDaemon : String
  kubeProxy : String
  multus : String
  multusAdmission : String
  nodeIdentity : String
  deriving DecidableEq, Repr

structure Release where
  version : String
  images : Images
  deriving DecidableEq, Repr

namespace Images

def builtIn : Images where
  kuryrController := "ghcr.io/lattice-dev/kuryr-controller:v4.14.0"
  kuryrDaemon := "ghcr.io/lattice-dev/kuryr-cni:v4.14.0"
  kubeProxy := "ghcr.io/lattice-dev/kube-proxy:v4.14.0"
  multus := "ghcr.io/lattice-dev/multus-cni:v4.14.0"
  multusAdmission := "ghcr.io/lattice-dev/multus-admission-controller:v4.14.0"
  nodeIdentity := "ghcr.io/lattice-dev/network-node-identity:v4.14.0"

def toJson (i : Images) : Json :=
  .object [
    ("kuryrController", .text i.kuryrController),
    ("kuryrDaemon", .text i.kuryrDaemon),
    ("kubeProxy", .text i.kubeProxy),
    ("multus", .text i.multus),
    ("multusAdmissionController", .text i.multusAdmission),
    ("networkNodeIdentity", .text i.nodeIdentity)]

def read [Format ν] : ν → Except Fault Images :=
  readRecord "ImageRefs" 6 <|
    mk <$> defaulted 0 "kuryrController" builtIn.kuryrController Format.text
      <*> defaulted 1 "kuryrDaemon" builtIn.kuryrDaemon Format.text
      <*> defaulted 2 "kubeProxy" builtIn.kubeProxy Format.text
      <*> defaulted 3 "multus" builtIn.multus Format.text
      <*> defaulted 4 "multusAdmissionController" builtIn.multusAdmission Format.text
      <*> defaulted 5 "networkNodeIdentity" builtIn.nodeIdentity Format.text

end Images

namespace Release

def builtIn : Release := ⟨"4.14.0", .builtIn⟩

def toJson (r : Release) : Json :=
  .object [("version", .text r.version), ("images", r.images.toJson)]

def read [Format ν] : ν → Except Fault Release :=
  readRecord "ReleaseConfig" 2 <|
    mk <$> defaulted 0 "version" builtIn.version Format.text
      <*> defaulted 1 "images" builtIn.images Images.read

end Release
end ClusterNet
