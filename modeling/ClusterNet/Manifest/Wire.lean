import ClusterNet.Manifest
import ClusterNet.Wire.OfJson

/- The written form of a manifest: the envelope first, then every other field by key. -/
namespace ClusterNet

open Wire Fields

namespace Metadata

def toJson (m : Metadata) : Json :=
  .ofFields [
    ("name", some (.text m.name)),
    ("namespace", m.namespaceName.map .text),
    ("labels", m.labels.map .ofTexts),
    ("annotations", m.annotations.map .ofTexts)]

def read [Format ν] : ν → Except Fault Metadata :=
  readRecord "ManifestMetadata" 4 <|
    mk <$> required 0 "name" Format.text
      <*> optional 1 "namespace" Format.text
      <*> optional 2 "labels" (readDict Format.text)
      <*> optional 3 "annotations" (readDict Format.text)

end Metadata

namespace Manifest

def envelopeKeys : List String := ["apiVersion", "kind", "metadata", "spec", "data"]

def toJson (m : Manifest) : Json :=
  .object (
    ([("apiVersion", some (.text m.apiVersion)),
      ("kind", some (.text m.kind)),
      ("metadata", some m.metadata.toJson),
      ("spec", m.spec),
      ("data", m.data)] : List (String × Option Json)).filterMap
        (fun field => field.2.map (field.1, ·))
      ++ m.fields.entries)

def ofEntries (entries : List (String × Json)) : Fields Json Manifest :=
  let others := Dict.ofList (entries.filter (·.1 ∉ envelopeKeys))
  (fun apiVersion kind metadata spec data => ⟨apiVersion, kind, metadata, spec, data, others⟩)
    <$> required 0 "apiVersion" Format.text
    <*> required 1 "kind" Format.text
    <*> required 2 "metadata" Metadata.read
    <*> optional 3 "spec" .ok
    <*> optional 4 "data" .ok

def read : Json → Except Fault Manifest
  | .object entries =>
    ((ofEntries entries).run (.named entries)).mapError (Misfit.fault "Manifest" 5 true)
  | json => mismatch json "struct Manifest"

end Manifest
end ClusterNet
