import ClusterNet.Proofs.Templates

/- What an object's pods run: the image and the arguments of each container, as they are read off
   the object. -/
namespace ClusterNet

namespace Json

def items? : Json → Option (List Json)
  | .list items => some items
  | _ => none

theorem filterMap_text (items : List String) : (items.map Json.text).filterMap text? = items := by
  rw [List.filterMap_map]
  exact List.filterMap_some

end Json

def imageOf (container : Json) : Option String := (container.get? "image").bind Json.text?

def argumentsOf (container : Json) : List String :=
  (((container.get? "args").bind Json.items?).getD []).filterMap Json.text?

theorem imageOf_toJson (c : Container) : imageOf c.toJson = some c.image := by
  rw [imageOf, Container.toJson, Json.get?_ofFields (by simp)]
  rfl

theorem items_presentList (items : List Json) :
    ((presentList items).bind Json.items?).getD [] = items := by
  cases items <;> rfl

theorem argumentsOf_toJson (c : Container) : argumentsOf c.toJson = c.args := by
  rw [argumentsOf, Container.toJson, Json.get?_ofFields (by simp)]
  change (((presentList (c.args.map .text)).bind Json.items?).getD []).filterMap _ = _
  rw [items_presentList, Json.filterMap_text]

namespace Manifest

def containers (m : Manifest) : List Json :=
  ((m.spec.bind (·.at? ["template", "spec", "containers"])).bind Json.items?).getD []

def images (m : Manifest) : List String := m.containers.filterMap imageOf

def arguments (m : Manifest) : List String := m.containers.flatMap argumentsOf

theorem at?_podTemplate (component : String) (pod : PodSpec) :
    (podTemplate component pod).at? ["spec", "containers"] =
      some (.list [pod.container.toJson]) := by
  change (pod.toJson.get? "containers").bind (Json.at? []) = _
  rw [PodSpec.toJson, Json.get?_ofFields (by simp)]
  rfl

theorem containers_daemonSet (name space component : String) (pod : PodSpec) :
    (daemonSet name space component pod).containers = [pod.container.toJson] := by
  change (((podTemplate component pod).at? ["spec", "containers"]).bind Json.items?).getD [] = _
  rw [at?_podTemplate]
  rfl

theorem containers_deployment (name space component : String) (replicas : Nat) (pod : PodSpec) :
    (deployment name space component replicas pod).containers = [pod.container.toJson] := by
  change (((podTemplate component pod).at? ["spec", "containers"]).bind Json.items?).getD [] = _
  rw [at?_podTemplate]
  rfl

theorem images_of_containers {m : Manifest} {c : Container} (only : m.containers = [c.toJson]) :
    m.images = [c.image] := by
  rw [images, only, List.filterMap_cons, imageOf_toJson, List.filterMap_nil]

theorem arguments_of_containers {m : Manifest} {c : Container}
    (only : m.containers = [c.toJson]) : m.arguments = c.args := by
  rw [arguments, only, List.flatMap_singleton, argumentsOf_toJson]

end Manifest
end ClusterNet
