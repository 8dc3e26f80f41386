import VolumeDrain.Manifest.Meta

/-!
# Placement of pods

Where the scheduler may put a pod: node and pod affinities, tolerations and spreading over
topology domains.
-/
namespace VolumeDrain.Manifest

/-- A condition on one label: an operator and the values it compares with. -/
structure LabelRequirement where
  key : String := ""
  operator : String := ""
  values : Option (List String) := none
deriving DecidableEq

instance : Encode LabelRequirement where
  encode r := .record [field "key" r.key, field "operator" r.operator, field? "values" r.values]

instance : Decode LabelRequirement where
  decode j := do
    let m ← j.objectMembers
    return {
      key := ← Json.memberOr m "key" ""
      operator := ← Json.memberOr m "operator" ""
      values := ← Json.member? m "values" }

/-- A selector of objects by their labels. -/
structure LabelSelector where
  matchExpressions : Option (List LabelRequirement) := none
  matchLabels : Option Labels := none
deriving DecidableEq

instance : Encode LabelSelector where
  encode s := .record
    [field? "matchExpressions" s.matchExpressions, field? "matchLabels" s.matchLabels]

instance : Decode LabelSelector where
  decode j := do
    let m ← j.objectMembers
    return {
      matchExpressions := ← Json.member? m "matchExpressions"
      matchLabels := ← Json.member? m "matchLabels" }

/-- Conditions on a node, all of which have to hold. -/
structure NodeSelectorTerm where
  matchExpressions : Option (List LabelRequirement) := none
  matchFields : Option (List LabelRequirement) := none
deriving DecidableEq

instance : Encode NodeSelectorTerm where
  encode t := .record
    [field? "matchExpressions" t.matchExpressions, field? "matchFields" t.matchFields]

instance : Decode NodeSelectorTerm where
  decode j := do
    let m ← j.objectMembers
    return {
      matchExpressions := ← Json.member? m "matchExpressions"
      matchFields := ← Json.member? m "matchFields" }

/-- Terms of which a node has to meet one. -/
structure NodeSelector where
  nodeSelectorTerms : List NodeSelectorTerm := []
deriving DecidableEq

instance : Encode NodeSelector where
  encode s := .record [field "nodeSelectorTerms" s.nodeSelectorTerms]

instance : Decode NodeSelector where
  decode j := do
    let m ← j.objectMembers
    return { nodeSelectorTerms := ← Json.memberOr m "nodeSelectorTerms" [] }

/-- A term that nodes should meet, with its weight. -/
structure PreferredNode where
  preference : NodeSelectorTerm := {}
  weight : Int32 := 0
deriving DecidableEq

instance : Encode PreferredNode where
  encode p := .record [field "preference" p.preference, field "weight" p.weight]

instance : Decode PreferredNode where
  decode j := do
    let m ← j.objectMembers
    return {
      preference := ← Json.memberOr m "preference" {}
      weight := ← Json.memberOr m "weight" 0 }

/-- The nodes a pod should or has to run on. -/
structure NodeAffinity where
  preferred : Option (List PreferredNode) := none
  required : Option NodeSelector := none
deriving DecidableEq

instance : Encode NodeAffinity where
  encode a := .record
    [field? "preferredDuringSchedulingIgnoredDuringExecution" a.preferred,
     field? "requiredDuringSchedulingIgnoredDuringExecution" a.required]

instance : Decode NodeAffinity where
  decode j := do
    let m ← j.objectMembers
    return {
      preferred := ← Json.member? m "preferredDuringSchedulingIgnoredDuringExecution"
      required := ← Json.member? m "requiredDuringSchedulingIgnoredDuringExecution" }

/-- Pods that share a topology domain with the pod to be placed. -/
structure PodAffinityTerm where
  labelSelector : Option LabelSelector := none
  matchLabelKeys : Option (List String) := none
  mismatchLabelKeys : Option (List String) := none
  namespaceSelector : Option LabelSelector := none
  namespaces : Option (List String) := none
  topologyKey : String := ""
deriving DecidableEq

instance : Encode PodAffinityTerm where
  encode t := .record
    [field? "labelSelector" t.labelSelector, field? "matchLabelKeys" t.matchLabelKeys,
     field? "mismatchLabelKeys" t.mismatchLabelKeys,
     field? "namespaceSelector" t.namespaceSelector, field? "namespaces" t.namespaces,
     field "topologyKey" t.topologyKey]

instance : Decode PodAffinityTerm where
  decode j := do
    let m ← j.objectMembers
    return {
      labelSelector := ← Json.member? m "labelSelector"
      matchLabelKeys := ← Json.member? m "matchLabelKeys"
      mismatchLabelKeys := ← Json.member? m "mismatchLabelKeys"
      namespaceSelector := ← Json.member? m "namespaceSelector"
      namespaces := ← Json.member? m "namespaces"
      topologyKey := ← Json.memberOr m "topologyKey" "" }

/-- Pods to be near to or far from, with a weight. -/
structure WeightedPodTerm where
  podAffinityTerm : PodAffinityTerm := {}
  weight : Int32 := 0
deriving DecidableEq

instance : Encode WeightedPodTerm where
  encode t := .record [field "podAffinityTerm" t.podAffinityTerm, field "weight" t.weight]

instance : Decode WeightedPodTerm where
  decode j := do
    let m ← j.objectMembers
    return {
      podAffinityTerm := ← Json.memberOr m "podAffinityTerm" {}
      weight := ← Json.memberOr m "weight" 0 }

/-- The pods a pod should or has to be near to, or far from. -/
structure PodAffinity where
  preferred : Option (List WeightedPodTerm) := none
  required : Option (List PodAffinityTerm) := none
deriving DecidableEq

instance : Encode PodAffinity where
  encode a := .record
    [field? "preferredDuringSchedulingIgnoredDuringExecution" a.preferred,
     field? "requiredDuringSchedulingIgnoredDuringExecution" a.required]

instance : Decode PodAffinity where
  decode j := do
    let m ← j.objectMembers
    return {
      preferred := ← Json.member? m "preferredDuringSchedulingIgnoredDuringExecution"
      required := ← Json.member? m "requiredDuringSchedulingIgnoredDuringExecution" }

/-- All affinities of a pod. -/
structure Affinity where
  nodeAffinity : Option NodeAffinity := none
  podAffinity : Option PodAffinity := none
  podAntiAffinity : Option PodAffinity := none
deriving DecidableEq

instance : Encode Affinity where
  encode a := .record
    [field? "nodeAffinity" a.nodeAffinity, field? "podAffinity" a.podAffinity,
     field? "podAntiAffinity" a.podAntiAffinity]

instance : Decode Affinity where
  decode j := do
    let m ← j.objectMembers
    return {
      nodeAffinity := ← Json.member? m "nodeAffinity"
      podAffinity := ← Json.member? m "podAffinity"
      podAntiAffinity := ← Json.member? m "podAntiAffinity" }

/-- A taint of nodes that a pod puts up with. -/
structure Toleration where
  effect : Option String := none
  key : Option String := none
  operator : Option String := none
  tolerationSeconds : Option Int64 := none
  value : Option String := none
deriving DecidableEq

instance : Encode Toleration where
  encode t := .record
    [field? "effect" t.effect, field? "key" t.key, field? "operator" t.operator,
     field? "tolerationSeconds" t.tolerationSeconds, field? "value" t.value]

instance : Decode Toleration where
  decode j := do
    let m ← j.objectMembers
    return {
      effect := ← Json.member? m "effect"
      key := ← Json.member? m "key"
      operator := ← Json.member? m "operator"
      tolerationSeconds := ← Json.member? m "tolerationSeconds"
      value := ← Json.member? m "value" }

/-- How evenly pods are spread over the domains of a topology. -/
structure TopologySpreadConstraint where
  labelSelector : Option LabelSelector := none
  matchLabelKeys : Option (List String) := none
  maxSkew : Int32 := 0
  minDomains : Option Int32 := none
  nodeAffinityPolicy : Option String := none
  nodeTaintsPolicy : Option String := none
  topologyKey : String := ""
  whenUnsatisfiable : String := ""
deriving DecidableEq

instance : Encode TopologySpreadConstraint where
  encode c := .record
    [field? "labelSelector" c.labelSelector, field? "matchLabelKeys" c.matchLabelKeys,
     field "maxSkew" c.maxSkew, field? "minDomains" c.minDomains,
     field? "nodeAffinityPolicy" c.nodeAffinityPolicy,
     field? "nodeTaintsPolicy" c.nodeTaintsPolicy, field "topologyKey" c.topologyKey,
     field "whenUnsatisfiable" c.whenUnsatisfiable]

instance : Decode TopologySpreadConstraint where
  decode j := do
    let m ← j.objectMembers
    return {
      labelSelector := ← Json.member? m "labelSelector"
      matchLabelKeys := ← Json.member? m "matchLabelKeys"
      maxSkew := ← Json.memberOr m "maxSkew" 0
      minDomains := ← Json.member? m "minDomains"
      nodeAffinityPolicy := ← Json.member? m "nodeAffinityPolicy"
      nodeTaintsPolicy := ← Json.member? m "nodeTaintsPolicy"
      topologyKey := ← Json.memberOr m "topologyKey" ""
      whenUnsatisfiable := ← Json.memberOr m "whenUnsatisfiable" "" }

end VolumeDrain.Manifest
