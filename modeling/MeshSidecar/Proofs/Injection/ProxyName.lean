import MeshSidecar.Proofs.Injection.ControlPlane

namespace MeshSidecar

/-!
# The names of proxies

A proxy introduces itself by a name that is put together from the name and the owner of its
mesh, the kind of the object that it serves and the name of that object.  Under the rules
for names the separators between the parts are found again, so that no two objects share a
name unless the control plane knows them as one.
-/

/-! ## The parts of a name -/

namespace Mesh

/-- The account that owns the mesh: the account itself, where no owner is named. -/
def ownerFrom (mesh : Mesh) (accountId : String) : String :=
  mesh.owner.getD accountId

/-- The name of a mesh holds none of the separators, and its owner none that is left of the
kind of object. -/
structure Named (mesh : Mesh) : Prop where
  awsName : '/' ∉ mesh.awsName.toList ∧ '@' ∉ mesh.awsName.toList
  owner : ∀ owner, mesh.owner = some owner → '/' ∉ owner.toList

variable {mesh other : Mesh} {accountId : String}

theorem nameFrom_eq (mesh : Mesh) (accountId : String) : mesh.nameFrom accountId =
    if mesh.ownerFrom accountId = accountId then mesh.awsName
    else mesh.awsName ++ "@" ++ mesh.ownerFrom accountId := by
  rw [nameFrom, ownerFrom]
  cases mesh.owner with
  | none => exact (if_pos rfl).symm
  | some owner => rfl

theorem Named.slash_not_mem (named : mesh.Named) (accountId : String) :
    '/' ∉ (mesh.nameFrom accountId).toList := by
  rw [nameFrom]
  cases owned : mesh.owner with
  | none => exact named.awsName.1
  | some owner =>
      simp only
      split
      · exact named.awsName.1
      · simp [named.awsName.1, named.owner owner owned]

/-- A mesh of the account is addressed by its name, which holds no owner. -/
theorem Named.at_mem_iff (named : mesh.Named) (accountId : String) :
    '@' ∈ (mesh.nameFrom accountId).toList ↔ mesh.ownerFrom accountId ≠ accountId := by
  rw [nameFrom_eq]
  by_cases own : mesh.ownerFrom accountId = accountId
  · simp [own, named.awsName.2]
  · simp [own]

/-- The name by which a mesh is addressed determines its own name and its owner. -/
theorem nameFrom_inj (named : mesh.Named) (otherNamed : other.Named) :
    mesh.nameFrom accountId = other.nameFrom accountId ↔
      mesh.awsName = other.awsName ∧ mesh.ownerFrom accountId = other.ownerFrom accountId := by
  constructor
  · intro same
    -- Whether a name is qualified shows in it, so both meshes have a foreign owner or none has.
    have qualified := named.at_mem_iff accountId
    rw [same, otherNamed.at_mem_iff] at qualified
    rw [nameFrom_eq, nameFrom_eq] at same
    by_cases own : mesh.ownerFrom accountId = accountId
    · have alsoOwn : other.ownerFrom accountId = accountId :=
        Decidable.not_not.mp fun foreign => qualified.mp foreign own
      rw [if_pos own, if_pos alsoOwn] at same
      exact ⟨same, own.trans alsoOwn.symm⟩
    · rw [if_neg own, if_neg (qualified.mpr own)] at same
      have letters := congrArg String.toList same
      simp only [String.toList_append, List.append_assoc] at letters
      have parts := Text.append_cons_inj named.awsName.2 otherNamed.awsName.2 letters
      exact ⟨String.toList_inj.mp parts.1, String.toList_inj.mp parts.2⟩
  · rintro ⟨sameName, sameOwner⟩
    rw [nameFrom_eq, nameFrom_eq, sameName, sameOwner]

end Mesh

namespace Selector

def isGateway : Selector → Bool
  | .node _ => false
  | .gateway _ => true

def awsName : Selector → String
  | .node object => object.awsName
  | .gateway object => object.awsName

def name : Selector → String
  | .node object => object.name
  | .gateway object => object.name

def namespaceName : Selector → String
  | .node object => object.namespaceName
  | .gateway object => object.namespaceName

/-- The name of the object in the control plane. -/
def resolvedAwsName : Selector → String
  | .node object => object.resolvedAwsName
  | .gateway object => object.resolvedAwsName

/-- The name by which the proxy of the object introduces itself. -/
def proxyName : Selector → Mesh → String → String
  | .node object => object.proxyName
  | .gateway object => object.proxyName

/-- How a name tells the kinds of objects apart. -/
def kind (selector : Selector) : String :=
  if selector.isGateway then "virtualGateway" else "virtualNode"

variable {first second : Selector}

theorem kind_inj : first.kind = second.kind ↔ first.isGateway = second.isGateway := by
  rw [kind, kind]
  cases first.isGateway <;> cases second.isGateway <;> decide

theorem slash_not_mem_kind (selector : Selector) : '/' ∉ selector.kind.toList := by
  rw [kind]
  cases selector.isGateway <;> decide

theorem resolvedAwsName_of_default {selector : Selector} (default : selector.awsName = "") :
    selector.resolvedAwsName = selector.name ++ "_" ++ selector.namespaceName := by
  cases selector with
  | node object => exact if_pos default
  | gateway object => exact if_pos default

theorem toList_proxyName (selector : Selector) (mesh : Mesh) (accountId : String) :
    (selector.proxyName mesh accountId).toList = "mesh".toList ++ '/' ::
      ((mesh.nameFrom accountId).toList ++ '/' ::
        (selector.kind.toList ++ '/' :: selector.resolvedAwsName.toList)) := by
  cases selector with
  | node object =>
      simp [proxyName, VirtualNode.proxyName, kind, isGateway, resolvedAwsName]
  | gateway object =>
      simp [proxyName, VirtualGateway.proxyName, kind, isGateway, resolvedAwsName]

/-- A name determines its parts. -/
theorem proxyName_inj {mesh other : Mesh} {accountId : String} (named : mesh.Named)
    (otherNamed : other.Named) :
    first.proxyName mesh accountId = second.proxyName other accountId ↔
      mesh.awsName = other.awsName ∧ mesh.ownerFrom accountId = other.ownerFrom accountId ∧
      first.isGateway = second.isGateway ∧ first.resolvedAwsName = second.resolvedAwsName := by
  rw [← and_assoc, ← Mesh.nameFrom_inj named otherNamed, ← kind_inj]
  constructor
  · intro same
    have letters := congrArg String.toList same
    rw [toList_proxyName, toList_proxyName] at letters
    have behindStart := (Text.append_cons_inj (by decide) (by decide) letters).2
    have behindMesh := Text.append_cons_inj (named.slash_not_mem accountId)
      (otherNamed.slash_not_mem accountId) behindStart
    have behindKind := Text.append_cons_inj first.slash_not_mem_kind second.slash_not_mem_kind
      behindMesh.2
    exact ⟨String.toList_inj.mp behindMesh.1, String.toList_inj.mp behindKind.1,
      String.toList_inj.mp behindKind.2⟩
  · rintro ⟨sameMesh, sameKind, sameName⟩
    rw [← String.toList_inj, toList_proxyName, toList_proxyName, sameMesh, sameKind, sameName]

/-- A default name determines its parts. -/
theorem resolvedAwsName_inj (defaults : first.awsName = "" ∧ second.awsName = "")
    (named : '_' ∉ first.name.toList) (otherNamed : '_' ∉ second.name.toList)
    (same : first.resolvedAwsName = second.resolvedAwsName) :
    first.name = second.name ∧ first.namespaceName = second.namespaceName := by
  rw [resolvedAwsName_of_default defaults.1, resolvedAwsName_of_default defaults.2] at same
  have letters := congrArg String.toList same
  simp only [String.toList_append, List.append_assoc] at letters
  have parts := Text.append_cons_inj named otherNamed letters
  exact ⟨String.toList_inj.mp parts.1, String.toList_inj.mp parts.2⟩

end Selector

/-! ## The names that are rendered -/

/-- A pod that is made a member of a mesh, with all that its proxy is told from. -/
structure Membership where
  config : Config
  identity : Identity
  mesh : Mesh
  selector : Selector
  pod : Pod

namespace Membership

/-- The proxy is told to introduce itself by the name: Envoy of a node is defined with it,
and that of a gateway is given it. -/
def Introduces (member : Membership) (name : String) : Prop :=
  match member.selector with
  | .node node => ∃ defined, Template.container "envoy" Envoy.definition
      (Envoy.Variables.ofPod member.config member.identity member.mesh node member.pod).toJson =
        .ok defined ∧
      defined.variables ControlPlane.nameVariable = [.given ControlPlane.nameVariable name]
  | .gateway gateway => ∃ given, Gateway.environment
      (.ofPod member.config member.identity member.mesh gateway member.pod) = .ok given ∧
      given.get? ControlPlane.nameVariable = some name

/-- The name by which the proxy introduces itself. -/
def proxyName (member : Membership) : String :=
  member.selector.proxyName member.mesh member.identity.accountId

theorem introduces_proxyName (member : Membership) : member.Introduces member.proxyName := by
  rcases member with ⟨config, identity, mesh, selector, pod⟩
  cases selector with
  | node node =>
      refine ⟨_, Envoy.Variables.container_definition _ _, ?_⟩
      exact Envoy.Variables.variables_nameVariable _
  | gateway gateway =>
      refine ⟨_, Gateway.Variables.environment_definition _, ?_⟩
      exact Gateway.Variables.get?_nameVariable _

/-- Two proxies in one account are told one name exactly when they serve objects of one kind
and name in one mesh, and a name that was not chosen tells the object apart.  No rule is
needed for what stands behind the last separator. -/
theorem names_unambiguous {first second : Membership}
    (sameAccount : first.identity.accountId = second.identity.accountId)
    (meshNamed : first.mesh.Named) (otherMeshNamed : second.mesh.Named)
    (named : '_' ∉ first.selector.name.toList) (otherNamed : '_' ∉ second.selector.name.toList) :
    ∃ name other, first.Introduces name ∧ second.Introduces other ∧
      (name = other ↔
        first.mesh.awsName = second.mesh.awsName ∧
        first.mesh.ownerFrom first.identity.accountId =
          second.mesh.ownerFrom second.identity.accountId ∧
        first.selector.isGateway = second.selector.isGateway ∧
        first.selector.resolvedAwsName = second.selector.resolvedAwsName) ∧
      (name = other → first.selector.awsName = "" ∧ second.selector.awsName = "" →
        first.selector.name = second.selector.name ∧
        first.selector.namespaceName = second.selector.namespaceName) := by
  have parts := @Selector.proxyName_inj first.selector second.selector first.mesh second.mesh
    first.identity.accountId meshNamed otherMeshNamed
  have inAccount : second.proxyName =
      second.selector.proxyName second.mesh first.identity.accountId := by
    rw [proxyName, sameAccount]
  rw [← sameAccount]
  refine ⟨_, _, first.introduces_proxyName, second.introduces_proxyName, ?_, ?_⟩
  · rw [inAccount]
    exact parts
  · intro same defaults
    rw [inAccount] at same
    exact Selector.resolvedAwsName_inj defaults named otherNamed (parts.mp same).2.2.2

/-- Nothing tells a mesh without an owner from one that the account owns, but a mesh of
another account is told from both. -/
theorem names_unambiguous_of_owners :
    let member (owner : Option String) : Membership :=
      ⟨{}, { accountId := "1111" }, ⟨"mesh", "mesh", owner⟩,
        .node { name := "front", namespaceName := "shop" }, .empty⟩
    (∀ owner ∈ [none, some "1111", some "2222"], (member owner).mesh.Named) ∧
    '_' ∉ "front".toList ∧
    (∃ name, (member none).Introduces name ∧ (member (some "1111")).Introduces name) ∧
    ∃ name other, (member none).Introduces name ∧ (member (some "2222")).Introduces other ∧
      name ≠ other := by
  intro member
  have named : ∀ owner ∈ [none, some "1111", some "2222"], (member owner).mesh.Named := by
    intro owner listed
    refine ⟨(by decide : '/' ∉ "mesh".toList ∧ '@' ∉ "mesh".toList), ?_⟩
    intro account owned
    simp only [List.mem_cons, List.not_mem_nil, or_false] at listed
    rcases listed with rfl | rfl | rfl
    all_goals
      cases owned <;> decide
  have single : '_' ∉ "front".toList := by
    decide
  have own := @names_unambiguous (member none) (member (some "1111")) rfl
    (named _ (by simp)) (named _ (by simp)) single single
  have foreign := @names_unambiguous (member none) (member (some "2222")) rfl
    (named _ (by simp)) (named _ (by simp)) single single
  refine ⟨named, single, ?_, ?_⟩
  · rcases own with ⟨name, other, told, alsoTold, same, -⟩
    have equal : name = other := same.mpr (by decide)
    exact ⟨name, told, equal ▸ alsoTold⟩
  · rcases foreign with ⟨name, other, told, alsoTold, same, -⟩
    exact ⟨name, other, told, alsoTold, fun equal => absurd (same.mp equal).2.1 (by decide)⟩

end Membership

end MeshSidecar
