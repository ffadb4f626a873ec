import ApiCodegen.Tree.Emission

/-!
# Skeletons of implementations

For each API a file with an implementation of its service in which every method fails; and the
indexes of the directories that these files lie in. They are written once.
-/

namespace ApiCodegen

/-- What the types of signatures refer to. -/
structure ReferencedTypes where
  primitives : List Primitive
  map : Bool
  versionModels : Bool
  errorModels : Bool
  standardModels : Bool
deriving DecidableEq, Repr

namespace ReferencedTypes

/-- Nothing. -/
def none : ReferencedTypes := ⟨[], false, false, false, false⟩

/-- What a type refers to, besides what is known already. -/
def collect (known : ReferencedTypes) : ResolvedType → ReferencedTypes
  | .primitive p => { known with primitives := p :: known.primitives }
  | .model _ .version _ => { known with versionModels := true }
  | .model _ .error _ => { known with errorModels := true }
  | .model _ .standard _ => { known with standardModels := true }
  | .local _ => known
  | .option inner | .vec inner => known.collect inner
  | .map inner => { known.collect inner with map := true }

/-- What several types refer to. -/
def ofTypes (types : List ResolvedType) : ReferencedTypes :=
  types.foldl collect none

end ReferencedTypes

namespace Emission

/-- The imports of the types that the methods of a service spell out. -/
def signatureUses (e : Emission) (v : Version) (sigs : List Signature) : List UsePath :=
  let refs := ReferencedTypes.ofTypes (sigs.flatMap Signature.types)
  useIf refs.versionModels (.internal [e.versionModule v, "models"] .module) ++
  useIf refs.errorModels (.internal ["errors"] .module) ++
  useIf refs.standardModels (.internal ["errmodels"] .module) ++
  typeUses refs.primitives.contains refs.map

/-- The skeleton of a method. Its parameters are not used, which their names say. -/
def skeletonMethod (naming : Naming) (s : Signature) : SkeletonMethod where
  name := s.fnName
  params := (s.serviceFormals naming .inApi).map fun f => ("_" ++ Naming.unraw f.var.name, f.type)
  returns := s.returnSpelling naming .inApi

/-- The skeleton of the service of an API. -/
def skeletonFile (e : Emission) (v : Version) (a : Api) : Except Fault TreeFile := do
  let sigs ← e.signatures v a
  return ⟨⟨.services, [e.versionModule v], e.apiModule a⟩,
    .skeleton {
      api := a.name
      uses := [.internal ["errors"] (.name "ServiceError"),
        .internal [e.versionModule v, e.apiModule a] .everything] ++ e.signatureUses v sigs
      traitName := e.traitName a
      methods := sigs.map (skeletonMethod e.naming) }⟩

/-- An index of skeletons. -/
def skeletonIndex (dirs modules : List String) : TreeFile :=
  ⟨.ofDirectory .services dirs, .index ⟨false, ModuleIndex.sorted modules⟩⟩

/-- The skeletons of a version and their index. -/
def versionSkeletons (e : Emission) (v : Version) : Except Fault (List TreeFile) := do
  let files ← v.apis.mapM (e.skeletonFile v)
  return skeletonIndex [e.versionModule v] (v.apis.map e.apiModule) :: files

/-- The skeletons of all versions and their index. -/
def skeletonFiles (e : Emission) : Except Fault (List TreeFile) := do
  let files ← e.spec.versions.mapM e.versionSkeletons
  return skeletonIndex [] (e.spec.versions.map e.versionModule) :: files.flatten

end Emission

end ApiCodegen
