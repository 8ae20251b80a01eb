/-
  Tfplenum.Service.RegistryService

  `registry_service.py`: the images of the docker registry with their sizes.

  The unit conversion and the `return` stand in the loop over the layers, so that a size is
  that of the first layer; and where the tags of a repository cannot be read the function
  that asks for them is returned in their place (`registry_tells_iff`).
-/

import Mathlib.Algebra.Ring.Nat
import Tfplenum.Common
import Tfplenum.Lib.Fallible

namespace Tfplenum

open Lib

namespace RegistryService

/-! ## The registry -/

/-- What a query comes to: an exception, another status than 200, or the body. -/
abbrev Query (α : Type) := Except PyError (Option α)

/-- What is read of a manifest -/
structure Manifest where
  /-- `config` -/
  digest : String
  configSize : Nat
  /-- the sizes of the layers -/
  layers : List Nat

/-- The answers of a registry; the tags of a repository may be `null`. -/
structure Registry where
  catalog : Query (List String)
  tags : String → Query (Option (List String))
  manifest : String → String → Query Manifest

structure ImageMetadata (F : Type) where
  tag : String
  imageId : String
  imageSize : F
deriving DecidableEq

/-- `DockerImageModel` -/
structure DockerImage (F : Type) where
  name : String
  metadata : List (ImageMetadata F)
deriving DecidableEq

/-- The floating-point numbers of a size -/
structure SizeOps (F : Type) where
  /-- `round(total / 1000 / 1000, 2)` -/
  megabytes : Nat → F
  /-- `0.0` -/
  zero : F

/-! ## The service -/

/-- What `_get_docker_repo_tags` returns: tags, or itself -/
inductive RepoTags where
  | tags (tags : Option (List String))
  | getDockerRepoTags

section

variable {F : Type} (ops : SizeOps F) (registry : Registry)

/-- `_get_docker_repo_tags` -/
def getDockerRepoTags (repo : String) : Except PyError RepoTags := do
  match ← registry.tags repo with
  | some tags => return .tags tags
  | none => return .getDockerRepoTags

/-- The loop of `_get_imageid_and_size`, which ends in its first round, and what follows it -/
def sizeLoop (imageId : String) (total : Nat) : List Nat → String × F
  | layer :: _ => (imageId, ops.megabytes (total + layer))
  | [] => ("Not in image manifest", ops.zero)

/-- `_get_imageid_and_size` -/
def getImageidAndSize (repo tag : String) : Except PyError (String × F) := do
  match ← registry.manifest repo tag with
  | some manifest =>
      -- `[7:19]`
      let imageId := String.ofList ((manifest.digest.toList.take 19).drop 7)
      return sizeLoop ops imageId manifest.configSize manifest.layers
  | none => return ("Not in image manifest", ops.zero)

/-- The inner loop of `get_docker_registry` -/
def imageMetadata (repo tag : String) : Except PyError (ImageMetadata F) := do
  let (imageId, imageSize) ← getImageidAndSize ops registry repo tag
  return { tag, imageId, imageSize }

/-- The loop of `get_docker_registry` -/
def dockerImages : List String → Except PyError (List (DockerImage F))
  | [] => return []
  | repo :: repos => do
      match ← getDockerRepoTags registry repo with
      -- the function is true
      | .getDockerRepoTags => throw (.typeError "'function' object is not iterable")
      | .tags none | .tags (some []) => dockerImages repos
      | .tags (some tags) =>
          let metadata ← tags.mapM (imageMetadata ops registry repo)
          return { name := repo, metadata } :: (← dockerImages repos)

/-- `get_docker_registry` -/
def getDockerRegistry : Except PyError (List (DockerImage F)) := do
  match ← registry.catalog with
  | some repos => dockerImages ops registry repos
  | none => return []

/-! ## What it tells -/

/-- The size of an image: of its configuration and all its layers -/
def Manifest.size (manifest : Manifest) : F :=
  ops.megabytes (manifest.configSize + manifest.layers.sum)

/-- The repositories of which tags can be read, with them -/
def taggedRepos (repos : List String) : List (String × List String) :=
  repos.filterMap fun repo =>
    match registry.tags repo with
    | .ok (some (some (tag :: tags))) => some (repo, tag :: tags)
    | _ => none

/-- The image is of the tag, and has its size if its manifest can be read. -/
def ImageTold (repo tag : String) (image : ImageMetadata F) : Prop :=
  image.tag = tag ∧ ∀ manifest, registry.manifest repo tag = .ok (some manifest) →
    image.imageSize = manifest.size ops

/-- The entry is of the repository, with an image for each of the tags. -/
def EntryTold (repo : String × List String) (entry : DockerImage F) : Prop :=
  entry.name = repo.1 ∧ List.Forall₂ (ImageTold ops registry repo.1) repo.2 entry.metadata

/-- There is an entry for each repository of which tags can be read. -/
def Tells : Prop :=
  ∃ entries, getDockerRegistry ops registry = .ok entries ∧
    List.Forall₂ (EntryTold ops registry)
      (taggedRepos registry (registry.catalog.toOption.join.getD [])) entries

/-- The layers after the first do not show in the rounded size; and without layers there is
    nothing to show. -/
def Manifest.FirstShows (manifest : Manifest) : Prop :=
  match manifest.layers with
  | [] => ops.zero = ops.megabytes manifest.configSize
  | layer :: layers => ops.megabytes (manifest.configSize + layer) =
      ops.megabytes (manifest.configSize + (layer + layers.sum))

/-- The tags of the repository are answered, no query for a manifest raises, and the manifests
    that are answered show with their first layer. -/
def RepoTold (repo : String) : Prop :=
  ∃ tags, registry.tags repo = .ok (some tags) ∧ ∀ tag ∈ tags.getD [],
    ∃ manifest, registry.manifest repo tag = .ok manifest ∧
      ∀ m, manifest = some m → m.FirstShows ops

/-! ## Images -/

variable {ops registry} {repo : String}

/-- The size in the code is that of the first layer. -/
theorem sizeLoop_eq_iff {manifest : Manifest} {imageId : String} :
    (sizeLoop ops imageId manifest.configSize manifest.layers).2 = manifest.size ops ↔
      manifest.FirstShows ops := by
  unfold Manifest.FirstShows Manifest.size
  cases manifest.layers with
  | nil => simp [sizeLoop]
  | cons layer layers => simp [sizeLoop]

theorem exists_imageMetadata_iff {tag : String} :
    (∃ image, imageMetadata ops registry repo tag = .ok image ∧
        ImageTold ops registry repo tag image) ↔
      ∃ manifest, registry.manifest repo tag = .ok manifest ∧
        ∀ m, manifest = some m → m.FirstShows ops := by
  unfold imageMetadata getImageidAndSize ImageTold
  rcases registry.manifest repo tag with e | _ | manifest
  · simp [bind, Except.bind]
  · simp [bind, Except.bind, pure, Except.pure]
  · simp only [bind, Except.bind, pure, Except.pure, Except.ok.injEq, exists_eq_left',
      Option.some.injEq, forall_eq', true_and, sizeLoop_eq_iff]

theorem exists_metadata_iff {tags : List String} :
    (∃ metadata, tags.mapM (imageMetadata ops registry repo) = .ok metadata ∧
        List.Forall₂ (ImageTold ops registry repo) tags metadata) ↔
      ∀ tag ∈ tags, ∃ manifest, registry.manifest repo tag = .ok manifest ∧
        ∀ m, manifest = some m → m.FirstShows ops := by
  rw [Fallible.exists_mapM_eq_ok_and_iff]
  simp only [exists_imageMetadata_iff]

/-! ## Repositories -/

/-- A repository without tags is passed over. -/
theorem dockerImages_of_untagged (ops : SizeOps F) (repos : List String)
    {tags : Option (List String)}
    (h : registry.tags repo = .ok (some tags)) (hnil : tags.getD [] = []) :
    dockerImages ops registry (repo :: repos) = dockerImages ops registry repos ∧
      taggedRepos registry (repo :: repos) = taggedRepos registry repos := by
  rw [dockerImages, getDockerRepoTags, taggedRepos, List.filterMap_cons, h]
  rcases tags with _ | _ | ⟨tag, tags⟩
  · exact ⟨rfl, rfl⟩
  · exact ⟨rfl, rfl⟩
  · cases hnil

theorem dockerImages_of_tagged (ops : SizeOps F) (repos : List String) {tag : String}
    {tags : List String}
    (h : registry.tags repo = .ok (some (some (tag :: tags)))) :
    dockerImages ops registry (repo :: repos) = (do
        let metadata ← (tag :: tags).mapM (imageMetadata ops registry repo)
        return DockerImage.mk repo metadata :: (← dockerImages ops registry repos)) ∧
      taggedRepos registry (repo :: repos) = (repo, tag :: tags) :: taggedRepos registry repos := by
  rw [dockerImages, getDockerRepoTags, taggedRepos, List.filterMap_cons, h]
  exact ⟨rfl, rfl⟩

/-- There is an entry for the repository if its images are told, beside those of the rest. -/
theorem exists_cons_entries_iff {repos : List String} {tags : List String}
    {tagged : List (String × List String)} :
    (∃ entries, (do
          let metadata ← tags.mapM (imageMetadata ops registry repo)
          return DockerImage.mk repo metadata :: (← dockerImages ops registry repos)) =
            .ok entries ∧
        List.Forall₂ (EntryTold ops registry) ((repo, tags) :: tagged) entries) ↔
      (∃ metadata, tags.mapM (imageMetadata ops registry repo) = .ok metadata ∧
        List.Forall₂ (ImageTold ops registry repo) tags metadata) ∧
      ∃ entries, dockerImages ops registry repos = .ok entries ∧
        List.Forall₂ (EntryTold ops registry) tagged entries := by
  constructor
  · rintro ⟨entries, hentries, htold⟩
    obtain ⟨metadata, hmetadata, hrest⟩ := Fallible.bind_eq_ok_iff.mp hentries
    obtain ⟨rest, hrepos, hcons⟩ := Fallible.bind_eq_ok_iff.mp hrest
    rw [← Except.ok.inj hcons, List.forall₂_cons] at htold
    exact ⟨⟨metadata, hmetadata, htold.1.2⟩, rest, hrepos, htold.2⟩
  · rintro ⟨⟨metadata, hmetadata, himages⟩, rest, hrepos, htold⟩
    refine ⟨{ name := repo, metadata } :: rest, ?_, .cons ⟨rfl, himages⟩ htold⟩
    rw [hmetadata, hrepos]
    rfl

/-- The entries are those of the repositories with tags, exactly if each repository is told. -/
theorem exists_dockerImages_iff {repos : List String} :
    (∃ entries, dockerImages ops registry repos = .ok entries ∧
        List.Forall₂ (EntryTold ops registry) (taggedRepos registry repos) entries) ↔
      ∀ repo ∈ repos, RepoTold ops registry repo := by
  induction repos with
  | nil => simp [dockerImages, taggedRepos, pure, Except.pure]
  | cons repo repos ih =>
      rw [List.forall_mem_cons, ← ih, RepoTold]
      rcases htags : registry.tags repo with e | _ | tags
      · -- the query raises
        simp [dockerImages, getDockerRepoTags, htags, bind, Except.bind]
      · -- the function stands in for the tags
        simp [dockerImages, getDockerRepoTags, htags, bind, Except.bind, pure, Except.pure, throw,
          throwThe, MonadExceptOf.throw]
      · simp only [Except.ok.injEq, Option.some.injEq, exists_eq_left']
        cases hread : tags.getD [] with
        | nil =>
            obtain ⟨himages, htagged⟩ := dockerImages_of_untagged ops repos htags hread
            rw [himages, htagged]
            simp
        | cons tag rest =>
            have hsome : tags = some (tag :: rest) := by
              cases tags with
              | none => cases hread
              | some tags => exact congrArg some hread
            obtain ⟨himages, htagged⟩ := dockerImages_of_tagged ops repos (hsome ▸ htags)
            rw [himages, htagged, exists_cons_entries_iff, exists_metadata_iff]

/-- For every registry and whatever its queries come to, the listing tells the images exactly
    if no query raises, those for tags are answered, and the first layers show. -/
theorem registry_tells_iff (ops : SizeOps F) (registry : Registry) :
    Tells ops registry ↔ ∃ repos, registry.catalog = .ok repos ∧
      ∀ repo ∈ repos.getD [], RepoTold ops registry repo := by
  unfold Tells getDockerRegistry
  rcases registry.catalog with e | _ | repos
  · simp [bind, Except.bind]
  · simp [bind, Except.bind, pure, Except.pure, Except.toOption, taggedRepos]
  · simp only [Except.ok.injEq, exists_eq_left', Option.getD_some]
    exact exists_dockerImages_iff

end

/-- Sizes in megabytes, where they have no more than two decimals -/
def exactSizes : SizeOps Rat where
  megabytes total := (total : Rat) / 1000 / 1000
  zero := 0

/-- A registry with one image, of one megabyte and layers of two and three. -/
def oneImage : Registry where
  catalog := .ok (some ["tfplenum/zeek"])
  tags _ := .ok (some (some ["4.0"]))
  manifest _ _ := .ok (some
    { digest := "sha256:0123456789abcdef", configSize := 1000000, layers := [2000000, 3000000] })

/-- Its size is given as three megabytes. -/
theorem not_tells_oneImage :
    (imageMetadata exactSizes oneImage "tfplenum/zeek" "4.0").map (·.imageSize) = .ok 3 ∧
      ¬ ∀ (ops : SizeOps Rat) registry, Tells ops registry := by
  refine ⟨by decide +kernel, fun h => ?_⟩
  obtain ⟨entries, hentries, htold⟩ := h exactSizes oneImage
  have htold := exists_dockerImages_iff.mp ⟨entries, hentries, htold⟩ "tfplenum/zeek"
    List.mem_cons_self
  obtain ⟨tags, htags, hmanifests⟩ := htold
  rw [← Option.some.inj (Except.ok.inj htags)] at hmanifests
  obtain ⟨manifest, hmanifest, hshows⟩ := hmanifests "4.0" List.mem_cons_self
  have hfirst : exactSizes.megabytes (1000000 + 2000000) =
      exactSizes.megabytes (1000000 + (2000000 + [3000000].sum)) :=
    hshows _ (Except.ok.inj hmanifest).symm
  exact absurd hfirst (by decide +kernel)

end RegistryService

end Tfplenum
