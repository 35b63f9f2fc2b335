import OhMyClass.Exporters.Flashcards
import OhMyClass.Raising.Core

/-!
# Vocabulary packages

The files of a batch of clusters, in one map by their paths, and the manifest
that lists them.
-/

namespace OhMyClass.VocabularyPackage

open List Function
open Flashcards (JsString ascii)

inductive Format where
  | html | gift | h5p
  deriving DecidableEq

/-- A review status, and an export status. -/
inductive Status where
  | passed | needsReview | failed
  deriving DecidableEq

structure Cluster where
  clusterId : JsString
  title : JsString
  terms : List JsString
  reviewStatus : Status
  warnings : List JsString

structure ClusterInput (PracticeSet : Type) where
  cluster : Cluster
  practiceSet : Option PracticeSet
  teacherApproved : Option Bool
  diagnostics : Option (List JsString)

inductive FileKind where
  | diagnostics | teachingTeacher | practiceTeacher | teachingStudent | practiceStudent | gift | h5p
  deriving DecidableEq

def FileKind.fileName : FileKind → String
  | diagnostics => "diagnostics.html"
  | teachingTeacher => "teaching-teacher.html"
  | practiceTeacher => "practice-teacher.html"
  | teachingStudent => "teaching-student.html"
  | practiceStudent => "practice-student.html"
  | gift => "practice.gift.txt"
  | h5p => "practice.h5p"

structure ManifestCluster where
  clusterId : JsString
  title : JsString
  terms : List JsString
  status : Status
  exportStatus : Status
  teacherApproved : Bool
  warnings : List JsString
  files : List (FileKind × JsString)

/-- Lower case, and what is written into the files of a batch. -/
structure Writers (PracticeSet Content : Type) where
  toLowerCase : JsString → JsString
  diagnosticsHtml : ClusterInput PracticeSet → Content
  /-- The responses of a batch, by what they project. -/
  renderVocabularyProjections : Cluster → PracticeSet → Except JsString (FileKind → Content)
  practiceGift : Cluster → PracticeSet → Content
  practiceH5P : Cluster → PracticeSet → Except JsString Content
  manifestJson : List ManifestCluster → Content
  renderIndex : List ManifestCluster → Content

structure VocabularyBatchPackage (Content : Type) where
  zip : JsString → Option Content
  clusters : List ManifestCluster

def slash : UInt16 := 0x2f

def dash : UInt16 := 0x2d

/-- `[a-z0-9_-]`. -/
def IsSafe (unit : UInt16) : Prop :=
  0x61 ≤ unit ∧ unit ≤ 0x7a ∨ 0x30 ≤ unit ∧ unit ≤ 0x39 ∨ unit = 0x5f ∨ unit = dash

instance : DecidablePred IsSafe :=
  fun _ => inferInstanceAs (Decidable (_ ∨ _))

/-- `replace(/[^a-z0-9_-]+/g, "-")`, after another unit of a run or not. -/
def dashed : Bool → JsString → JsString
  | _, [] => []
  | inRun, unit :: rest =>
    if IsSafe unit then unit :: dashed false rest
    else if inRun then dashed true rest else dash :: dashed true rest

section Package

variable {PracticeSet Content : Type} (writers : Writers PracticeSet Content)

def safeSegment (value : JsString) : JsString :=
  let segment := ((dashed false (writers.toLowerCase value)).dropWhile (· = dash)).rdropWhile
    (· = dash)
  if segment = [] then ascii "cluster" else segment

def exportStatus (input : ClusterInput PracticeSet) : Status :=
  if input.cluster.reviewStatus = .failed then .failed
  else if input.cluster.reviewStatus = .needsReview ∧ input.teacherApproved ≠ some true then
    .needsReview
  else .passed

/-- A path in the folder of a cluster. -/
def pathOf (input : ClusterInput PracticeSet) (kind : FileKind) : JsString :=
  ascii "clusters/" ++ safeSegment writers input.cluster.clusterId ++ slash :: ascii kind.fileName

variable (formats : List Format)

/-- The kinds of files that a cluster lists, in order. -/
def fileKinds (input : ClusterInput PracticeSet) : List FileKind :=
  (if exportStatus input = .failed then [.diagnostics]
    else if .html ∈ formats then
      [.teachingTeacher, .practiceTeacher] ++
        if exportStatus input = .passed then [.teachingStudent, .practiceStudent] else []
    else []) ++
  if exportStatus input = .passed ∧ input.practiceSet.isSome then
    (if .gift ∈ formats then [.gift] else []) ++ if .h5p ∈ formats then [.h5p] else []
  else []

/-- What is written into a file of a cluster. -/
def contentOf (input : ClusterInput PracticeSet) (kind : FileKind) : Except JsString Content :=
  match kind, input.practiceSet with
  | .diagnostics, _ => .ok (writers.diagnosticsHtml input)
  | _, none =>
    .error (ascii "Vocabulary batch cluster " ++ input.cluster.clusterId ++
      ascii " cannot export HTML without a PracticeSet")
  | .gift, some practiceSet => .ok (writers.practiceGift input.cluster practiceSet)
  | .h5p, some practiceSet => writers.practiceH5P input.cluster practiceSet
  | projection, some practiceSet =>
    (writers.renderVocabularyProjections input.cluster practiceSet).map (· projection)

/-- The files that the body of the loop adds. -/
def clusterFiles (input : ClusterInput PracticeSet) :
    Except JsString (List (FileKind × Content)) :=
  (fileKinds formats input).mapM fun kind =>
    (contentOf writers input kind).map fun content => (kind, content)

def manifestCluster (input : ClusterInput PracticeSet) (files : List (FileKind × Content)) :
    ManifestCluster where
  clusterId := input.cluster.clusterId
  title := input.cluster.title
  terms := input.cluster.terms
  status := input.cluster.reviewStatus
  exportStatus := exportStatus input
  teacherApproved := input.teacherApproved = some true
  warnings := input.cluster.warnings
  files := files.map fun file => (file.1, pathOf writers input file.1)

/-- The map after these assignments. -/
def addFiles (writes : List (JsString × Content)) : JsString → Option Content :=
  writes.foldl (fun files write => update files write.1 (some write.2)) fun _ => none

def buildVocabularyBatchPackage (inputs : List (ClusterInput PracticeSet)) :
    Except JsString (VocabularyBatchPackage Content) := do
  let made ← inputs.mapM fun input => (clusterFiles writers formats input).map fun files =>
    (input, files)
  let clusters := made.map fun entry => manifestCluster writers entry.1 entry.2
  pure
    { zip := addFiles (made.flatMap (fun entry =>
          entry.2.map fun file => (pathOf writers entry.1 file.1, file.2)) ++
        [(ascii "manifest.json", writers.manifestJson clusters),
          (ascii "index.html", writers.renderIndex clusters)])
      clusters := clusters }

/-- Clusters with one folder list no file of the same kind. -/
def KeepApart (inputs : List (ClusterInput PracticeSet)) : Prop :=
  inputs.Pairwise fun first second =>
    safeSegment writers first.cluster.clusterId = safeSegment writers second.cluster.clusterId →
      (fileKinds formats first).Disjoint (fileKinds formats second)

def VocabularyBatchPackage.listed (package : VocabularyBatchPackage Content) : List JsString :=
  package.clusters.flatMap fun cluster => cluster.files.map Prod.snd

/-- The files of a package are those of its clusters, each in its place. -/
structure HoldsOwnFiles (inputs : List (ClusterInput PracticeSet))
    (package : VocabularyBatchPackage Content) : Prop where
  own : Forall₂ (fun input cluster => ∃ files, clusterFiles writers formats input = .ok files ∧
    cluster = manifestCluster writers input files ∧
      ∀ file ∈ files, package.zip (pathOf writers input file.1) = some file.2)
    inputs package.clusters
  once : package.listed.Nodup
  others : ∀ path ∉ [ascii "manifest.json", ascii "index.html"],
    package.zip path ≠ none → path ∈ package.listed
  failed : ∀ cluster ∈ package.clusters, cluster.exportStatus = .failed →
    cluster.files.map Prod.fst = [.diagnostics]
  unpassed : ∀ cluster ∈ package.clusters, cluster.exportStatus ≠ .passed →
    cluster.files.map Prod.fst ⊆ [.diagnostics, .teachingTeacher, .practiceTeacher]

/-! ## Paths -/

variable {writers formats} {input other : ClusterInput PracticeSet} {kind : FileKind}

theorem isSafe_of_mem_dashed {unit : UInt16} :
    ∀ {inRun text}, unit ∈ dashed inRun text → IsSafe unit
  | _, [], mem => absurd mem not_mem_nil
  | inRun, first :: rest, mem => by
    rw [dashed] at mem
    split at mem
    · next safe =>
      rcases mem_cons.mp mem with rfl | later
      · exact safe
      · exact isSafe_of_mem_dashed later
    · split at mem
      · exact isSafe_of_mem_dashed mem
      · rcases mem_cons.mp mem with rfl | later
        · exact .inr (.inr (.inr rfl))
        · exact isSafe_of_mem_dashed later

theorem slash_not_mem_safeSegment (value : JsString) : slash ∉ safeSegment writers value := by
  intro mem
  rw [safeSegment] at mem
  split at mem
  · exact absurd mem (by decide)
  · have inDashed := (dropWhile_sublist _).subset (( rdropWhile_prefix _ _).subset mem)
    exact absurd (isSafe_of_mem_dashed inDashed) (by decide)

theorem pathOf_inj {otherKind : FileKind} :
    pathOf writers input kind = pathOf writers other otherKind ↔
      safeSegment writers input.cluster.clusterId = safeSegment writers other.cluster.clusterId ∧
        kind = otherKind := by
  have names : ascii kind.fileName = ascii otherKind.fileName → kind = otherKind := by
    cases kind <;> cases otherKind <;> decide
  have noSlash : slash ∉ ascii kind.fileName := by cases kind <;> decide
  unfold pathOf
  rw [append_assoc, append_assoc, append_cancel_left_eq,
    append_cons_inj_of_notMem (slash_not_mem_safeSegment _) noSlash]
  exact ⟨fun same => ⟨same.1, names same.2.2⟩, fun same => ⟨same.1, rfl, by rw [same.2]⟩⟩

theorem pathOf_not_mem : pathOf writers input kind ∉ [ascii "manifest.json", ascii "index.html"] := by
  intro mem
  have head : (pathOf writers input kind).head? = some 0x63 := rfl
  simp only [mem_cons, not_mem_nil, or_false] at mem
  rcases mem with same | same <;> rw [same] at head <;> exact absurd head (by decide)

theorem map_eq_ok {α β : Type} {made : Except JsString α} {f : α → β} {result : β} :
    made.map f = .ok result ↔ ∃ value, made = .ok value ∧ f value = result := by
  cases made <;> simp [Except.map]

theorem kinds_of_clusterFiles {files : List (FileKind × Content)}
    (made : clusterFiles writers formats input = .ok files) :
    files.map Prod.fst = fileKinds formats input := by
  have paired : Forall₂ (fun kind file => kind = file.1) (fileKinds formats input) files :=
    (Raising.mapM_eq_ok_iff.mp made).imp fun kind file written => by
      obtain ⟨_, _, rfl⟩ := map_eq_ok.mp written
      rfl
  rw [← forall₂_map_right_iff, forall₂_eq_eq_eq] at paired
  exact paired.symm

theorem nodup_fileKinds : (fileKinds formats input).Nodup := by
  unfold fileKinds
  split_ifs <;> simp_all

theorem addFiles_eq_some_iff {writes : List (JsString × Content)}
    (distinct : (writes.map Prod.fst).Nodup) {path : JsString} {content : Content} :
    addFiles writes path = some content ↔ (path, content) ∈ writes := by
  induction writes using reverseRecOn with
  | nil => simp [addFiles]
  | append_singleton writes write ih =>
    rw [map_append, nodup_append] at distinct
    have isNew := fun content (mem : (write.1, content) ∈ writes) =>
      distinct.2.2 _ (mem_map_of_mem mem) _ (mem_singleton_self _) rfl
    have earlier : addFiles (writes ++ [write]) = update (addFiles writes) write.1 (some write.2) := by
      simp [addFiles]
    rw [earlier, mem_append, mem_singleton]
    rcases eq_or_ne path write.1 with rfl | otherPath
    · rw [update_self, Option.some.injEq, or_iff_right (isNew content), Prod.ext_iff]
      exact ⟨fun same => ⟨rfl, same.symm⟩, fun same => same.2.symm⟩
    · rw [update_of_ne otherPath, ih distinct.1, or_iff_left fun same => otherPath (by rw [← same])]

/-! ## Packages -/

variable {inputs : List (ClusterInput PracticeSet)}

theorem nodup_paths_iff :
    (inputs.flatMap fun input => (fileKinds formats input).map (pathOf writers input)).Nodup ↔
      KeepApart writers formats inputs := by
  have each (input : ClusterInput PracticeSet) :
      ((fileKinds formats input).map (pathOf writers input)).Nodup :=
    nodup_fileKinds.map fun _ _ same => (pathOf_inj.mp same).2
  rw [nodup_flatMap, and_iff_right fun input _ => each input]
  refine ⟨Pairwise.imp ?_, Pairwise.imp ?_⟩
  · intro first second apart sameSegment kind inFirst inSecond
    refine apart (mem_map_of_mem inFirst) ?_
    rw [pathOf_inj.mpr ⟨sameSegment, rfl⟩]
    exact mem_map_of_mem inSecond
  · intro first second apart path inFirst inSecond
    obtain ⟨kind, isFirst, rfl⟩ := mem_map.mp inFirst
    obtain ⟨otherKind, isSecond, same⟩ := mem_map.mp inSecond
    obtain ⟨sameSegment, rfl⟩ := pathOf_inj.mp same
    exact apart sameSegment.symm isFirst isSecond

variable (writers formats) in
/-- The files of a cluster whose writers return. -/
def filesOf (input : ClusterInput PracticeSet) : List (FileKind × Content) :=
  (clusterFiles writers formats input).toOption.getD []

theorem made_eq {made : List (ClusterInput PracticeSet × List (FileKind × Content))}
    (isMade : (inputs.mapM fun input => (clusterFiles writers formats input).map fun files =>
      (input, files)) = .ok made) :
    made = (inputs.map fun input => (input, filesOf writers formats input)) ∧
      ∀ input ∈ inputs, clusterFiles writers formats input = .ok (filesOf writers formats input) := by
  have paired := Raising.mapM_eq_ok_iff.mp isMade
  clear isMade
  induction paired with
  | nil => simp
  | @cons input entry _ _ first _ ih =>
    obtain ⟨files, written, rfl⟩ := map_eq_ok.mp first
    have isFiles : filesOf writers formats input = files := by
      rw [filesOf, written]
      rfl
    rw [map_cons, ih.1, forall_mem_cons, written, isFiles]
    exact ⟨rfl, rfl, ih.2⟩

/-- A package holds the own files of every cluster exactly if clusters with one
folder list no file of the same kind. -/
theorem holdsOwnFiles_iff {package : VocabularyBatchPackage Content}
    (returned : buildVocabularyBatchPackage writers formats inputs = .ok package) :
    HoldsOwnFiles writers formats inputs package ↔ KeepApart writers formats inputs := by
  rcases Raising.bind_eq_ok.mp returned with ⟨made, isMade, built⟩
  obtain ⟨rfl, written⟩ := made_eq isMade
  cases built
  have kinds (input) (isInput : input ∈ inputs) :
      (filesOf writers formats input).map Prod.fst = fileKinds formats input :=
    kinds_of_clusterFiles (written input isInput)
  have paths : (inputs.flatMap fun input => (filesOf writers formats input).map fun file =>
      pathOf writers input file.1) =
        inputs.flatMap fun input => (fileKinds formats input).map (pathOf writers input) := by
    refine flatMap_congr fun input isInput => ?_
    rw [← kinds input isInput, map_map]
    rfl
  constructor
  · intro holds
    have once := holds.once
    simp only [VocabularyBatchPackage.listed, manifestCluster, flatMap_map, map_map, comp_def] at once
    rwa [paths, nodup_paths_iff] at once
  · intro apart
    generalize manifest : writers.manifestJson _ = json
    generalize index : writers.renderIndex _ = html
    have distinct : (((inputs.map fun input => (input, filesOf writers formats input)).flatMap
        (fun entry => entry.2.map fun file => (pathOf writers entry.1 file.1, file.2)) ++
          [(ascii "manifest.json", json), (ascii "index.html", html)]).map Prod.fst).Nodup := by
      simp only [map_append, flatMap_map, map_flatMap, map_map, comp_def]
      rw [paths]
      refine nodup_append.mpr ⟨nodup_paths_iff.mpr apart, by simp [ascii], ?_⟩
      rintro path isOwn _ isTail rfl
      obtain ⟨_, _, isPath⟩ := mem_flatMap.mp isOwn
      obtain ⟨_, _, rfl⟩ := mem_map.mp isPath
      exact pathOf_not_mem isTail
    constructor
    case own =>
      rw [forall₂_map_right_iff, forall₂_map_right_iff, forall₂_same]
      intro input isInput
      refine ⟨_, written input isInput, rfl, fun file isFile => (addFiles_eq_some_iff distinct).mpr
        (mem_append_left _ (mem_flatMap.mpr ?_))⟩
      exact ⟨_, mem_map_of_mem isInput, mem_map_of_mem isFile⟩
    case once =>
      simp only [VocabularyBatchPackage.listed, manifestCluster, flatMap_map, map_map, comp_def]
      rw [paths]
      exact nodup_paths_iff.mpr apart
    case others =>
      intro path other someFile
      obtain ⟨content, inZip⟩ := Option.ne_none_iff_exists'.mp someFile
      rcases mem_append.mp ((addFiles_eq_some_iff distinct).mp inZip) with isOwn | isTail
      · simp only [VocabularyBatchPackage.listed, manifestCluster, flatMap_map, map_map, comp_def,
          mem_flatMap] at isOwn ⊢
        obtain ⟨input, isInput, inFiles⟩ := isOwn
        obtain ⟨file, isFile, same⟩ := mem_map.mp inFiles
        cases same
        exact ⟨input, isInput, mem_map.mpr ⟨file, isFile, rfl⟩⟩
      · have isPath := mem_map_of_mem (f := Prod.fst) isTail
        exact absurd isPath other
    case failed =>
      simp only [forall_mem_map, manifestCluster, map_map, comp_def]
      intro input isInput failed
      rw [kinds input isInput]
      simp [fileKinds, failed]
    case unpassed =>
      simp only [forall_mem_map, manifestCluster, map_map, comp_def]
      intro input isInput unpassed
      rw [kinds input isInput]
      simp only [fileKinds, unpassed, false_and, if_false]
      split_ifs <;> simp

end Package

def plainWriters : Writers Unit JsString where
  toLowerCase := map fun unit => if 0x41 ≤ unit ∧ unit ≤ 0x5a then unit + 0x20 else unit
  diagnosticsHtml input := input.cluster.clusterId
  renderVocabularyProjections cluster _ := .ok fun _ => cluster.clusterId
  practiceGift cluster _ := cluster.clusterId
  practiceH5P cluster _ := .ok cluster.clusterId
  manifestJson _ := []
  renderIndex _ := []

def failedCluster (clusterId : JsString) : ClusterInput Unit :=
  ⟨⟨clusterId, [], [], .failed, []⟩, none, none, none⟩

/-- Two words have folders of their own. -/
theorem holdsOwnFiles_words : ∃ package,
    buildVocabularyBatchPackage plainWriters [.html]
      [failedCluster (ascii "One"), failedCluster (ascii "Two")] = .ok package ∧
    HoldsOwnFiles plainWriters [.html] [failedCluster (ascii "One"), failedCluster (ascii "Two")]
      package := by
  refine ⟨_, rfl, (holdsOwnFiles_iff rfl).mpr ?_⟩
  refine pairwise_pair.mpr fun same => ?_
  exact absurd same (by decide)

/-- The letters đ and ư have one folder. -/
theorem letters_share_folder : ¬ ∀ (writers : Writers Unit JsString) formats inputs package,
    (inputs.map fun input => input.cluster.clusterId).Nodup →
    buildVocabularyBatchPackage writers formats inputs = .ok package →
    HoldsOwnFiles writers formats inputs package := by
  intro all
  have holds := all plainWriters [.html] [failedCluster [0x111], failedCluster [0x1b0]] _
    (by decide) rfl
  exact absurd holds.once (by decide)

end OhMyClass.VocabularyPackage
