import Rollout.Proofs.Definition.Framing
import Rollout.Proofs.FileTree.Writing
import Rollout.Run

namespace Rollout

namespace FileNode

variable {node : FileNode} {path : List String} {bytes : List UInt8}

mutual
-- Every name stands for one entry of its directory.
def Distinct : FileNode → Prop
  | .dir entries => (Declared.names entries).Nodup ∧ DistinctEntries entries
  | _ => True
def DistinctEntries : List (String × FileNode) → Prop
  | [] => True
  | (_, node) :: rest => Distinct node ∧ DistinctEntries rest
end

theorem mem_filesOf {entries : List (String × FileNode)} {f : List String × List UInt8} :
    f ∈ filesOf entries ↔
      ∃ name child path, (name, child) ∈ entries ∧ (path, f.2) ∈ child.files ∧
        f.1 = name :: path := by
  obtain ⟨place, bytes⟩ := f
  induction entries with
  | nil => simp [filesOf]
  | cons entry rest ih =>
    obtain ⟨name, child⟩ := entry
    rw [filesOf, List.mem_append, ih, List.mem_map]
    constructor
    · rintro (⟨⟨path, content⟩, member, same⟩ | ⟨name', child', path, inRest, member, same⟩)
      · obtain ⟨rfl, rfl⟩ := Prod.mk.inj same
        exact ⟨name, child, path, List.mem_cons_self, member, rfl⟩
      · exact ⟨name', child', path, List.mem_cons_of_mem _ inRest, member, same⟩
    · rintro ⟨name', child', path, inEntries, member, same⟩
      rcases List.mem_cons.mp inEntries with first | inRest
      · obtain ⟨rfl, rfl⟩ := Prod.mk.inj first
        exact .inl ⟨(path, bytes), member, Prod.ext same.symm rfl⟩
      · exact .inr ⟨name', child', path, inRest, member, same⟩

theorem mem_files_of_get? (there : node.get? path = some (.file bytes)) :
    (path, bytes) ∈ node.files := by
  induction path generalizing node with
  | nil =>
    obtain rfl := Option.some.inj there
    exact List.mem_singleton_self _
  | cons name rest ih =>
    cases node with
    | file content => cases there
    | link target => cases there
    | dir entries =>
      rw [get?] at there
      obtain ⟨child, found, below⟩ := Option.bind_eq_some_iff.mp there
      obtain ⟨before, after, rfl, -⟩ := List.lookup_eq_some_iff.mp found
      rw [files]
      exact mem_filesOf.mpr ⟨name, child, rest, by simp, ih below, rfl⟩

theorem DistinctEntries.child {entries : List (String × FileNode)} {name : String}
    (distinct : DistinctEntries entries) (member : (name, node) ∈ entries) : node.Distinct := by
  induction entries with
  | nil => cases member
  | cons entry rest ih =>
    rw [DistinctEntries] at distinct
    rcases List.mem_cons.mp member with rfl | later
    · exact distinct.1
    · exact ih distinct.2 later

theorem get?_of_mem_files (distinct : node.Distinct) (member : (path, bytes) ∈ node.files) :
    node.get? path = some (.file bytes) := by
  induction path generalizing node with
  | nil =>
    cases node with
    | file content =>
      obtain ⟨-, rfl⟩ := Prod.mk.inj (List.mem_singleton.mp member)
      rfl
    | link target => cases member
    | dir entries => exact absurd rfl (filesOf_path member)
  | cons name rest ih =>
    cases node with
    | file content => cases (Prod.mk.inj (List.mem_singleton.mp member)).1
    | link target => cases member
    | dir entries =>
      obtain ⟨first, child, path, inEntries, below, same⟩ := mem_filesOf.mp member
      obtain ⟨rfl, rfl⟩ := List.cons.inj same
      rw [Distinct] at distinct
      rw [get?, Declared.lookup_of_mem distinct.1 inEntries]
      exact ih (distinct.2.child inEntries) below

end FileNode

namespace Fingerprint

open FileNode

variable {s t : FileNode} {path : List String} {bytes : List UInt8}

theorem mem_walk {f : List String × List UInt8} :
    f ∈ walk s ↔ f ∈ s.files ∧ seen f.1 = true := by
  rw [(walk_perm s).mem_iff, List.mem_filter]

-- A file outside the skipped directories is the same in two contexts that walk alike.
theorem get?_of_walk (distinct : t.Distinct) (same : walk s = walk t) (sent : seen path = true)
    (there : s.get? path = some (.file bytes)) : t.get? path = some (.file bytes) := by
  have walked : (path, bytes) ∈ walk s := mem_walk.mpr ⟨mem_files_of_get? there, sent⟩
  rw [same] at walked
  exact get?_of_mem_files distinct (mem_walk.mp walked).1

end Fingerprint

namespace BuildContext

open FileTree FileNode

variable {tree : FileTree} {context : BuildContext} {path : List String} {node : FileNode}
  {bytes : List UInt8}

-- The Dockerfile is in the context as the paths are written, and where a walk comes to it.
structure Holds (context : BuildContext) (path : List String) : Prop where
  base : Path.isAbsolute context.dockerfile = Path.isAbsolute context.dir
  below : Path.steps (Path.pieces context.dockerfile) =
    Path.steps (Path.pieces context.dir) ++ path
  downward : ".." ∉ path
  ends : (Path.pieces context.dockerfile).getLast? = path.getLast?
  sent : Fingerprint.seen path = true

-- The Dockerfile's path leads below the place of the context.
def Lies (tree : FileTree) (context : BuildContext) (path : List String) : Prop :=
  ∃ names, tree.locate context.dir = .ok (.present names) ∧
    tree.locate context.dockerfile = .ok (.present (names ++ path))

theorem node_parts {dir : String} (there : tree.node dir = .ok node) :
    ∃ names, tree.locate dir = .ok (.present names) ∧ tree.root.get? names = some node := by
  unfold FileTree.node at there
  split at there
  · next names located =>
    split at there
    · next found =>
      obtain rfl := Except.ok.inj there
      exact ⟨names, located, found⟩
    · cases there
  · cases there
  · cases there

theorem Lies.read_iff (lies : Lies tree context path) (there : tree.node context.dir = .ok node) :
    tree.read context.dockerfile = .ok bytes ↔ node.get? path = some (.file bytes) := by
  obtain ⟨names, dir, dockerfile⟩ := lies
  obtain ⟨names', dir', found⟩ := node_parts there
  rw [dir] at dir'
  obtain rfl := Place.present.inj (Except.ok.inj dir')
  rw [FileTree.read_iff]
  constructor
  · rintro ⟨place, located, file⟩
    rw [dockerfile] at located
    obtain rfl := Place.present.inj (Except.ok.inj located)
    rwa [get?_below found] at file
  · intro file
    refine ⟨names ++ path, dockerfile, ?_⟩
    rwa [get?_below found]

-- A file at its place in the context is where the Dockerfile's path leads.
theorem Holds.lies (holds : context.Holds path) (there : tree.node context.dir = .ok node)
    (file : node.get? path = some (.file bytes)) : Lies tree context path := by
  obtain ⟨names, located, found⟩ := node_parts there
  obtain ⟨some, origin, leads⟩ := locate_iff.mp located
  have below : path ≠ [] := by
    rintro rfl
    have none : Path.pieces context.dockerfile = [] := List.getLast?_eq_none_iff.mp holds.ends
    exact Text.splitChar_ne_nil _ _ (List.map_eq_nil_iff.mp none)
  rw [← get?_below found] at file
  have dir : tree.root.IsDir names := by
    obtain ⟨name, rest, rfl⟩ := List.exists_cons_of_ne_nil below
    exact get?_above file
  obtain ⟨fewer, rest, steps, ends, onward⟩ := leads.extend below dir holds.below
  have on : Leads tree.root fewer names rest (.present (names ++ path)) :=
    .descend file holds.downward steps (ends.trans holds.ends)
  have same : tree.origin context.dockerfile = tree.origin context.dir := by
    rw [FileTree.origin, FileTree.origin, holds.base]
  refine ⟨names, located, locate_iff.mpr ⟨?_, ?_, ?_⟩⟩
  · refine Bool.eq_false_iff.mpr fun empty => below ?_
    have nothing := holds.below
    rw [String.isEmpty_iff.mp empty] at nothing
    exact (List.append_eq_nil_iff.mp nothing.symm).2
  · rw [same]
    exact origin
  · rw [same]
    exact onward _ on

end BuildContext

namespace Run

open Fingerprint

-- Two states of a project whose contexts are walked alike have one Dockerfile, if it lies in the
-- context there; it does where the paths say so and the context has a file at that place.
theorem dockerfile_covered {host host' : Host} {options : RunOptions} {env : Environment}
    {s t : FileNode} (there : host.files.node (buildContext options env).dir = .ok s)
    (there' : host'.files.node (buildContext options env).dir = .ok t) (distinct : t.Distinct)
    (same : walk s = walk t) :
    (∀ path bytes, seen path = true → BuildContext.Lies host.files (buildContext options env) path →
      BuildContext.Lies host'.files (buildContext options env) path →
        host.files.read (buildContext options env).dockerfile = .ok bytes →
          host'.files.read (buildContext options env).dockerfile = .ok bytes) ∧
      ∀ path bytes, (buildContext options env).Holds path → s.get? path = some (.file bytes) →
        host.files.read (buildContext options env).dockerfile = .ok bytes ∧
          host'.files.read (buildContext options env).dockerfile = .ok bytes := by
  refine ⟨?_, ?_⟩
  · intro path bytes sent lies lies' read
    have file := (lies.read_iff there).mp read
    exact (lies'.read_iff there').mpr (get?_of_walk distinct same sent file)
  · intro path bytes holds file
    have file' := get?_of_walk distinct same holds.sent file
    exact ⟨((holds.lies there file).read_iff there).mpr file,
      ((holds.lies there' file').read_iff there').mpr file'⟩

def shelfEnvironment (dockerfile : String) : Environment :=
  ⟨"live", "shelf", ⟨⟨"docker.io", "shelf/web", none⟩, none, dockerfile, "app"⟩, ⟨none, [], []⟩⟩

def shelfHost (app : FileNode) (beside : List UInt8) : Host :=
  ⟨[], ⟨.dir [("app", app), ("Dockerfile", .file beside)], [], []⟩⟩

def shelfApp : FileNode := .dir [("Dockerfile", .file [70])]

def shelfNoted : FileNode :=
  .dir [("Dockerfile", .file [70]), ("tmp", .dir [("note", .file [33])])]

theorem walk_shelfNoted : walk shelfNoted = walk shelfApp := by
  simp only [shelfNoted, shelfApp, walk, walkEntries, sortByName, List.mergeSort_singleton]
  rw [List.mergeSort_of_pairwise (by decide)]
  rfl

theorem shelfApp_distinct : shelfApp.Distinct := by
  simp [shelfApp, FileNode.Distinct, FileNode.DistinctEntries, Declared.names]

theorem shelf_covered :
    (buildContext .default (shelfEnvironment "app/Dockerfile")).Holds ["Dockerfile"] ∧
      walk shelfNoted = walk shelfApp ∧
      (shelfHost shelfApp [1]).files.read
        (buildContext .default (shelfEnvironment "app/Dockerfile")).dockerfile = .ok [70] := by
  have holds : (buildContext .default (shelfEnvironment "app/Dockerfile")).Holds ["Dockerfile"] :=
    ⟨by decide, by decide, by decide, by decide, by decide⟩
  have there : (shelfHost shelfNoted [0]).files.node
      (buildContext .default (shelfEnvironment "app/Dockerfile")).dir = .ok shelfNoted := rfl
  have there' : (shelfHost shelfApp [1]).files.node
      (buildContext .default (shelfEnvironment "app/Dockerfile")).dir = .ok shelfApp := rfl
  have covered := dockerfile_covered there there' shelfApp_distinct walk_shelfNoted
  exact ⟨holds, walk_shelfNoted, (covered.2 ["Dockerfile"] [70] holds rfl).2⟩

-- A Dockerfile beside the context is free to change under one tag.
theorem dockerfile_beside_context :
    (shelfHost shelfApp [70]).files.node (buildContext .default (shelfEnvironment "Dockerfile")).dir =
        .ok shelfApp ∧
      (shelfHost shelfApp [71]).files.node
        (buildContext .default (shelfEnvironment "Dockerfile")).dir = .ok shelfApp ∧
      defaultTag (shelfHost shelfApp [70]) (shelfEnvironment "Dockerfile") "." =
        defaultTag (shelfHost shelfApp [71]) (shelfEnvironment "Dockerfile") "." ∧
      (shelfHost shelfApp [70]).files.read
        (buildContext .default (shelfEnvironment "Dockerfile")).dockerfile = .ok [70] ∧
      (shelfHost shelfApp [71]).files.read
        (buildContext .default (shelfEnvironment "Dockerfile")).dockerfile = .ok [71] := by
  have there : ∀ beside, (shelfHost shelfApp beside).files.node
      (buildContext .default (shelfEnvironment "Dockerfile")).dir = .ok shelfApp := fun _ => rfl
  have context : ∀ beside, ofContext (shelfHost shelfApp beside)
      (Path.join "." (shelfEnvironment "Dockerfile").docker.buildContext) =
        .ok (ofBytes (frame (walk shelfApp))) := fun beside => ofContext_node (there beside)
  refine ⟨there [70], there [71], ?_, rfl, rfl⟩
  unfold defaultTag
  rw [context [70], context [71]]

end Run

end Rollout
