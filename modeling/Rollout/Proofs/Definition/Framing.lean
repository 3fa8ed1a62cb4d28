import Mathlib.Data.List.Basic
import Rollout.Definition.Fingerprint
import Rollout.Proofs.Text.Encoding
import Rollout.Proofs.Text.Splitting

namespace Rollout

namespace Utf8

theorem ofNat_zero {n : Nat} (byte : n < 256) (zero : 0 = UInt8.ofNat n) : n = 0 := by
  have same := congrArg UInt8.toNat zero
  simpa [Nat.mod_eq_of_lt byte] using same.symm

theorem encodeChar_zero {c : Char} (zero : 0 ∈ String.utf8EncodeChar c) : c = '\x00' := by
  unfold String.utf8EncodeChar at zero
  dsimp only at zero
  split at zero
  · next short =>
    simp only [List.mem_cons, List.not_mem_nil, or_false] at zero
    have none := ofNat_zero (by omega) zero
    exact Char.ext (UInt32.toNat_inj.mp none)
  · exfalso
    split at zero
    · simp only [List.mem_cons, List.not_mem_nil, or_false] at zero
      rcases zero with zero | zero
      all_goals have none := ofNat_zero (by omega) zero; omega
    · split at zero
      · simp only [List.mem_cons, List.not_mem_nil, or_false] at zero
        rcases zero with zero | zero | zero
        all_goals have none := ofNat_zero (by omega) zero; omega
      · simp only [List.mem_cons, List.not_mem_nil, or_false] at zero
        rcases zero with zero | zero | zero | zero
        all_goals have none := ofNat_zero (by omega) zero; omega

theorem zero_notMem_encode {text : String} (clean : '\x00' ∉ text.toList) : 0 ∉ encode text := by
  intro zero
  obtain ⟨c, inText, zero⟩ := List.mem_flatMap.mp zero
  exact clean (encodeChar_zero zero ▸ inText)

end Utf8

structure IsFileName (name : String) : Prop where
  nonempty : name ≠ ""
  unslashed : '/' ∉ name.toList
  unended : '\x00' ∉ name.toList

instance (name : String) : Decidable (IsFileName name) :=
  decidable_of_iff (name ≠ "" ∧ '/' ∉ name.toList ∧ '\x00' ∉ name.toList)
    ⟨fun ⟨nonempty, unslashed, unended⟩ => ⟨nonempty, unslashed, unended⟩,
      fun named => ⟨named.nonempty, named.unslashed, named.unended⟩⟩

namespace Path

variable {path other : List String}

theorem intercalate_ne_empty (named : ∀ name ∈ path, IsFileName name) (some : path ≠ []) :
    "/".intercalate path ≠ "" := by
  intro empty
  have split := Text.splitOn_intercalate (fun name inPath => (named name inPath).unslashed) some
  rw [show (String.singleton '/').intercalate path = "" from empty] at split
  have one : path.map String.toList = [[]] := split.symm
  obtain ⟨name, rfl, blank⟩ := List.map_eq_singleton_iff.mp one
  exact (named name (by simp)).nonempty (String.toList_eq_nil_iff.mp blank)

theorem intercalate_inj (named : ∀ name ∈ path, IsFileName name)
    (named' : ∀ name ∈ other, IsFileName name)
    (same : "/".intercalate path = "/".intercalate other) : path = other := by
  by_cases none : path = []
  · by_cases none' : other = []
    · rw [none, none']
    · rw [none] at same
      exact absurd same.symm (intercalate_ne_empty named' none')
  · by_cases none' : other = []
    · rw [none'] at same
      exact absurd same (intercalate_ne_empty named none)
    · exact Text.intercalate_inj (fun name inPath => (named name inPath).unslashed)
        (fun name inPath => (named' name inPath).unslashed) none none' same

theorem nul_notMem_intercalate (named : ∀ name ∈ path, IsFileName name) :
    '\x00' ∉ ("/".intercalate path).toList := by
  rw [String.toList_intercalate]
  induction path with
  | nil => simp
  | cons name rest ih =>
    cases rest with
    | nil => simpa using (named name (by simp)).unended
    | cons next rest =>
      have later := ih fun name inRest => named name (List.mem_cons_of_mem _ inRest)
      simp only [List.map_cons] at later ⊢
      rw [List.intercalate_cons_cons]
      simp only [List.mem_append, not_or]
      exact ⟨⟨(named name (by simp)).unended, by decide⟩, later⟩

end Path

namespace FileNode

theorem filesOf_path {entries : List (String × FileNode)} {f : List String × List UInt8}
    (member : f ∈ filesOf entries) : f.1 ≠ [] := by
  induction entries with
  | nil => simp [filesOf] at member
  | cons entry rest ih =>
    unfold filesOf at member
    rcases List.mem_append.mp member with here | later
    · obtain ⟨below, -, rfl⟩ := List.mem_map.mp here
      exact List.cons_ne_nil _ _
    · exact ih later

end FileNode

namespace Fingerprint

open FileNode

-- No directory on the way to a file is skipped.
def seen (path : List String) : Bool :=
  path.dropLast.all fun name => !skippedDirs.contains name

theorem seen_cons (name : String) {path : List String} (some : path ≠ []) :
    seen (name :: path) = (!skippedDirs.contains name && seen path) := by
  simp [seen, List.dropLast_cons_of_ne_nil some]

theorem filter_seen_skipped {name : String} (skipped : skippedDirs.contains name = true)
    (entries : List (String × FileNode)) :
    ((filesOf entries).map fun f => (name :: f.1, f.2)).filter (fun f => seen f.1) = [] := by
  rw [List.filter_eq_nil_iff]
  intro f member
  obtain ⟨below, inEntries, rfl⟩ := List.mem_map.mp member
  rw [seen_cons name (filesOf_path inEntries), skipped]
  simp

theorem filter_seen_entered {name : String} (entered : skippedDirs.contains name = false)
    (entries : List (String × FileNode)) :
    ((filesOf entries).map fun f => (name :: f.1, f.2)).filter (fun f => seen f.1) =
      ((filesOf entries).filter fun f => seen f.1).map fun f => (name :: f.1, f.2) := by
  rw [List.filter_map]
  congr 1
  refine List.filter_congr fun f member => ?_
  rw [Function.comp_apply, seen_cons name (filesOf_path member), entered]
  rfl

mutual
-- A walk finds every file that is not in a skipped directory, in an order of its own.
theorem walk_perm : ∀ node : FileNode, (walk node).Perm (node.files.filter fun f => seen f.1)
  | .file bytes => by simp [walk, files, seen]
  | .link _ => by simp [walk, files]
  | .dir entries => by
    unfold walk files
    exact ((List.mergeSort_perm _ _).flatMap_right _).trans (walkEntries_perm entries)
theorem walkEntries_perm : ∀ entries : List (String × FileNode),
    ((walkEntries entries).flatMap fun found => found.2.map fun f => (found.1 :: f.1, f.2)).Perm
      ((filesOf entries).filter fun f => seen f.1)
  | [] => by simp [walkEntries, filesOf]
  | (name, .dir entries) :: rest => by
    unfold walkEntries filesOf
    rw [List.flatMap_cons, List.filter_append]
    refine List.Perm.append ?_ (walkEntries_perm rest)
    cases skips : skippedDirs.contains name with
    | true =>
      have none := filter_seen_skipped skips entries
      simp only [files]
      rw [none]
      simp
    | false =>
      have some := filter_seen_entered skips entries
      simp only [files]
      rw [some]
      simpa [files] using (walk_perm (.dir entries)).map fun f => (name :: f.1, f.2)
  | (name, .file bytes) :: rest => by
    unfold walkEntries filesOf
    rw [List.flatMap_cons, List.filter_append]
    exact List.Perm.append (by simp [walk, files, seen]) (walkEntries_perm rest)
  | (name, .link _) :: rest => by
    unfold walkEntries filesOf
    rw [List.flatMap_cons, List.filter_append]
    exact List.Perm.append (by simp [walk, files]) (walkEntries_perm rest)
end

-- What a stream can be taken apart to: every field is free of the byte that ends it.
def Framed (files : List (List String × List UInt8)) : Prop :=
  ∀ f ∈ files, (∀ name ∈ f.1, IsFileName name) ∧ 0 ∉ f.2

theorem frame_cons (path : List String) (bytes : List UInt8)
    (files : List (List String × List UInt8)) :
    frame ((path, bytes) :: files) =
      Utf8.encode ("/".intercalate path) ++ 0 :: (bytes ++ 0 :: frame files) := by
  simp [frame]

theorem frame_cons_ne_nil (f : List String × List UInt8)
    (files : List (List String × List UInt8)) : frame (f :: files) ≠ [] := by
  rw [frame_cons f.1 f.2]
  simp

theorem field_inj : ∀ {field other rest rest' : List UInt8}, 0 ∉ field → 0 ∉ other →
    field ++ 0 :: rest = other ++ 0 :: rest' → field = other ∧ rest = rest'
  | [], [], _, _, _, _, same => ⟨rfl, (List.cons.inj same).2⟩
  | [], b :: _, _, _, _, ended, same =>
    absurd (List.cons.inj same).1 fun zero => ended (zero ▸ List.mem_cons_self)
  | b :: _, [], _, _, ended, _, same =>
    absurd (List.cons.inj same).1 fun zero => ended (zero ▸ List.mem_cons_self)
  | b :: field, b' :: other, _, _, ended, ended', same => by
    obtain ⟨first, same⟩ := List.cons.inj same
    obtain ⟨fields, rests⟩ := field_inj (fun zero => ended (List.mem_cons_of_mem _ zero))
      (fun zero => ended' (List.mem_cons_of_mem _ zero)) same
    exact ⟨by rw [first, fields], rests⟩

theorem frame_inj {found : List (List String × List UInt8)} (framed : Framed found) :
    ∀ {other}, Framed other → frame found = frame other → found = other := by
  induction found with
  | nil =>
    intro other _ same
    cases other with
    | nil => rfl
    | cons f rest => exact absurd same.symm (frame_cons_ne_nil f rest)
  | cons f rest ih =>
    intro other framed' same
    cases other with
    | nil => exact absurd same (frame_cons_ne_nil f rest)
    | cons f' rest' =>
      obtain ⟨path, bytes⟩ := f
      obtain ⟨path', bytes'⟩ := f'
      obtain ⟨names, content⟩ := framed (path, bytes) (by simp)
      obtain ⟨names', content'⟩ := framed' (path', bytes') (by simp)
      have ended := Utf8.zero_notMem_encode (Path.nul_notMem_intercalate names)
      have ended' := Utf8.zero_notMem_encode (Path.nul_notMem_intercalate names')
      rw [frame_cons, frame_cons] at same
      obtain ⟨samePath, same⟩ := field_inj ended ended' same
      obtain ⟨sameBytes, same⟩ := field_inj content content' same
      have later := ih (fun f inRest => framed f (List.mem_cons_of_mem _ inRest))
        (fun f inRest => framed' f (List.mem_cons_of_mem _ inRest)) same
      have samePath : path = path' :=
        Path.intercalate_inj names names' (Utf8.encode_inj samePath)
      have sameBytes : bytes = bytes' := sameBytes
      rw [samePath, sameBytes, later]

-- A build context: files with names, and none in a skipped directory.
structure Context (node : FileNode) : Prop where
  named : ∀ f ∈ node.files, ∀ name ∈ f.1, IsFileName name
  sent : ∀ f ∈ node.files, seen f.1

-- No file of a context holds the byte that ends the fields of the stream.
def Unended (node : FileNode) : Prop := ∀ f ∈ node.files, 0 ∉ f.2

theorem Context.walk_files {node : FileNode} (context : Context node) :
    (walk node).Perm node.files := by
  have found := walk_perm node
  rwa [List.filter_eq_self.mpr fun f member => context.sent f member] at found

theorem Context.framed {node : FileNode} (context : Context node) (unended : Unended node) :
    Framed (walk node) := fun f found =>
  have member := context.walk_files.mem_iff.mp found
  ⟨context.named f member, unended f member⟩

theorem ofContext_node {host : Host} {dir : String} {node : FileNode}
    (there : host.files.node dir = .ok node) :
    ofContext host dir = .ok (ofBytes (frame (walk node))) := by
  simp [ofContext, there]

-- Two contexts with the same stream have the same files, and two with the same fingerprint have them
-- unless the digest collides, as long as no file holds a zero byte. Names are texts here: where a file
-- system has one that is none, the stream gets replacement characters, which two names may share.
theorem context_recovered {host host' : Host} {dir dir' : String} {s t : FileNode}
    (there : host.files.node dir = .ok s) (there' : host'.files.node dir' = .ok t)
    (context : Context s) (context' : Context t) (unended : Unended s) (unended' : Unended t) :
    (frame (walk s) = frame (walk t) → s.files.Perm t.files) ∧
      (ofContext host dir = ofContext host' dir' → s.files.Perm t.files ∨
        frame (walk s) ≠ frame (walk t) ∧ ofBytes (frame (walk s)) = ofBytes (frame (walk t))) := by
  have recovered : frame (walk s) = frame (walk t) → s.files.Perm t.files := by
    intro same
    have walks := frame_inj (context.framed unended) (context'.framed unended') same
    exact context.walk_files.symm.trans (walks ▸ context'.walk_files)
  refine ⟨recovered, fun same => ?_⟩
  rw [ofContext_node there, ofContext_node there'] at same
  by_cases streams : frame (walk s) = frame (walk t)
  · exact .inl (recovered streams)
  · exact .inr ⟨streams, Except.ok.inj same⟩

def apartContext : FileNode := .dir [("boot", .file [114, 98]), ("data", .file [120])]

def relistedContext : FileNode := .dir [("data", .file [120]), ("boot", .file [114, 98])]

theorem walk_apartContext : walk apartContext = [(["boot"], [114, 98]), (["data"], [120])] := by
  simp only [apartContext, walk, walkEntries, sortByName]
  rw [List.mergeSort_of_pairwise (by decide)]
  rfl

theorem walk_relistedContext : walk relistedContext = walk apartContext := by
  rw [walk_apartContext]
  simp only [relistedContext, walk, walkEntries, sortByName]
  -- Two entries are sorted by one comparison of their names.
  rw [List.mergeSort]
  change List.flatMap _ (List.merge (List.mergeSort [_] _) (List.mergeSort [_] _) _) = _
  rw [List.mergeSort_singleton, List.mergeSort_singleton, List.cons_merge_cons,
    if_neg (by decide), List.merge_right]
  rfl

theorem apartContext_legal : Context apartContext :=
  ⟨by decide +kernel, by decide +kernel⟩

theorem relistedContext_legal : Context relistedContext :=
  ⟨by decide +kernel, by decide +kernel⟩

theorem relisted_recovered :
    frame (walk apartContext) = frame (walk relistedContext) ∧
      apartContext.files.Perm relistedContext.files := by
  have same : frame (walk apartContext) = frame (walk relistedContext) := by
    rw [walk_relistedContext]
  have unended : Unended apartContext := by unfold Unended; decide +kernel
  have unended' : Unended relistedContext := by unfold Unended; decide +kernel
  have there : (⟨[], ⟨apartContext, [], []⟩⟩ : Host).files.node "/" = .ok apartContext := rfl
  have there' : (⟨[], ⟨relistedContext, [], []⟩⟩ : Host).files.node "/" = .ok relistedContext := rfl
  have recovered := context_recovered there there' apartContext_legal relistedContext_legal unended
    unended'
  exact ⟨same, recovered.1 same⟩

-- Where contents are free, a file is as good as a part of the one before it.
theorem frame_joined (before after : List (List String × List UInt8)) (path next : List String)
    (bytes more : List UInt8) :
    frame (before ++
        (path, bytes ++ 0 :: (Utf8.encode ("/".intercalate next) ++ 0 :: more)) :: after) =
      frame (before ++ (path, bytes) :: (next, more) :: after) := by
  simp [frame]

def joinedContext : FileNode :=
  .dir [("boot", .file ([114, 98, 0] ++ Utf8.encode "data" ++ [0, 120]))]

theorem walk_joinedContext :
    walk joinedContext = [(["boot"], [114, 98] ++ 0 :: (Utf8.encode "data" ++ [0, 120]))] := by
  simp only [joinedContext, walk, walkEntries, sortByName, List.mergeSort_singleton]
  rfl

theorem joined_context_same_stream :
    Context apartContext ∧ Context joinedContext ∧
      frame (walk apartContext) = frame (walk joinedContext) ∧
      ¬ apartContext.files.Perm joinedContext.files := by
  refine ⟨apartContext_legal, ⟨by decide +kernel, by decide +kernel⟩, ?_, by decide +kernel⟩
  rw [walk_apartContext, walk_joinedContext]
  exact (frame_joined [] [] ["boot"] ["data"] [114, 98] [120]).symm

end Fingerprint

end Rollout
