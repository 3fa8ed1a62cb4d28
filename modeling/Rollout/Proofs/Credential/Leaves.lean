import Mathlib.Data.List.Basic
import Rollout.Credential.Store
import Rollout.Proofs.Credential.Tables
import Rollout.Proofs.Text.Splitting

namespace Rollout.SecretTable

variable {document value key : Yaml} {entries : List (Yaml × Yaml)} {place place' : List Nat}
  {names names' : List String} {name text text' : String} {i j : Nat}

-- Only through mappings, and only through keys that are scalars themselves.
inductive Leaf : Yaml → List Nat → List String → String → Prop where
  | here {entries : List (Yaml × Yaml)} {i : Nat} {key value : Yaml} {name text : String}
      (entry : entries[i]? = some (key, value)) (named : scalarText? key = some name)
      (scalar : scalarText? value = some text) : Leaf (.mapping entries) [i] [name] text
  | deeper {entries : List (Yaml × Yaml)} {i : Nat} {key value : Yaml} {name text : String}
      {place : List Nat} {names : List String} (entry : entries[i]? = some (key, value))
      (named : scalarText? key = some name) (leaf : Leaf value place names text) :
      Leaf (.mapping entries) (i :: place) (name :: names) text

theorem Leaf.unique (leaf : Leaf document place names text)
    (leaf' : Leaf document place names' text') : names = names' ∧ text = text' := by
  induction leaf generalizing names' with
  | here entry named scalar =>
    cases leaf' with
    | here entry' named' scalar' =>
      rw [entry] at entry'
      obtain ⟨rfl, rfl⟩ := Prod.mk.inj (Option.some.inj entry')
      rw [named] at named'
      rw [scalar] at scalar'
      exact ⟨by rw [Option.some.inj named'], Option.some.inj scalar'⟩
    | deeper _ _ empty => cases empty
  | deeper entry named leaf ih =>
    cases leaf' with
    | here => cases leaf
    | deeper entry' named' leaf' =>
      rw [entry] at entry'
      obtain ⟨rfl, rfl⟩ := Prod.mk.inj (Option.some.inj entry')
      rw [named] at named'
      obtain ⟨rfl, rfl⟩ := ih leaf'
      exact ⟨by rw [Option.some.inj named'], rfl⟩

def dotted (names : List String) : String := ".".intercalate names

theorem Leaf.no_scalar (leaf : Leaf value place names text) : scalarText? value = none := by
  cases leaf with
  | here => rfl
  | deeper => rfl

structure Spot where
  place : List Nat
  names : List String
  text : String

def Spot.under (i : Nat) (name : String) (s : Spot) : Spot := ⟨i :: s.place, name :: s.names, s.text⟩

mutual
def spots : Yaml → List Spot
  | .mapping entries => spotsFrom 0 entries
  | _ => []
def spotsFrom (i : Nat) : List (Yaml × Yaml) → List Spot
  | [] => []
  | (key, value) :: rest =>
    (match scalarText? key with
      | none => []
      | some name =>
        match scalarText? value with
        | some text => [⟨[i], [name], text⟩]
        | none => (spots value).map (Spot.under i name)) ++
      spotsFrom (i + 1) rest
end

mutual
theorem leaves_spots : ∀ (above : Option String) (document : Yaml), leaves above document =
    (spots document).map fun s => (dotted (above.toList ++ s.names), s.text)
  | above, .mapping entries => by
    unfold leaves spots
    exact leavesOf_spots above 0 entries
  | _, .null | _, .bool _ | _, .int _ | _, .float _ | _, .string _ | _, .sequence _
  | _, .tagged _ _ => by simp [leaves, spots]
theorem leavesOf_spots : ∀ (above : Option String) (i : Nat) (entries : List (Yaml × Yaml)),
    leavesOf above entries =
      (spotsFrom i entries).map fun s => (dotted (above.toList ++ s.names), s.text)
  | _, _, [] => by simp [leavesOf, spotsFrom]
  | above, i, (key, value) :: rest => by
    unfold leavesOf spotsFrom
    rw [List.map_append, ← leavesOf_spots above (i + 1) rest]
    congr 1
    cases scalarText? key with
    | none => rfl
    | some name =>
      cases scalarText? value with
      | some text => cases above <;> rfl
      | none =>
        have below := leaves_spots (some (joinKey above name)) value
        dsimp only
        rw [below, List.map_map]
        cases above <;> rfl
end

theorem mem_spotsFrom {s : Spot} : s ∈ spotsFrom i entries ↔
    ∃ j key value name, entries[j]? = some (key, value) ∧ scalarText? key = some name ∧
      ((∃ text, scalarText? value = some text ∧ s = ⟨[i + j], [name], text⟩) ∨
        scalarText? value = none ∧ ∃ inner ∈ spots value, s = inner.under (i + j) name) := by
  induction entries generalizing i with
  | nil => simp [spotsFrom]
  | cons entry rest ih =>
    obtain ⟨key, value⟩ := entry
    unfold spotsFrom
    rw [List.mem_append, ih]
    constructor
    · rintro (first | ⟨j, key', value', name, entry, named, found⟩)
      · refine ⟨0, key, value, ?_⟩
        cases named : scalarText? key with
        | none => simp [named] at first
        | some name =>
          cases scalar : scalarText? value with
          | none =>
            simp only [named, scalar] at first
            obtain ⟨inner, member, rfl⟩ := List.mem_map.mp first
            exact ⟨name, rfl, rfl, .inr ⟨rfl, inner, member, rfl⟩⟩
          | some text =>
            simp only [named, scalar] at first
            exact ⟨name, rfl, rfl, .inl ⟨text, rfl, List.mem_singleton.mp first⟩⟩
      · refine ⟨j + 1, key', value', name, entry, named, ?_⟩
        rwa [show i + (j + 1) = i + 1 + j by omega]
    · rintro ⟨j, key', value', name, entry, named, found⟩
      cases j with
      | zero =>
        obtain ⟨rfl, rfl⟩ := Prod.mk.inj (Option.some.inj entry)
        left
        rcases found with ⟨text, scalar, rfl⟩ | ⟨scalar, inner, member, rfl⟩
        · simp [named, scalar]
        · simp only [named, scalar]
          exact List.mem_map_of_mem member
      | succ j =>
        right
        refine ⟨j, key', value', name, entry, named, ?_⟩
        rwa [show i + 1 + j = i + (j + 1) by omega]

theorem leaf_of_spot : ∀ {place : List Nat} {document : Yaml} {names : List String} {text : String},
    ⟨place, names, text⟩ ∈ spots document → Leaf document place names text := by
  intro place
  induction place with
  | nil =>
    intro document names text member
    cases document with
    | mapping entries =>
      unfold spots at member
      obtain ⟨j, key, value, name, -, -, ⟨_, -, same⟩ | ⟨-, inner, -, same⟩⟩ :=
        mem_spotsFrom.mp member
      · cases same
      · cases same
    | _ => simp [spots] at member
  | cons i place ih =>
    intro document names text member
    cases document with
    | mapping entries =>
      unfold spots at member
      obtain ⟨j, key, value, name, entry, named, found⟩ := mem_spotsFrom.mp member
      rw [Nat.zero_add] at found
      rcases found with ⟨_, scalar, same⟩ | ⟨-, ⟨place', names', text'⟩, inside, same⟩
      · obtain ⟨placed, rfl, rfl⟩ := Spot.mk.inj same
        obtain ⟨rfl, rfl⟩ := List.cons.inj placed
        exact .here entry named scalar
      · obtain ⟨placed, rfl, rfl⟩ := Spot.mk.inj same
        obtain ⟨rfl, rfl⟩ := List.cons.inj placed
        exact .deeper entry named (ih inside)
    | _ => simp [spots] at member

theorem Leaf.spot (leaf : Leaf document place names text) : ⟨place, names, text⟩ ∈ spots document := by
  induction leaf with
  | @here entries i key value name text entry named scalar =>
    unfold spots
    refine mem_spotsFrom.mpr ⟨i, key, value, name, entry, named, .inl ⟨text, scalar, ?_⟩⟩
    rw [Nat.zero_add]
  | @deeper entries i key value name text place names entry named leaf ih =>
    unfold spots
    refine mem_spotsFrom.mpr ⟨i, key, value, name, entry, named, .inr ⟨leaf.no_scalar, _, ih, ?_⟩⟩
    rw [Nat.zero_add]
    rfl

theorem mem_spots {s : Spot} : s ∈ spots document ↔ Leaf document s.place s.names s.text :=
  ⟨leaf_of_spot, Leaf.spot⟩

theorem spotsFrom_place {s : Spot} (member : s ∈ spotsFrom i entries) :
    ∃ j rest, i ≤ j ∧ s.place = j :: rest := by
  obtain ⟨j, key, value, name, -, -, ⟨_, -, rfl⟩ | ⟨-, inner, -, rfl⟩⟩ := mem_spotsFrom.mp member
  · exact ⟨i + j, [], Nat.le_add_right i j, rfl⟩
  · exact ⟨i + j, inner.place, Nat.le_add_right i j, rfl⟩

theorem spotsFrom_cons (key value : Yaml) (rest : List (Yaml × Yaml)) :
    spotsFrom i ((key, value) :: rest) = spotsFrom i [(key, value)] ++ spotsFrom (i + 1) rest := by
  simp [spotsFrom]

theorem spotsFrom_head {s : Spot} (member : s ∈ spotsFrom i [(key, value)]) :
    ∃ rest, s.place = i :: rest := by
  obtain ⟨j, _, _, _, entry, -, ⟨_, -, rfl⟩ | ⟨-, inner, -, rfl⟩⟩ := mem_spotsFrom.mp member
  all_goals
    obtain rfl : j = 0 := by
      have inside := (List.getElem?_eq_some_iff.mp entry).1
      simpa using inside
    exact ⟨_, rfl⟩

mutual
theorem spots_ascending : ∀ document : Yaml,
    (spots document).Pairwise fun s s' => s.place < s'.place
  | .mapping entries => by
    unfold spots
    exact spotsFrom_ascending 0 entries
  | .null | .bool _ | .int _ | .float _ | .string _ | .sequence _ | .tagged _ _ => by simp [spots]
theorem spotsFrom_ascending : ∀ (i : Nat) (entries : List (Yaml × Yaml)),
    (spotsFrom i entries).Pairwise fun s s' => s.place < s'.place
  | _, [] => by simp [spotsFrom]
  | i, (key, value) :: rest => by
    have first : (spotsFrom i [(key, value)]).Pairwise fun s s' => s.place < s'.place := by
      unfold spotsFrom
      rw [spotsFrom, List.append_nil]
      cases scalarText? key with
      | none => exact .nil
      | some name =>
        cases scalarText? value with
        | some text => exact List.pairwise_singleton _ _
        | none =>
          refine List.pairwise_map.mpr ((spots_ascending value).imp ?_)
          intro s s' before
          exact List.Lex.cons before
    rw [spotsFrom_cons]
    refine List.pairwise_append.mpr ⟨first, spotsFrom_ascending (i + 1) rest, ?_⟩
    intro s here s' there
    obtain ⟨tail, head⟩ := spotsFrom_head here
    obtain ⟨j, tail', later, head'⟩ := spotsFrom_place there
    rw [head, head']
    exact List.Lex.rel later
end

-- What a search from the end finds in a list in order is the last of its key.
theorem lookup_last {α : Type} {before : α → α → Prop} [Std.Asymm before] {listed : List α}
    (ascending : listed.Pairwise before) {entry : α → String × String} {key text : String} :
    (listed.map entry).reverse.lookup key = some text ↔
      ∃ x ∈ listed, entry x = (key, text) ∧ ∀ y ∈ listed, (entry y).1 = key → y = x ∨ before y x := by
  rw [List.lookup_eq_some_iff]
  constructor
  · rintro ⟨later, earlier, split, others⟩
    rw [List.reverse_eq_iff, List.reverse_append, List.reverse_cons, List.append_assoc,
      List.singleton_append] at split
    obtain ⟨front, behind, rfl, -, split⟩ := List.map_eq_append_iff.mp split
    obtain ⟨x, back, rfl, here, rest⟩ := List.map_eq_cons_iff.mp split
    refine ⟨x, by simp, here, ?_⟩
    intro y member same
    rcases List.mem_append.mp member with inFront | inBack
    · exact .inr ((List.pairwise_append.mp ascending).2.2 y inFront x List.mem_cons_self)
    · rcases List.mem_cons.mp inBack with rfl | inBack
      · exact .inl rfl
      · have listed : entry y ∈ later := by
          rw [← List.mem_reverse, ← rest]
          exact List.mem_map_of_mem inBack
        have apart := others _ listed
        simp [same] at apart
  · rintro ⟨x, member, here, last⟩
    obtain ⟨front, back, rfl⟩ := List.append_of_mem member
    refine ⟨(back.map entry).reverse, (front.map entry).reverse, ?_, ?_⟩
    · simp [here]
    · intro p inside
      obtain ⟨y, inBack, rfl⟩ := List.mem_map.mp (List.mem_reverse.mp inside)
      have follows : before x y :=
        List.rel_of_pairwise_cons (List.pairwise_append.mp ascending).2.1 inBack
      refine bne_iff_ne.mpr fun same => ?_
      rcases last y (by simp [inBack]) same.symm with rfl | precedes
      · exact Std.Asymm.asymm _ _ follows follows
      · exact Std.Asymm.asymm _ _ follows precedes

theorem lookup_leaf : (ofYaml document).lookup name = some text ↔
    ∃ place names, Leaf document place names text ∧ dotted names = name ∧
      ∀ place' names' text', Leaf document place' names' text' → dotted names' = name →
        place' = place ∨ place' < place := by
  have : Std.Asymm fun s s' : Spot => s.place < s'.place := ⟨fun _ _ before => List.lt_asymm before⟩
  rw [lookup_ofYaml, leaves_spots, lookup_last (spots_ascending document)]
  constructor
  · rintro ⟨⟨place, names, text'⟩, member, here, last⟩
    obtain ⟨named, rfl⟩ := Prod.mk.inj here
    refine ⟨place, names, mem_spots.mp member, named, ?_⟩
    intro place' names' text'' leaf same
    exact (last _ leaf.spot same).imp (congrArg Spot.place) id
  · rintro ⟨place, names, leaf, rfl, last⟩
    refine ⟨⟨place, names, text⟩, leaf.spot, rfl, ?_⟩
    rintro ⟨place', names', text'⟩ member same
    have leaf' := mem_spots.mp member
    rcases last place' names' text' leaf' same with rfl | precedes
    · obtain ⟨rfl, rfl⟩ := leaf.unique leaf'
      exact .inl rfl
    · exact .inr precedes

theorem mem_keys_leaf : name ∈ keys (ofYaml document) ↔
    ∃ place names text, Leaf document place names text ∧ dotted names = name := by
  rw [mem_keys_ofYaml, leaves_spots]
  constructor
  · intro listed
    obtain ⟨entry, member, rfl⟩ := List.mem_map.mp listed
    obtain ⟨s, inSpots, rfl⟩ := List.mem_map.mp member
    exact ⟨s.place, s.names, s.text, mem_spots.mp inSpots, rfl⟩
  · rintro ⟨place, names, text, leaf, rfl⟩
    exact List.mem_map.mpr ⟨_, List.mem_map_of_mem leaf.spot, rfl⟩

def keyTexts (entries : List (Yaml × Yaml)) : List String :=
  entries.filterMap fun entry => scalarText? entry.1

-- What keys with texts lead to, the document itself included.
inductive Reaches : Yaml → Yaml → Prop where
  | refl {document : Yaml} : Reaches document document
  | step {entries : List (Yaml × Yaml)} {key value inner : Yaml} {name : String}
      (member : (key, value) ∈ entries) (named : scalarText? key = some name)
      (on : Reaches value inner) : Reaches (.mapping entries) inner

structure Clear (document : Yaml) : Prop where
  undotted : ∀ entries, Reaches document (.mapping entries) →
    ∀ name ∈ keyTexts entries, '.' ∉ name.toList
  distinct : ∀ entries, Reaches document (.mapping entries) → (keyTexts entries).Nodup

theorem Clear.inner (clear : Clear (.mapping entries)) (member : (key, value) ∈ entries)
    (named : scalarText? key = some name) : Clear value :=
  ⟨fun inner reached => clear.undotted inner (.step member named reached),
    fun inner reached => clear.distinct inner (.step member named reached)⟩

theorem mem_keyTexts (member : (key, value) ∈ entries) (named : scalarText? key = some name) :
    name ∈ keyTexts entries :=
  List.mem_filterMap.mpr ⟨_, member, named⟩

theorem Leaf.names_ne_nil (leaf : Leaf document place names text) : names ≠ [] := by
  cases leaf with
  | here => exact List.cons_ne_nil _ _
  | deeper => exact List.cons_ne_nil _ _

theorem Leaf.undotted (leaf : Leaf document place names text) (clear : Clear document) :
    ∀ name ∈ names, '.' ∉ name.toList := by
  induction leaf with
  | here entry named scalar =>
    have first := clear.undotted _ .refl _ (mem_keyTexts (List.mem_of_getElem? entry) named)
    simpa using first
  | deeper entry named leaf ih =>
    have member := List.mem_of_getElem? entry
    exact List.forall_mem_cons.mpr ⟨clear.undotted _ .refl _ (mem_keyTexts member named),
      ih (clear.inner member named)⟩

theorem entry_unique (distinct : (keyTexts entries).Nodup) {key' value' : Yaml}
    (entry : entries[i]? = some (key, value)) (named : scalarText? key = some name)
    (entry' : entries[j]? = some (key', value')) (named' : scalarText? key' = some name) : i = j := by
  have apart := List.pairwise_iff_getElem.mp (List.pairwise_filterMap.mp distinct)
  obtain ⟨inside, found⟩ := List.getElem?_eq_some_iff.mp entry
  obtain ⟨inside', found'⟩ := List.getElem?_eq_some_iff.mp entry'
  rcases Nat.lt_trichotomy i j with before | same | behind
  · exact absurd rfl (apart i j inside inside' before name (by rw [found, named]) name
      (by rw [found', named']))
  · exact same
  · exact absurd rfl (apart j i inside' inside behind name (by rw [found', named']) name
      (by rw [found, named]))

theorem Leaf.place_unique (leaf : Leaf document place names text) (clear : Clear document)
    (leaf' : Leaf document place' names text') : place = place' := by
  induction leaf generalizing place' with
  | here entry named scalar =>
    cases leaf' with
    | here entry' named' scalar' =>
      rw [entry_unique (clear.distinct _ .refl) entry named entry' named']
    | deeper _ _ leaf' => exact absurd rfl leaf'.names_ne_nil
  | deeper entry named leaf ih =>
    cases leaf' with
    | here => exact absurd rfl leaf.names_ne_nil
    | deeper entry' named' leaf' =>
      obtain rfl := entry_unique (clear.distinct _ .refl) entry named entry' named'
      rw [entry] at entry'
      obtain ⟨rfl, rfl⟩ := Prod.mk.inj (Option.some.inj entry')
      rw [ih (clear.inner (List.mem_of_getElem? entry) named) leaf']

theorem Leaf.apart (clear : Clear document) (leaf : Leaf document place names text)
    (leaf' : Leaf document place' names' text') (same : dotted names = dotted names') :
    place = place' := by
  have names_eq : names = names' := Text.intercalate_inj (leaf.undotted clear)
    (leaf'.undotted clear) leaf.names_ne_nil leaf'.names_ne_nil same
  subst names_eq
  exact leaf.place_unique clear leaf'

theorem Leaf.found (clear : Clear document) (leaf : Leaf document place names text) :
    (ofYaml document).lookup (dotted names) = some text :=
  lookup_leaf.mpr ⟨place, names, leaf, rfl,
    fun _ _ _ leaf' same => .inl (leaf.apart clear leaf' same.symm).symm⟩

-- The table of a document has the paths of its scalars, each with the last one's text; in a clear
-- document they are all different, so every scalar is resolved to its own text.
theorem table_leaves (document : Yaml) :
    (∀ name, name ∈ keys (ofYaml document) ↔
      ∃ place names text, Leaf document place names text ∧ dotted names = name) ∧
    (∀ name text, (ofYaml document).lookup name = some text ↔
      ∃ place names, Leaf document place names text ∧ dotted names = name ∧
        ∀ place' names' text', Leaf document place' names' text' → dotted names' = name →
          place' = place ∨ place' < place) ∧
    (Clear document →
      (∀ place place' names names' text text', Leaf document place names text →
        Leaf document place' names' text' → place ≠ place' → dotted names ≠ dotted names') ∧
      ∀ place names text, Leaf document place names text →
        ∀ (r : Resolver) host, r.table = some (ofYaml document) →
          (r.resolve host (dotted names)).1 = .ok ⟨text⟩) := by
  refine ⟨fun name => mem_keys_leaf, fun name text => lookup_leaf, fun clear => ⟨?_, ?_⟩⟩
  · intro place place' names names' text text' leaf leaf' different same
    exact different (leaf.apart clear leaf' same)
  · intro place names text leaf r host opened
    simp only [Resolver.resolve, Resolver.unlock, opened, Except.bind, Resolver.lookup,
      leaf.found clear]

def larderInner : List (Yaml × Yaml) :=
  [(.string "password", .string "s3cret"), (.int 1, .bool true)]

def larderEntries : List (Yaml × Yaml) :=
  [(.string "database", .mapping larderInner), (.null, .string "lost"),
    (.string "hosts", .sequence [.string "web"]), (.string "user", .string "acme")]

theorem Reaches.scalar (reached : Reaches value (.mapping entries)) :
    ∃ entries, value = .mapping entries := by
  cases reached with
  | refl => exact ⟨_, rfl⟩
  | step => exact ⟨_, rfl⟩

theorem larder_reaches (reached : Reaches (.mapping larderEntries) (.mapping entries)) :
    entries = larderEntries ∨ entries = larderInner := by
  cases reached with
  | refl => exact .inl rfl
  | step member named on =>
    obtain ⟨inner, rfl⟩ := on.scalar
    simp only [larderEntries, List.mem_cons, Prod.mk.injEq, List.not_mem_nil, or_false] at member
    rcases member with ⟨-, same⟩ | ⟨-, same⟩ | ⟨-, same⟩ | ⟨-, same⟩
    · obtain rfl := Yaml.mapping.inj same
      cases on with
      | refl => exact .inr rfl
      | step member named on =>
        obtain ⟨deepest, rfl⟩ := on.scalar
        simp [larderInner] at member
    all_goals cases same

theorem larder_clear : Clear (.mapping larderEntries) := by
  refine ⟨fun entries reached => ?_, fun entries reached => ?_⟩
  · rcases larder_reaches reached with rfl | rfl
    · decide +kernel
    · decide +kernel
  · rcases larder_reaches reached with rfl | rfl
    · decide +kernel
    · decide +kernel

theorem larder_leaves : dotted ["database", "password"] ≠ dotted ["user"] ∧
    ∀ (r : Resolver) host, r.table = some (ofYaml (.mapping larderEntries)) →
      (r.resolve host (dotted ["database", "password"])).1 = .ok ⟨"s3cret"⟩ := by
  have password : Leaf (.mapping larderEntries) [0, 0] ["database", "password"] "s3cret" :=
    .deeper rfl rfl (.here rfl rfl rfl)
  have user : Leaf (.mapping larderEntries) [3] ["user"] "acme" := .here rfl rfl rfl
  obtain ⟨apart, resolved⟩ := (table_leaves (.mapping larderEntries)).2.2 larder_clear
  exact ⟨apart _ _ _ _ _ _ password user (by decide), resolved _ _ _ password⟩

end Rollout.SecretTable
