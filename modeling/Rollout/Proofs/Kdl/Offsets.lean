import Rollout.Proofs.Kdl.Remainders

namespace Rollout.Kdl

variable {size : Nat} {cs rest : List Char} {node : Node} {nodes : List Node}

def bytes : List Char → Nat
  | [] => 0
  | c :: cs => c.utf8Size + bytes cs

@[simp] theorem bytes_nil : bytes [] = 0 := rfl

@[simp] theorem bytes_cons (c : Char) (cs : List Char) :
    bytes (c :: cs) = c.utf8Size + bytes cs := rfl

@[simp] theorem bytes_append (cs ds : List Char) : bytes (cs ++ ds) = bytes cs + bytes ds := by
  induction cs with
  | nil => simp
  | cons c cs ih => rw [List.cons_append, bytes_cons, bytes_cons, ih, Nat.add_assoc]

theorem foldl_bytes (cs : List Char) (n : Nat) :
    cs.foldl (fun n c => n + c.utf8Size) n = n + bytes cs := by
  induction cs generalizing n with
  | nil => simp
  | cons c cs ih => rw [List.foldl_cons, ih, bytes_cons, Nat.add_assoc]

theorem bytes_suffix (behind : rest <:+ cs) : bytes rest ≤ bytes cs := by
  obtain ⟨front, rfl⟩ := behind
  simp

theorem Behind.bytes (behind : Behind rest cs) : bytes rest < bytes cs := by
  obtain ⟨⟨front, rfl⟩, shorter⟩ := behind
  cases front with
  | nil => exact absurd shorter (Nat.lt_irrefl _)
  | cons c front =>
    have := c.utf8Size_pos
    simp only [List.cons_append, bytes_cons, bytes_append]
    omega

mutual
def Node.all : Node → List Node
  | ⟨offset, name, entries, some nodes⟩ => ⟨offset, name, entries, some nodes⟩ :: allOf nodes
  | ⟨offset, name, entries, none⟩ => [⟨offset, name, entries, none⟩]
def allOf : List Node → List Node
  | [] => []
  | node :: nodes => node.all ++ allOf nodes
end

theorem Node.all_eq (node : Node) : node.all = node :: allOf node.nodes := by
  obtain ⟨offset, name, entries, children⟩ := node
  cases children <;> simp [Node.all, Node.nodes, allOf]

theorem all_subset (member : node ∈ nodes) : node.all ⊆ allOf nodes := by
  induction nodes with
  | nil => cases member
  | cons first others ih =>
    rw [allOf]
    rcases List.mem_cons.mp member with rfl | later
    · exact List.subset_append_left _ _
    · exact List.Subset.trans (ih later) (List.subset_append_right _ _)

-- What is left of the text `cs` at each start, one behind the other, and in the end.
inductive Spread : List Char → List (List Char) → List Char → Prop where
  | done {cs rest : List Char} (gap : rest <:+ cs) : Spread cs [] rest
  | next {cs here behind rest : List Char} {starts : List (List Char)} (gap : here <:+ cs)
      (past : Behind behind here) (more : Spread behind starts rest) :
      Spread cs (here :: starts) rest

namespace Spread

variable {starts later : List (List Char)} {middle earlier : List Char}

theorem before (spread : Spread cs starts rest) (less : cs <:+ earlier) :
    Spread earlier starts rest := by
  cases spread with
  | done gap => exact .done (gap.trans less)
  | next gap past more => exact .next (gap.trans less) past more

theorem append (first : Spread cs starts middle) (second : Spread middle later rest) :
    Spread cs (starts ++ later) rest := by
  induction first with
  | done gap => exact second.before gap
  | next gap past more ih => exact .next gap past (ih second)

theorem suffix (spread : Spread cs starts rest) : rest <:+ cs := by
  induction spread with
  | done gap => exact gap
  | next gap past more ih => exact (ih.trans past.suffix).trans gap

theorem starts_suffix (spread : Spread cs starts rest) : ∀ here ∈ starts, here <:+ cs := by
  induction spread with
  | done gap => exact fun _ member => nomatch member
  | next gap past more ih =>
    intro here member
    rcases List.mem_cons.mp member with rfl | later
    · exact gap
    · exact ((ih here later).trans past.suffix).trans gap

theorem pairwise (spread : Spread cs starts rest) :
    starts.Pairwise fun here later => Behind later here := by
  induction spread with
  | done gap => exact .nil
  | next gap past more ih =>
    exact .cons (fun later member => past.after (more.starts_suffix later member)) ih

end Spread

-- The nodes begin at places between those where the text goes on with `cs` and with `rest`.
def Spans (size : Nat) (cs : List Char) (nodes : List Node) (rest : List Char) : Prop :=
  ∃ starts, Spread cs starts rest ∧
    nodes.map Node.offset = starts.map fun here => size - bytes here

namespace Spans

variable {middle earlier : List Char} {later : List Node}

theorem nil (gap : rest <:+ cs) : Spans size cs [] rest := ⟨[], .done gap, rfl⟩

theorem before (spans : Spans size cs nodes rest) (less : cs <:+ earlier) :
    Spans size earlier nodes rest := by
  obtain ⟨starts, spread, same⟩ := spans
  exact ⟨starts, spread.before less, same⟩

theorem append (first : Spans size cs nodes middle) (second : Spans size middle later rest) :
    Spans size cs (nodes ++ later) rest := by
  obtain ⟨starts, spread, same⟩ := first
  obtain ⟨others, spreads, sames⟩ := second
  refine ⟨starts ++ others, spread.append spreads, ?_⟩
  rw [List.map_append, List.map_append, same, sames]

theorem after (spans : Spans size cs nodes middle) (more : rest <:+ middle) :
    Spans size cs nodes rest := by
  simpa using spans.append (.nil more)

theorem suffix (spans : Spans size cs nodes rest) : rest <:+ cs := by
  obtain ⟨_, spread, -⟩ := spans
  exact spread.suffix

theorem cons {behind : List Char} (offset : node.offset = size - bytes cs)
    (past : Behind behind cs) (spans : Spans size behind nodes rest) :
    Spans size cs (node :: nodes) rest := by
  obtain ⟨starts, spread, same⟩ := spans
  refine ⟨cs :: starts, .next List.suffix_rfl past spread, ?_⟩
  rw [List.map_cons, List.map_cons, offset, same]

end Spans

-- By the recursion of the readers. What is commented out has no nodes, and only widens the gap up to
-- the next start.
mutual
theorem nodes?_spans : ∀ (fuel : Nat) {cs rest : List Char} {nodes : List Node},
    nodes? size fuel cs = some (nodes, rest) → Spans size cs (allOf nodes) rest
  | 0, _, _, _, read => by cases read
  | fuel + 1, cs, rest, nodes, read => by
    unfold nodes? at read
    obtain ⟨start, skipped, read⟩ := Option.bind_eq_some_iff.mp read
    have gap := skipGap_suffix skipped
    dsimp only at read
    split at read
    · obtain ⟨rfl, rfl⟩ := Prod.mk.inj (Option.some.inj read)
      exact .nil gap
    · split at read
      · obtain ⟨rfl, rfl⟩ := Prod.mk.inj (Option.some.inj read)
        exact .nil gap
      · split at read
        · rename_i dropped commented
          obtain ⟨⟨node, behind⟩, told, read⟩ := Option.bind_eq_some_iff.mp read
          have skipped := (node?_spans fuel told).suffix.trans (slashdash?_suffix commented)
          exact (nodes?_spans fuel read).before (skipped.trans gap)
        · obtain ⟨⟨node, behind⟩, told, read⟩ := Option.bind_eq_some_iff.mp read
          have first := (node?_spans fuel told).before gap
          dsimp only at read
          split at read
          · split at read
            · obtain ⟨rfl, rfl⟩ := Prod.mk.inj (Option.some.inj read)
              simpa [allOf] using first
            · obtain ⟨ended, stop, read⟩ := Option.bind_eq_some_iff.mp read
              obtain ⟨⟨others, later⟩, more, read⟩ := Option.bind_eq_some_iff.mp read
              obtain ⟨rfl, rfl⟩ := Prod.mk.inj (Option.some.inj read)
              rw [allOf]
              exact first.append ((nodes?_spans fuel more).before (terminator?_suffix stop))
          · obtain ⟨rfl, rfl⟩ := Prod.mk.inj (Option.some.inj read)
            simpa [allOf] using first
theorem node?_spans : ∀ (fuel : Nat) {cs rest : List Char} {node : Node},
    node? size fuel cs = some (node, rest) → Spans size cs node.all rest
  | 0, _, _, _, read => by cases read
  | fuel + 1, cs, rest, node, read => by
    unfold node? at read
    obtain ⟨⟨type, typed⟩, first, read⟩ := Option.bind_eq_some_iff.mp read
    obtain ⟨⟨name, named⟩, second, read⟩ := Option.bind_eq_some_iff.mp read
    obtain ⟨⟨entries, listed⟩, third, read⟩ := Option.bind_eq_some_iff.mp read
    obtain ⟨⟨children, behind⟩, last, read⟩ := Option.bind_eq_some_iff.mp read
    obtain ⟨rfl, rfl⟩ := Prod.mk.inj (Option.some.inj read)
    have past := ((name?_behind second).before (type?_suffix first)).after (entries?_suffix third)
    obtain ⟨new, same, spans⟩ := blocks?_spans fuel last
    rw [Node.all_eq]
    refine .cons (by simp [foldl_bytes]) past ?_
    have inner : allOf (Node.nodes ⟨size - cs.foldl (fun n c => n + c.utf8Size) 0, name, entries,
        children⟩) = new := same
    rw [inner]
    exact spans
-- The blocks of a node, of which one counts: what is new is what was read here.
theorem blocks?_spans : ∀ (fuel : Nat) {cs rest : List Char} {found children : Option (List Node)},
    blocks? size fuel found cs = some (children, rest) →
      ∃ new, allOf (children.getD []) = allOf (found.getD []) ++ new ∧ Spans size cs new rest
  | 0, _, _, _, _, read => by cases read
  | fuel + 1, cs, rest, found, children, read => by
    unfold blocks? at read
    obtain ⟨start, skipped, read⟩ := Option.bind_eq_some_iff.mp read
    have gap := skipGap_suffix skipped
    dsimp only at read
    split at read
    · rename_i c behind commented
      split at read
      · obtain ⟨⟨dropped, closed⟩, told, read⟩ := Option.bind_eq_some_iff.mp read
        obtain ⟨new, same, spans⟩ := blocks?_spans fuel read
        have opened := (List.suffix_cons c behind).trans (slashdash?_suffix commented)
        exact ⟨new, same, spans.before (((block?_spans fuel told).suffix.trans opened).trans gap)⟩
      · cases read
    · cases read
    · split at read
      · rename_i c behind start
        split at read
        · split at read
          · cases read
          · obtain ⟨⟨nodes, closed⟩, told, read⟩ := Option.bind_eq_some_iff.mp read
            obtain ⟨new, same, spans⟩ := blocks?_spans fuel read
            have block := (block?_spans fuel told).before ((List.suffix_cons c behind).trans gap)
            exact ⟨allOf nodes ++ new, by simpa [allOf] using same, block.append spans⟩
        · obtain ⟨rfl, rfl⟩ := Prod.mk.inj (Option.some.inj read)
          exact ⟨[], by simp, .nil gap⟩
      · obtain ⟨rfl, rfl⟩ := Prod.mk.inj (Option.some.inj read)
        exact ⟨[], by simp, .nil gap⟩
theorem block?_spans : ∀ (fuel : Nat) {cs rest : List Char} {nodes : List Node},
    block? size fuel cs = some (nodes, rest) → Spans size cs (allOf nodes) rest
  | 0, _, _, _, read => by cases read
  | fuel + 1, cs, rest, nodes, read => by
    unfold block? at read
    obtain ⟨⟨nodes, behind⟩, told, read⟩ := Option.bind_eq_some_iff.mp read
    dsimp only at read
    split at read
    · split at read
      · obtain ⟨rfl, rfl⟩ := Prod.mk.inj (Option.some.inj read)
        exact (nodes?_spans fuel told).after (List.suffix_cons _ _)
      · cases read
    · cases read
end

-- A byte order mark in front of a document counts for the offsets behind it.
theorem parse?_spans {text : String} (parsed : parse? text = some nodes) :
    Spans (bytes text.toList) text.toList (allOf nodes) [] := by
  unfold parse? at parsed
  dsimp only at parsed
  rw [foldl_bytes, Nat.zero_add] at parsed
  split at parsed
  · rename_i found read
    obtain rfl := Option.some.inj parsed
    refine (nodes?_spans _ read).before ?_
    split
    · split
      · rename_i same _
        exact same ▸ List.suffix_cons _ _
      · rename_i same _
        exact same ▸ List.suffix_rfl
    · exact List.nil_suffix
  · cases parsed

-- What a parsed document tells about the place of its nodes in the text.
structure Offsets (text : List Char) (nodes : List Node) : Prop where
  bounds : ∀ node ∈ allOf nodes, ∃ front behind, text = front ++ behind ∧ node.offset = bytes front
  ascending : (allOf nodes).Pairwise fun node later => node.offset < later.offset

theorem Spans.offsets (spans : Spans (bytes cs) cs (allOf nodes) rest) : Offsets cs nodes := by
  obtain ⟨starts, spread, same⟩ := spans
  refine ⟨fun node member => ?_, ?_⟩
  · have offset := List.mem_map_of_mem (f := Node.offset) member
    rw [same] at offset
    obtain ⟨here, start, offset⟩ := List.mem_map.mp offset
    obtain ⟨front, rfl⟩ := spread.starts_suffix here start
    exact ⟨front, here, rfl, by rw [← offset, bytes_append, Nat.add_sub_cancel_right]⟩
  · have apart : (starts.map fun here => bytes cs - bytes here).Pairwise (· < ·) := by
      refine List.pairwise_map.mpr (spread.pairwise.imp_of_mem fun first _ behind => ?_)
      have := behind.bytes
      have := bytes_suffix (spread.starts_suffix _ first)
      omega
    rw [← same] at apart
    exact List.pairwise_map.mp apart

theorem parse?_offsets {text : String} (parsed : parse? text = some nodes) :
    Offsets text.toList nodes :=
  (parse?_spans parsed).offsets

end Rollout.Kdl
