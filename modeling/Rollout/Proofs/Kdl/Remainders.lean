import Mathlib.Tactic.SplitIfs
import Rollout.Kdl.Reader

namespace Rollout.Kdl

variable {cs rest : List Char}

-- An end of a text that is not the whole of it.
structure Behind (rest cs : List Char) : Prop where
  suffix : rest <:+ cs
  shorter : rest.length < cs.length

theorem Behind.of_tail {c : Char} (behind : rest <:+ cs) : Behind rest (c :: cs) :=
  ⟨behind.trans (List.suffix_cons c cs), Nat.lt_succ_of_le behind.length_le⟩

theorem Behind.after {later : List Char} (behind : Behind rest cs) (more : later <:+ rest) :
    Behind later cs :=
  ⟨more.trans behind.suffix, Nat.lt_of_le_of_lt more.length_le behind.shorter⟩

theorem Behind.before {earlier : List Char} (behind : Behind rest cs) (less : cs <:+ earlier) :
    Behind rest earlier :=
  ⟨behind.suffix.trans less, Nat.lt_of_lt_of_le behind.shorter less.length_le⟩

-- Each arm of these readers gives up, stops where it is or goes on behind a character or two.
theorem skipGap_suffix {lines : Bool} {gap : Gap} (skipped : skipGap lines gap cs = some rest) :
    rest <:+ cs := by
  fun_induction skipGap lines gap cs
  all_goals grind [List.suffix_cons_iff]

theorem afterLineComment_suffix (cs : List Char) : afterLineComment cs <:+ cs := by
  fun_induction afterLineComment cs
  all_goals grind [List.suffix_cons_iff]

theorem terminator?_suffix (ended : terminator? cs = some rest) : rest <:+ cs := by
  fun_cases terminator? cs
  all_goals grind [List.suffix_cons_iff, afterLineComment_suffix, terminator?]

theorem newline?_suffix (ended : newline? cs = some rest) : rest <:+ cs := by
  fun_cases newline? cs
  all_goals grind [List.suffix_cons_iff, newline?]

theorem slashdash?_suffix (dropped : slashdash? cs = some rest) : rest <:+ cs := by
  fun_cases slashdash? cs
  · rename_i behind
    exact (skipGap_suffix dropped).trans ((List.suffix_cons _ _).trans (List.suffix_cons _ _))
  · rename_i other
    simp [slashdash?] at dropped

theorem stringPieces_suffix {multi : Bool} {mode : StringMode} {pieces : List Piece}
    (read : stringPieces multi mode cs = some (pieces, rest)) : rest <:+ cs := by
  fun_induction stringPieces multi mode cs generalizing pieces
  all_goals grind [List.suffix_cons_iff, Option.map_eq_some_iff]

theorem rawPieces_suffix {multi : Bool} {close : List Char} {pieces : List Piece}
    (read : rawPieces multi close cs = some (pieces, rest)) : rest <:+ cs := by
  fun_induction rawPieces multi close cs generalizing pieces
  all_goals grind [List.suffix_cons_iff, List.drop_suffix, Option.map_eq_some_iff]

theorem quoted?_suffix {s : String} (read : quoted? cs = some (s, rest)) : rest <:+ cs := by
  unfold quoted? at read
  split at read
  · obtain ⟨body, broken, read⟩ := Option.bind_eq_some_iff.mp read
    obtain ⟨⟨pieces, behind⟩, closed, read⟩ := Option.bind_eq_some_iff.mp read
    obtain ⟨s, -, read⟩ := Option.bind_eq_some_iff.mp read
    obtain ⟨rfl, rfl⟩ := Prod.mk.inj (Option.some.inj read)
    have inner := (stringPieces_suffix closed).trans (newline?_suffix broken)
    exact inner.trans ((List.suffix_cons _ _).trans (List.suffix_cons _ _))
  · obtain ⟨-, rfl⟩ := Prod.mk.inj (Option.some.inj read)
    exact List.suffix_cons _ _
  · obtain ⟨⟨pieces, behind⟩, closed, read⟩ := Option.bind_eq_some_iff.mp read
    obtain ⟨-, rfl⟩ := Prod.mk.inj (Option.some.inj read)
    exact stringPieces_suffix closed

theorem raw?_suffix {sharps : Nat} {s : String} (read : raw? sharps cs = some (s, rest)) :
    rest <:+ cs := by
  unfold raw? at read
  split at read
  · obtain ⟨body, broken, read⟩ := Option.bind_eq_some_iff.mp read
    obtain ⟨⟨pieces, behind⟩, closed, read⟩ := Option.bind_eq_some_iff.mp read
    obtain ⟨s, -, read⟩ := Option.bind_eq_some_iff.mp read
    obtain ⟨rfl, rfl⟩ := Prod.mk.inj (Option.some.inj read)
    have inner := (rawPieces_suffix closed).trans (newline?_suffix broken)
    exact inner.trans ((List.suffix_cons _ _).trans
      ((List.suffix_cons _ _).trans (List.suffix_cons _ _)))
  · obtain ⟨⟨pieces, behind⟩, closed, read⟩ := Option.bind_eq_some_iff.mp read
    obtain ⟨-, rfl⟩ := Prod.mk.inj (Option.some.inj read)
    exact (rawPieces_suffix closed).trans (List.suffix_cons _ _)
  · cases read

theorem word_behind {word : List Char} {c : Char} {tail : List Char} (nonempty : word ≠ [])
    (taken : word = (c :: tail).takeWhile isWordChar) :
    Behind ((c :: tail).dropWhile isWordChar) (c :: tail) := by
  by_cases first : isWordChar c
  · rw [List.dropWhile_cons_of_pos first]
    exact .of_tail (List.dropWhile_suffix _)
  · rw [List.takeWhile_cons_of_neg first] at taken
    exact absurd taken nonempty

theorem scalar?_behind {value : Scalar} (read : scalar? cs = some (value, rest)) :
    Behind rest cs := by
  unfold scalar? at read
  split at read
  · cases read
  · rename_i c tail
    dsimp only at read
    split_ifs at read with quote sharp opened numeric
    · obtain ⟨⟨s, behind⟩, told, same⟩ := Option.map_eq_some_iff.mp read
      obtain ⟨-, rfl⟩ := Prod.mk.inj same
      exact .of_tail (quoted?_suffix told)
    · obtain ⟨⟨s, behind⟩, told, same⟩ := Option.map_eq_some_iff.mp read
      obtain ⟨-, rfl⟩ := Prod.mk.inj same
      exact .of_tail ((raw?_suffix told).trans (List.dropWhile_suffix _))
    · obtain ⟨k, told, same⟩ := Option.map_eq_some_iff.mp read
      obtain ⟨-, rfl⟩ := Prod.mk.inj same
      exact .of_tail (List.dropWhile_suffix _)
    · obtain ⟨n, told, same⟩ := Option.map_eq_some_iff.mp read
      obtain ⟨-, rfl⟩ := Prod.mk.inj same
      exact word_behind (fun empty => by rw [empty] at numeric; cases numeric) rfl
    · obtain ⟨n, told, same⟩ := Option.map_eq_some_iff.mp read
      obtain ⟨-, rfl⟩ := Prod.mk.inj same
      exact word_behind (fun empty => by rw [empty] at told; cases told) rfl

theorem name?_behind {s : String} (read : name? cs = some (s, rest)) : Behind rest cs := by
  obtain ⟨⟨value, behind⟩, told, read⟩ := Option.bind_eq_some_iff.mp read
  dsimp only at read
  split at read
  · obtain ⟨rfl, rfl⟩ := Prod.mk.inj (Option.some.inj read)
    exact scalar?_behind told
  · cases read

theorem type?_suffix {type : Option String} (read : type? cs = some (type, rest)) :
    rest <:+ cs := by
  unfold type? at read
  split at read
  · obtain ⟨opened, first, read⟩ := Option.bind_eq_some_iff.mp read
    obtain ⟨⟨word, named⟩, told, read⟩ := Option.bind_eq_some_iff.mp read
    obtain ⟨spaced, second, read⟩ := Option.bind_eq_some_iff.mp read
    split at read
    · rename_i closed
      obtain ⟨behind, third, read⟩ := Option.bind_eq_some_iff.mp read
      obtain ⟨-, rfl⟩ := Prod.mk.inj (Option.some.inj read)
      have inner : behind <:+ ')' :: closed := (skipGap_suffix third).trans (List.suffix_cons _ _)
      have word := (skipGap_suffix second).trans (name?_behind told).suffix
      exact (inner.trans (word.trans (skipGap_suffix first))).trans (List.suffix_cons _ _)
    · cases read
  · obtain ⟨-, rfl⟩ := Prod.mk.inj (Option.some.inj read)
    exact List.suffix_rfl

theorem entry?_suffix {entry : Entry} (read : entry? cs = some (entry, rest)) : rest <:+ cs := by
  obtain ⟨⟨type, typed⟩, first, read⟩ := Option.bind_eq_some_iff.mp read
  obtain ⟨⟨value, behind⟩, told, read⟩ := Option.bind_eq_some_iff.mp read
  have whole := (scalar?_behind told).suffix.trans (type?_suffix first)
  dsimp only at read
  split at read
  · rename_i skipped
    split at read
    · obtain ⟨spaced, gap, read⟩ := Option.bind_eq_some_iff.mp read
      obtain ⟨⟨type, typed⟩, second, read⟩ := Option.bind_eq_some_iff.mp read
      obtain ⟨⟨property, later⟩, held, read⟩ := Option.bind_eq_some_iff.mp read
      obtain ⟨-, rfl⟩ := Prod.mk.inj (Option.some.inj read)
      have sign := (List.suffix_cons _ _).trans (skipGap_suffix skipped)
      have property := (scalar?_behind held).suffix.trans (type?_suffix second)
      exact (property.trans (skipGap_suffix gap)).trans (sign.trans whole)
    · cases read
  · obtain ⟨-, rfl⟩ := Prod.mk.inj (Option.some.inj read)
    exact whole

theorem entries?_suffix {fuel : Nat} {entries : List Entry}
    (read : entries? fuel cs = some (entries, rest)) : rest <:+ cs := by
  induction fuel generalizing cs entries with
  | zero => cases read
  | succ fuel ih =>
    obtain ⟨spaced, gap, read⟩ := Option.bind_eq_some_iff.mp read
    have start := skipGap_suffix gap
    split at read
    · obtain ⟨-, rfl⟩ := Prod.mk.inj (Option.some.inj read)
      exact start
    · split at read
      · rename_i dropped commented
        split at read
        · obtain ⟨-, rfl⟩ := Prod.mk.inj (Option.some.inj read)
          exact start
        · obtain ⟨⟨entry, behind⟩, told, read⟩ := Option.bind_eq_some_iff.mp read
          have skipped := (entry?_suffix told).trans (slashdash?_suffix commented)
          exact (ih read).trans (skipped.trans start)
      · split at read
        · obtain ⟨⟨entry, behind⟩, told, read⟩ := Option.bind_eq_some_iff.mp read
          obtain ⟨⟨others, later⟩, more, read⟩ := Option.bind_eq_some_iff.mp read
          obtain ⟨-, rfl⟩ := Prod.mk.inj (Option.some.inj read)
          exact (ih more).trans ((entry?_suffix told).trans start)
        · cases read

end Rollout.Kdl
