import Mathlib.Data.List.Chain
import Rollout.Text.Blank

namespace Rollout.Text

variable {sep : Char} {cs before after part : List Char}

theorem splitFirst_append (missing : sep ∉ before) (after : List Char) :
    splitFirst sep (before ++ sep :: after) = some (before, after) := by
  induction before with
  | nil => simp [splitFirst]
  | cons c before ih =>
    obtain ⟨other, missing⟩ := not_or.mp (List.mem_cons.not.mp missing)
    rw [List.cons_append, splitFirst, if_neg (Ne.symm other), ih missing]
    rfl

theorem splitFirst_some (found : splitFirst sep cs = some (before, after)) :
    cs = before ++ sep :: after := by
  induction cs generalizing before with
  | nil => cases found
  | cons c cs ih =>
    unfold splitFirst at found
    split at found
    · next same =>
      obtain ⟨rfl, rfl⟩ := Prod.mk.inj (Option.some.inj found)
      rw [same, List.nil_append]
    · obtain ⟨⟨front, back⟩, later, parts⟩ := Option.map_eq_some_iff.mp found
      obtain ⟨rfl, rfl⟩ := Prod.mk.inj parts
      rw [ih later, List.cons_append]

theorem splitLast_none (missing : sep ∉ cs) : splitLast sep cs = none := by
  induction cs with
  | nil => rfl
  | cons c cs ih =>
    obtain ⟨other, missing⟩ := not_or.mp (List.mem_cons.not.mp missing)
    rw [splitLast, ih missing]
    exact if_neg (Ne.symm other)

theorem splitLast_append (before : List Char) (missing : sep ∉ after) :
    splitLast sep (before ++ sep :: after) = some (before, after) := by
  induction before with
  | nil =>
    rw [List.nil_append, splitLast, splitLast_none missing]
    exact if_pos rfl
  | cons c before ih => rw [List.cons_append, splitLast, ih]

theorem splitChar_append (cs rest : List Char) :
    splitChar sep (cs ++ sep :: rest) = splitChar sep cs ++ splitChar sep rest := by
  induction cs with
  | nil => simp [splitChar]
  | cons c cs ih =>
    rw [List.cons_append, splitChar, splitChar, ih]
    split
    · rfl
    · cases pieces : splitChar sep cs with
      | nil => exact absurd pieces (splitChar_ne_nil sep cs)
      | cons piece more => rfl

-- Two separators never meet in a text all of whose pieces but the first hold something.
theorem splitChar_apart (filled : ∀ piece ∈ (splitChar sep cs).tail, piece ≠ []) :
    cs.IsChain fun a b => a = sep → b ≠ sep := by
  induction cs with
  | nil => exact .nil
  | cons c cs ih =>
    unfold splitChar at filled
    split at filled
    · have tail : ∀ piece ∈ (splitChar sep cs).tail, piece ≠ [] :=
        fun piece inside => filled piece (List.mem_of_mem_tail inside)
      refine List.isChain_cons.mpr ⟨fun d next _ same => ?_, ih tail⟩
      obtain ⟨more, rfl⟩ : ∃ more, cs = d :: more := by
        cases cs with
        | nil => cases next
        | cons first more => exact ⟨more, by rw [Option.some.inj next]⟩
      refine filled [] ?_ rfl
      rw [splitChar, if_pos same]
      exact List.mem_cons_self
    · next other =>
      refine List.isChain_cons.mpr ⟨fun d _ same => absurd same other, ih ?_⟩
      cases pieces : splitChar sep cs with
      | nil => exact fun _ inside => nomatch inside
      | cons piece more => simpa [pieces] using filled

theorem apart_of_missing (missing : sep ∉ cs) : cs.IsChain fun a b => a = sep → b ≠ sep := by
  induction cs with
  | nil => exact .nil
  | cons c cs ih =>
    obtain ⟨other, missing⟩ := not_or.mp (List.mem_cons.not.mp missing)
    exact List.isChain_cons.mpr ⟨fun _ _ same => absurd same.symm other, ih missing⟩

theorem occurs_infix (found : occurs part cs = true) : part <:+: cs := by
  induction cs with
  | nil =>
    obtain rfl := List.isEmpty_iff.mp found
    exact List.infix_refl _
  | cons c cs ih =>
    unfold occurs at found
    rcases Bool.or_eq_true_iff.mp found with here | later
    · exact (List.isPrefixOf_iff_prefix.mp here).isInfix
    · exact (ih later).trans (List.suffix_cons c cs).isInfix

theorem splitOn_intercalate {names : List String} (plain : ∀ name ∈ names, sep ∉ name.toList)
    (some : names ≠ []) :
    ((String.singleton sep).intercalate names).toList.splitOn sep = names.map String.toList := by
  rw [String.toList_intercalate, String.toList_singleton]
  refine List.splitOn_intercalate sep ?_ (by simpa using some)
  intro letters member
  obtain ⟨name, inNames, rfl⟩ := List.mem_map.mp member
  exact plain name inNames

theorem intercalate_inj {names names' : List String} (plain : ∀ name ∈ names, sep ∉ name.toList)
    (plain' : ∀ name ∈ names', sep ∉ name.toList) (some : names ≠ []) (some' : names' ≠ [])
    (same : (String.singleton sep).intercalate names = (String.singleton sep).intercalate names') :
    names = names' := by
  have split := splitOn_intercalate plain some
  rw [same, splitOn_intercalate plain' some'] at split
  exact (List.map_injective_iff.mpr (fun _ _ => String.toList_inj.mp) split).symm

theorem trimLeft_begins (cs : List Char) : ∀ c ∈ (trimLeft cs).head?, isBlank c = false := by
  intro c begins
  have front := List.head?_dropWhile_not isBlank cs
  rw [show (cs.dropWhile isBlank).head? = some c from begins] at front
  exact front

theorem trimRight_prefix (cs : List Char) : trimRight cs <+: cs := by
  have back : (cs.reverse.dropWhile isBlank).reverse <+: cs.reverse.reverse :=
    List.reverse_prefix.mpr (List.dropWhile_suffix isBlank)
  rwa [List.reverse_reverse] at back

theorem trim_begins (s : String) : ∀ c ∈ (trim s).toList.head?, isBlank c = false := by
  intro c begins
  rw [trim, String.toList_ofList] at begins
  obtain ⟨behind, whole⟩ := trimRight_prefix (trimLeft s.toList)
  refine trimLeft_begins s.toList c ?_
  rw [← whole, List.head?_append, begins]
  rfl

def Blank (s : String) : Prop := ∀ c ∈ s.toList, isBlank c = true

theorem trim_surrounded {first last s : String} (front : Blank first) (back : Blank last)
    (plain : ∀ c ∈ s.toList, isBlank c = false) : trim (first ++ s ++ last) = s := by
  have left : trimLeft (first ++ s ++ last).toList = trimLeft (s.toList ++ last.toList) := by
    rw [String.toList_append, String.toList_append, List.append_assoc]
    exact List.dropWhile_append_of_pos front
  have right : trimRight (s.toList ++ last.toList) = s.toList := by
    have behind : ∀ c ∈ last.toList.reverse, isBlank c = true :=
      fun c member => back c (List.mem_reverse.mp member)
    rw [trimRight, List.reverse_append, List.dropWhile_append_of_pos behind]
    exact trimRight_of_ends fun c ends => plain c (List.mem_of_mem_getLast? ends)
  rw [trim, left]
  cases letters : s.toList with
  | nil =>
    have none : trimLeft (last.toList ++ []) = [] := List.dropWhile_append_of_pos back
    rw [List.append_nil] at none
    rw [List.nil_append, none, String.toList_eq_nil_iff.mp letters]
    rfl
  | cons c cs =>
    have starts : trimLeft (s.toList ++ last.toList) = s.toList ++ last.toList := by
      refine trimLeft_of_begins fun d begins => plain d ?_
      rw [letters] at begins ⊢
      rw [← Option.some.inj begins]
      exact List.mem_cons_self
    rw [← letters, starts, right, String.ofList_toList]

end Rollout.Text
