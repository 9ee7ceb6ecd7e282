import Rehearsal.Check.Caa
import Mathlib.Data.List.Chain
import Mathlib.Data.List.TakeWhile

/-!
# The names of a walk

A name lies under the names that remain of it when labels are taken off, down to the last one. The
names at which records that parents pass on are looked for climb from the name itself, one label at
a time, to its registered domain, and so they never come to the suffix nor to a name above it.

That the climb ends at the registered domain takes rules by which the registered domain is the name
or one of its parents. Rules are like that if none of them makes a suffix of no labels.

## Main definitions

* `Domain.IsUnder`: a name ends with another one, after a dot
* `Domain.Climbs`: from name to parent, up to some name
* `Domain.SuffixRule.IsProper`: a rule makes no suffix of no labels
* `Domain.lastLabel`: what follows the last dot of a text

## Main results

* `Domain.mem_parents`: the parents of a name are the names that it lies under
* `Domain.chain_climbs`: the names of a walk climb to the registered domain
* `Domain.under_suffix_of_mem_chain`: and no further
* `Domain.registered_append`: the registered domain of a name under its suffix
* `Domain.registered_boundary`: by proper rules the registered domain is the name or a parent of it
-/

namespace Rehearsal

namespace Domain

variable {rules : List SuffixRule} {name n m k first last apex top : String} {names : List String}

/-! ### Parents -/

/-- A name ends with another one, after a dot. -/
def IsUnder (name above : String) : Prop := '.' :: above.toList <:+ name.toList

theorem IsUnder.suffix (h : IsUnder n m) : m.toList <:+ n.toList :=
  List.IsSuffix.trans (List.suffix_cons '.' _) h

theorem IsUnder.trans (h : IsUnder n m) (h' : IsUnder m k) : IsUnder n k :=
  List.IsSuffix.trans h' h.suffix

theorem IsUnder.length_lt (h : IsUnder n m) : m.toList.length < n.toList.length :=
  List.IsSuffix.length_le h

theorem not_isUnder_self (n : String) : ¬IsUnder n n := fun h => Nat.lt_irrefl _ h.length_lt

instance : Trans IsUnder IsUnder IsUnder := ⟨IsUnder.trans⟩

theorem mem_parentsOf {cs : List Char} : m ∈ parentsOf cs ↔ m ≠ "" ∧ '.' :: m.toList <:+ cs := by
  induction cs using parentsOf.induct with
  | case1 => simp [parentsOf]
  | case2 =>
    rw [parentsOf, List.suffix_cons_iff, List.cons.injEq, String.toList_eq_nil_iff]
    simp
  | case3 rest hrest ih =>
    have hof : m = String.ofList rest ↔ m.toList = rest := by
      rw [← String.toList_inj, String.toList_ofList]
    have hne : m.toList = rest → m ≠ "" := by
      rintro rfl rfl
      exact hrest rfl
    rw [parentsOf, List.mem_cons, ih, List.suffix_cons_iff, List.cons.injEq, hof]
    · tauto
    · exact hrest
  | case4 c rest hnil hdot ih =>
    rw [parentsOf, ih, List.suffix_cons_iff, List.cons.injEq]
    · have hc : '.' ≠ c := fun h => hdot h.symm
      simp [hc]
    · exact hnil
    · exact hdot

/-- **The parents of a name are the names that it lies under.** -/
theorem mem_parents : m ∈ parents n ↔ m ≠ "" ∧ IsUnder n m := mem_parentsOf

theorem isUnder_of_parent (h : parent n = some m) : IsUnder n m := by
  unfold parent at h
  split at h
  · cases h
  · cases h
  next c rest _ heq =>
    obtain rfl : String.ofList rest = m := by simpa using h
    have hdot : c = '.' := by
      have hhead := List.head?_dropWhile_not (· != '.') n.toList
      rw [heq] at hhead
      simpa using hhead
    rw [IsUnder, String.toList_ofList, ← hdot, ← heq]
    exact List.dropWhile_suffix _

/-- What lies under the last label that was taken off has it as its parent. -/
theorem parent_append {label : String} (hlabel : '.' ∉ label.toList) (hm : m ≠ "") :
    parent (label ++ "." ++ m) = some m := by
  have hdrop : (label ++ "." ++ m).toList.dropWhile (· != '.') = '.' :: m.toList := by
    have hall : ∀ c ∈ label.toList, (c != '.') = true := fun c hc => by
      simp only [bne_iff_ne]
      rintro rfl
      exact hlabel hc
    simp [List.dropWhile_append_of_pos hall]
  obtain ⟨c, cs, hcs⟩ := List.exists_cons_of_ne_nil (mt String.toList_eq_nil_iff.mp hm)
  unfold parent
  rw [hdrop, hcs]
  simp only
  rw [← hcs, String.ofList_toList]

/-- Each parent is followed by its own. -/
theorem isChain_parentsOf (cs : List Char) :
    (String.ofList cs :: parentsOf cs).IsChain fun n m => parent n = some m := by
  induction cs using parentsOf.induct with
  | case1 => exact List.isChain_singleton _
  | case2 => exact List.isChain_singleton _
  | case3 rest hrest ih =>
    rw [parentsOf]
    · refine List.isChain_cons_cons.mpr ⟨?_, ih⟩
      have hne : String.ofList rest ≠ "" := fun h => hrest (by simpa using h)
      have hparent : parent ("" ++ "." ++ String.ofList rest) = some (String.ofList rest) :=
        parent_append (by simp) hne
      simpa using hparent
    · exact hrest
  | case4 c rest hnil hdot ih =>
    have hparent : parent (String.ofList (c :: rest)) = parent (String.ofList rest) := by
      unfold parent
      rw [String.toList_ofList, String.toList_ofList,
        List.dropWhile_cons_of_pos (by simpa using fun h => hdot h)]
    rw [parentsOf]
    · cases hparents : parentsOf rest with
      | nil => exact List.isChain_singleton _
      | cons p ps =>
        rw [hparents, List.isChain_cons_cons] at ih
        exact List.isChain_cons_cons.mpr ⟨hparent.trans ih.1, ih.2⟩
    · exact hnil
    · exact hdot

/-! ### Climbing -/

/-- From name to parent, from a first name up to a last one. -/
structure Climbs (first last : String) (names : List String) : Prop where
  /-- The names begin with the first one. -/
  head : names.head? = some first
  /-- Each name is followed by its parent. -/
  steps : names.IsChain fun n m => parent n = some m
  /-- The names end with the last one. -/
  last : names.getLast? = some last

/-- Each name lies under those that come after it. -/
theorem Climbs.pairwise (h : Climbs first last names) : names.Pairwise IsUnder :=
  List.isChain_iff_pairwise.mp (h.steps.imp fun _ _ => isUnder_of_parent)

/-- Every name but the last one lies under the last one. -/
theorem Climbs.eq_last_or_under (h : Climbs first last names) (hn : n ∈ names) :
    n = last ∨ IsUnder n last := by
  obtain ⟨front, rfl⟩ := List.getLast?_eq_some_iff.mp h.last
  rcases List.mem_append.mp hn with hn | hn
  · exact .inr ((List.pairwise_append.mp h.pairwise).2.2 n hn last (List.mem_singleton_self last))
  · exact .inl (List.mem_singleton.mp hn)

theorem upTo_isPrefix (last : String) (names : List String) : upTo last names <+: names := by
  induction names with
  | nil => exact List.prefix_rfl
  | cons n names ih =>
    rw [upTo]
    split
    · exact List.prefix_append [n] names
    · exact (List.prefix_cons_inj n).mpr ih

theorem getLast?_upTo (h : last ∈ names) : (upTo last names).getLast? = some last := by
  induction names with
  | nil => cases h
  | cons n names ih =>
    rw [upTo]
    split
    next heq => rw [heq, List.getLast?_singleton]
    next hne =>
      have hrest := ih ((List.mem_cons.mp h).resolve_left fun heq => hne heq.symm)
      rw [List.getLast?_cons, hrest, Option.getD_some]

theorem upTo_climbs (h : last = name ∨ last ∈ parents name) :
    Climbs name last (upTo last (name :: parents name)) where
  head := by
    rw [upTo]
    split <;> rfl
  steps := by
    have hchain := isChain_parentsOf name.toList
    rw [String.ofList_toList] at hchain
    exact hchain.prefix (upTo_isPrefix last _)
  last := getLast?_upTo (List.mem_cons.mpr h)

/-! ### The registered domain -/

/-- The registered domain is a label before the suffix. -/
theorem registered_eq (h : registered rules name = some apex) :
    ∃ label top, anySuffix rules name = some top ∧ top ≠ "" ∧ '.' ∉ label.toList ∧
      apex = label ++ "." ++ top := by
  unfold registered at h
  split at h
  · cases h
  next top htop =>
    split at h
    · cases h
    next hlong =>
      refine ⟨_, top, htop, ?_, ?_, (Option.some.inj h).symm⟩
      · rintro rfl
        simp [anySuffix] at htop
      · rw [String.toList_ofList, List.mem_reverse]
        intro hmem
        simpa using List.mem_takeWhile_imp hmem

theorem parent_registered (h : registered rules name = some apex)
    (htop : anySuffix rules name = some top) : parent apex = some top := by
  obtain ⟨label, top', htop', hne, hlabel, rfl⟩ := registered_eq h
  obtain rfl : top' = top := Option.some.inj (htop'.symm.trans htop)
  exact parent_append hlabel hne

/-- **The names of a walk climb from the name to its registered domain**, if that is the name or one
of its parents; without one, there is only the name. -/
theorem chain_climbs
    (h : ∀ apex, registered rules name = some apex → apex = name ∨ IsUnder name apex) :
    Climbs name ((registered rules name).getD name) (chain rules name) := by
  unfold chain
  cases happex : registered rules name with
  | none => exact ⟨rfl, List.isChain_singleton name, rfl⟩
  | some apex =>
    refine upTo_climbs ((h apex happex).imp_right fun hunder => mem_parents.mpr ⟨?_, hunder⟩)
    obtain ⟨label, top, -, -, -, rfl⟩ := registered_eq happex
    simp

/-- **The names of a walk lie under the suffix**, so it is not among them, nor is a name above
it. -/
theorem under_suffix_of_mem_chain
    (h : ∀ apex, registered rules name = some apex → apex = name ∨ IsUnder name apex)
    (happex : registered rules name = some apex) (htop : anySuffix rules name = some top)
    (hn : n ∈ chain rules name) : IsUnder n top := by
  have hclimbs := chain_climbs h
  rw [happex, Option.getD_some] at hclimbs
  have hlast : IsUnder apex top := isUnder_of_parent (parent_registered happex htop)
  rcases hclimbs.eq_last_or_under hn with rfl | hunder
  · exact hlast
  · exact hunder.trans hlast

/-! ### Proper rules -/

namespace SuffixRule

/-- The rule makes no suffix of no labels. -/
def IsProper : SuffixRule → Prop
  | plain labels => labels ≠ []
  | wildcard _ => True
  | exception labels => 1 < labels.length

instance : DecidablePred IsProper
  | plain labels => inferInstanceAs (Decidable (labels ≠ []))
  | wildcard _ => inferInstanceAs (Decidable True)
  | exception labels => inferInstanceAs (Decidable (1 < labels.length))

theorem IsProper.size_pos {rule : SuffixRule} (h : rule.IsProper) {labels : List String}
    {size : Nat} (hsize : rule.suffixSize labels = some size) : 0 < size := by
  cases rule with
  | plain own =>
    obtain ⟨-, heq⟩ := Option.ite_none_right_eq_some.mp hsize
    exact Option.some.inj heq ▸ List.length_pos_iff.mpr h
  | wildcard own =>
    obtain ⟨-, heq⟩ := Option.ite_none_right_eq_some.mp hsize
    exact Option.some.inj heq ▸ Nat.succ_pos _
  | exception own =>
    obtain ⟨-, heq⟩ := Option.ite_none_right_eq_some.mp hsize
    exact Option.some.inj heq ▸ Nat.sub_pos_of_lt h

end SuffixRule

/-- By proper rules a suffix has labels. -/
theorem suffixSize_pos (h : ∀ rule ∈ rules, rule.IsProper) (labels : List String) :
    0 < (knownSuffixSize rules labels).getD 1 := by
  cases hsize : knownSuffixSize rules labels with
  | none => exact Nat.one_pos
  | some size =>
    rw [Option.getD_some]
    unfold knownSuffixSize at hsize
    split at hsize
    next size' hfind =>
      obtain ⟨rule, hrule, hmatch⟩ := List.exists_of_findSome?_eq_some hfind
      obtain rfl := Option.some.inj hsize
      exact (h rule (List.mem_filter.mp hrule).1).size_pos hmatch
    next =>
      obtain ⟨rule, hrule, hmatch⟩ := List.mem_filterMap.mp (List.max?_mem hsize)
      exact (h rule hrule).size_pos hmatch

/-- A name is its labels with dots between them, and perhaps a dot after them. -/
theorem exists_labels (name : String) :
    ∃ labels, labelsFromRight name = labels.reverse ∧
      name = ".".intercalate labels ++ (if name.toList.getLast? = some '.' then "." else "") := by
  have hpieces (cs : List Char) :
      (".".intercalate ((cs.splitOn '.').map String.ofList)).toList = cs := by
    rw [String.toList_intercalate, List.map_map]
    have hid : String.toList ∘ String.ofList = id := funext fun _ => String.toList_ofList
    rw [hid, List.map_id]
    exact List.intercalate_splitOn '.'
  by_cases hdot : name.toList.getLast? = some '.'
  · obtain ⟨front, hfront⟩ := List.getLast?_eq_some_iff.mp hdot
    refine ⟨(front.splitOn '.').map String.ofList, ?_, ?_⟩
    · rw [labelsFromRight, if_pos hdot, hfront, List.splitOn_append_cons_self]
      simp [List.map_reverse]
    · rw [if_pos hdot, ← String.toList_inj, String.toList_append, hpieces, hfront]
      rfl
  · refine ⟨(name.toList.splitOn '.').map String.ofList, ?_, ?_⟩
    · simp only [labelsFromRight, if_neg hdot, List.map_reverse]
    · rw [if_neg hdot, String.append_empty, ← String.toList_inj, hpieces]

/-- The last labels of a name are the name, or the name lies under them. -/
theorem lastLabels_boundary (name : String) {size : Nat} (hsize : 0 < size) :
    lastLabels name (labelsFromRight name) size = name ∨
      ∃ front, name = front ++ "." ++ lastLabels name (labelsFromRight name) size := by
  obtain ⟨labels, hlabels, hname⟩ := exists_labels name
  rw [lastLabels, hlabels, List.take_reverse, List.reverse_reverse]
  by_cases hall : labels.length ≤ size
  · left
    rw [Nat.sub_eq_zero_of_le hall, List.drop_zero]
    exact hname.symm
  · right
    have hfront : labels.take (labels.length - size) ≠ [] := by
      rw [← List.length_pos_iff, List.length_take]
      omega
    have hback : labels.drop (labels.length - size) ≠ [] := by
      rw [← List.length_pos_iff, List.length_drop]
      omega
    refine ⟨".".intercalate (labels.take (labels.length - size)), ?_⟩
    conv_lhs => rw [hname, ← List.take_append_drop (labels.length - size) labels]
    rw [String.intercalate_append_of_ne_nil hfront hback, String.append_assoc]

/-- By proper rules the suffix of a name is the name, or the name lies under it. -/
theorem anySuffix_boundary (h : ∀ rule ∈ rules, rule.IsProper)
    (htop : anySuffix rules name = some top) :
    top = name ∨ ∃ front, name = front ++ "." ++ top := by
  have hlast : lastLabels name (labelsFromRight name)
      ((knownSuffixSize rules (labelsFromRight name)).getD 1) = top := by
    unfold anySuffix at htop
    simp only at htop
    split at htop
    · cases htop
    · exact Option.some.inj htop
  rw [← hlast]
  exact lastLabels_boundary name (suffixSize_pos h _)

/-! ### The label before a suffix -/

theorem length_append_dot (front top : String) :
    (front ++ "." ++ top).toList.length = front.toList.length + 1 + top.toList.length := by
  rw [String.toList_append, String.toList_append, List.length_append, List.length_append]
  rfl

/-- What follows the last dot of a text. -/
def lastLabel (cs : List Char) : List Char := (cs.reverse.takeWhile (· != '.')).reverse

theorem dot_notMem_lastLabel (cs : List Char) : '.' ∉ lastLabel cs := by
  rw [lastLabel, List.mem_reverse]
  intro hmem
  simpa using List.mem_takeWhile_imp hmem

/-- A text is what follows its last dot, with nothing or a dot before it. -/
theorem exists_before_lastLabel (cs : List Char) :
    ∃ before, cs = before ++ lastLabel cs ∧
      (before = [] ∨ ∃ before', before = before' ++ ['.']) := by
  refine ⟨(cs.reverse.dropWhile (· != '.')).reverse, ?_, ?_⟩
  · rw [lastLabel, ← List.reverse_append, List.takeWhile_append_dropWhile, List.reverse_reverse]
  · have hhead := List.head?_dropWhile_not (· != '.') cs.reverse
    cases hdrop : cs.reverse.dropWhile (· != '.') with
    | nil => exact .inl rfl
    | cons c rest =>
      rw [hdrop] at hhead
      obtain rfl : c = '.' := by simpa using hhead
      exact .inr ⟨rest.reverse, List.reverse_cons⟩

/-- **The registered domain of a name under its suffix** is the suffix with the label before it. If
nothing is before the dot, there is none. -/
theorem registered_append {front : String}
    (htop : anySuffix rules (front ++ "." ++ top) = some top) :
    registered rules (front ++ "." ++ top) =
      if front = "" then none
      else some (String.ofList (lastLabel front.toList) ++ "." ++ top) := by
  have hlength := length_append_dot front top
  have hshort : front.toList.length + 1 + top.toList.length < top.toList.length + 2 ↔
      front = "" := by
    rw [← String.toList_eq_nil_iff, ← List.length_eq_zero_iff]
    omega
  have htake : (front ++ "." ++ top).toList.take
      (front.toList.length + 1 + top.toList.length - top.toList.length - 1) = front.toList := by
    rw [Nat.add_sub_cancel, Nat.add_sub_cancel, String.append_assoc, String.toList_append,
      List.take_left]
  unfold registered
  simp only [htop, hlength, hshort, htake]
  rfl

/-- **By proper rules the registered domain of a name is the name or one that it lies under.** -/
theorem registered_boundary (h : ∀ rule ∈ rules, rule.IsProper)
    (happex : registered rules name = some apex) : apex = name ∨ IsUnder name apex := by
  obtain ⟨_, top, htop, -⟩ := registered_eq happex
  rcases anySuffix_boundary h htop with rfl | ⟨front, rfl⟩
  · -- a name that is its own suffix is too short to be registered
    unfold registered at happex
    rw [htop] at happex
    simp at happex
  · rw [registered_append htop] at happex
    obtain ⟨-, happex⟩ := Option.ite_none_left_eq_some.mp happex
    obtain rfl := Option.some.inj happex
    obtain ⟨before, hbefore, rfl | ⟨before, rfl⟩⟩ := exists_before_lastLabel front.toList
    · left
      rw [List.nil_append] at hbefore
      rw [← hbefore, String.ofList_toList]
    · right
      refine ⟨before, ?_⟩
      conv_rhs => rw [String.append_assoc, String.toList_append, hbefore]
      simp

end Domain

end Rehearsal
