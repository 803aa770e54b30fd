import CodeDesk.Proofs.Command.Addresses
import Mathlib.Data.String.Basic
/-!
# Menus — one list of groups for a set of commands

A menu has the commands that fit, each once, in the group of its category;
the groups stand in the order of `Precedes`, and the commands of a group by
name. There is only one such list (`IsMenu.unique`), because the order of the
groups is strict and, within a category, so is that of the names: no two
commands of a table have the same category and name. The order in which the
commands were put in therefore does not matter.

That the table makes this list is two sorts. The second one goes by rank
alone and keeps what the first one has done within a rank
(`pairwise_mergeSort_stable`).
-/

namespace CodeDesk

/-! ## Sorting -/

section Sorting

variable {α : Type} {le : α → α → Bool} {R : α → α → Prop} {l l' : List α}

/-- What is in order and has no element twice is in strict order. -/
theorem pairwise_eraseDups [BEq α] [LawfulBEq α] (h : l.Pairwise R) :
    l.eraseDups.Pairwise fun a b => R a b ∧ a ≠ b := by
  induction hn : l.length using Nat.strongRecOn generalizing l with
  | ind n ih =>
    cases l with
    | nil => exact List.Pairwise.nil
    | cons a l =>
      obtain ⟨hhead, htail⟩ := List.pairwise_cons.1 h
      have hless : (l.filter fun b => !b == a).length < n := by
        rw [← hn]
        exact Nat.lt_succ_of_le (List.length_filter_le _ l)
      rw [List.eraseDups_cons]
      refine List.pairwise_cons.2 ⟨fun b hb => ?_, ih _ hless (htail.filter _) rfl⟩
      obtain ⟨hmem, hne⟩ := List.mem_filter.1 (List.mem_eraseDups.1 hb)
      exact ⟨hhead b hmem, fun heq => by simp [heq] at hne⟩

/-- **Sorting is stable**: what was in order stays so where the sort itself
does not decide. -/
theorem pairwise_mergeSort_stable (trans : ∀ a b c, le a b → le b c → le a c)
    (total : ∀ a b, le a b || le b a) (h : l.Pairwise R) :
    (l.mergeSort le).Pairwise fun a b => le a b ∧ (le b a → R a b) := by
  refine List.pairwise_iff_forall_sublist.2 fun {a b} hab =>
    ⟨List.pairwise_iff_forall_sublist.1 (List.pairwise_mergeSort trans total l) hab, fun hba => ?_⟩
  -- the elements that the sort does not tell from `a` are those of the list,
  -- and in the order in which they are there
  have hle : le a b :=
    List.pairwise_iff_forall_sublist.1 (List.pairwise_mergeSort trans total l) hab
  let tied : α → Bool := fun x => le a x && le x a
  have hsorted : (l.filter tied).Pairwise fun x y => le x y := by
    refine List.pairwise_of_forall_mem_list fun x hx y hy => ?_
    have hxa := (Bool.and_eq_true_iff.1 (List.mem_filter.1 hx).2).2
    have hay := (Bool.and_eq_true_iff.1 (List.mem_filter.1 hy).2).1
    exact trans x a y hxa hay
  have hsub : (l.filter tied).Sublist ((l.mergeSort le).filter tied) := by
    have hkept := (List.sublist_mergeSort trans total hsorted List.filter_sublist).filter tied
    rwa [List.filter_filter, funext fun x => Bool.and_self (tied x)] at hkept
  have heq : l.filter tied = (l.mergeSort le).filter tied :=
    hsub.eq_of_length ((List.mergeSort_perm l le).filter tied).length_eq.symm
  have haa : le a a := trans a b a hle hba
  have hin : [a, b].Sublist ((l.mergeSort le).filter tied) := by
    have hboth : [a, b].filter tied = [a, b] :=
      List.filter_eq_self.2 (by simp [tied, haa, hle, hba])
    exact hboth ▸ hab.filter tied
  rw [← heq] at hin
  exact List.pairwise_iff_forall_sublist.1 h (hin.trans List.filter_sublist)

/-- **A strict order leaves one list** of given elements. -/
theorem eq_of_pairwise_of_mem_iff (asymm : ∀ a b, R a b → ¬ R b a) (h : l.Pairwise R)
    (h' : l'.Pairwise R) (hmem : ∀ a, a ∈ l ↔ a ∈ l') : l = l' := by
  have hnodup : ∀ {l : List α}, l.Pairwise R → l.Nodup := fun hl => by
    refine hl.imp fun {a b} hab heq => ?_
    subst heq
    exact asymm a a hab hab
  refine List.Perm.eq_of_pairwise (fun a b _ _ hab hba => absurd hba (asymm a b hab)) h h' ?_
  exact (List.perm_ext_iff_of_nodup (hnodup h) (hnodup h')).2 hmem

end Sorting

namespace Command
namespace Registry

/-! ## The order of categories -/

/-- The category is called as the version control system in use, but for the
case of ASCII letters. -/
def IsVcs (vcs : Option String) (category : String) : Prop :=
  ∃ v, vcs = some v ∧ eqIgnoringCase category v

/-- A category stands before another one in a menu. -/
inductive Precedes (vcs : Option String) : (a b : String) → Prop
  /-- The builds come first. -/
  | build {b : String} : b ≠ "Build" → Precedes vcs "Build" b
  /-- What belongs to the version control system comes next. -/
  | vcs {a b : String} : a ≠ "Build" → b ≠ "Build" → IsVcs vcs a → ¬ IsVcs vcs b →
      Precedes vcs a b
  /-- What belongs to it is ordered by alphabet, and so is the rest. -/
  | alphabet {a b : String} : a ≠ "Build" → b ≠ "Build" → (IsVcs vcs a ↔ IsVcs vcs b) → a < b →
      Precedes vcs a b

section Order

variable {vcs : Option String} {a b : String}

theorem Precedes.asymm (h : Precedes vcs a b) : ¬ Precedes vcs b a := by
  intro h'
  cases h with
  | build hb =>
    cases h' with
    | build h => exact h rfl
    | vcs _ h => exact h rfl
    | alphabet _ h => exact h rfl
  | vcs ha hb hin hout =>
    cases h' with
    | build => exact hb rfl
    | vcs _ _ hin' => exact hout hin'
    | alphabet _ _ hiff => exact hout (hiff.2 hin)
  | alphabet ha hb hiff hlt =>
    cases h' with
    | build => exact hb rfl
    | vcs _ _ hin' hout' => exact hout' (hiff.2 hin')
    | alphabet _ _ _ hlt' => exact lt_asymm hlt hlt'

theorem any_eqIgnoringCase_iff : vcs.any (eqIgnoringCase a) = true ↔ IsVcs vcs a := by
  cases vcs with
  | none => simp [IsVcs]
  | some v => simp [IsVcs]

theorem rank_build (vcs : Option String) : rank vcs "Build" = 0 := rfl

theorem rank_of_isVcs (ha : a ≠ "Build") (h : IsVcs vcs a) : rank vcs a = 1 := by
  rw [rank, if_neg fun heq => ha (beq_iff_eq.1 heq), if_pos (any_eqIgnoringCase_iff.2 h)]

theorem rank_of_not_isVcs (ha : a ≠ "Build") (h : ¬ IsVcs vcs a) : rank vcs a = 2 := by
  rw [rank, if_neg fun heq => ha (beq_iff_eq.1 heq),
    if_neg fun heq => h (any_eqIgnoringCase_iff.1 heq)]

/-- **The rank decides first**, and the alphabet where it does not. -/
theorem precedes_of_rank (hrank : rank vcs a ≤ rank vcs b)
    (hlt : rank vcs b ≤ rank vcs a → a < b) : Precedes vcs a b := by
  have hne : a ≠ b := by
    rintro rfl
    exact lt_irrefl a (hlt hrank)
  by_cases ha : a = "Build"
  · subst ha
    exact .build hne.symm
  have hb : b ≠ "Build" := by
    rintro rfl
    rw [rank_build] at hrank
    by_cases hin : IsVcs vcs a
    · rw [rank_of_isVcs ha hin] at hrank
      omega
    · rw [rank_of_not_isVcs ha hin] at hrank
      omega
  by_cases hina : IsVcs vcs a <;> by_cases hinb : IsVcs vcs b
  · rw [rank_of_isVcs ha hina, rank_of_isVcs hb hinb] at hlt
    exact .alphabet ha hb (iff_of_true hina hinb) (hlt (Nat.le_refl _))
  · exact .vcs ha hb hina hinb
  · rw [rank_of_not_isVcs ha hina, rank_of_isVcs hb hinb] at hrank
    omega
  · rw [rank_of_not_isVcs ha hina, rank_of_not_isVcs hb hinb] at hlt
    exact .alphabet ha hb (iff_of_false hina hinb) (hlt (Nat.le_refl _))

end Order

/-! ## Menus -/

/-- A list of groups is a menu of the commands that are for a language and a
version control system. -/
structure IsMenu (r : Registry) (lang vcs : Option String) (menu : List MenuGroup) : Prop where
  /-- The groups are in order, so that no two are of one category. -/
  order : menu.Pairwise fun g g' => Precedes vcs g.category g'.category
  /-- No group is empty. -/
  ne_nil : ∀ g ∈ menu, g.commands ≠ []
  /-- A command is in the group of its category. -/
  category : ∀ g ∈ menu, ∀ c ∈ g.commands, c.category = g.category
  /-- Within a group the names ascend. -/
  names : ∀ g ∈ menu, g.commands.Pairwise fun c d => c.name < d.name
  /-- No command is there twice. -/
  once : (menu.flatMap (·.commands)).Nodup
  /-- The commands that fit are there, and nothing else. -/
  all : ∀ c, c ∈ menu.flatMap (·.commands) ↔
    c ∈ r.commands ∧ c.forLanguage lang = true ∧ c.forVcs vcs = true

section Menus

variable {r r' : Registry} {lang vcs : Option String} {menu menu' : List MenuGroup}
  {g : MenuGroup} {c : Spec}

/-- No two groups are of one category. -/
theorem IsMenu.nodup_categories (h : IsMenu r lang vcs menu) :
    (menu.map (·.category)).Nodup := by
  refine List.pairwise_map.2 (h.order.imp fun {g g'} hg heq => ?_)
  rw [heq] at hg
  exact hg.asymm hg

/-- The commands of a group are those of its category that fit. -/
theorem IsMenu.mem_commands_iff (h : IsMenu r lang vcs menu) (hg : g ∈ menu) :
    c ∈ g.commands ↔ c ∈ menu.flatMap (·.commands) ∧ c.category = g.category := by
  refine ⟨fun hc => ⟨List.mem_flatMap.2 ⟨g, hg, hc⟩, h.category g hg c hc⟩, ?_⟩
  rintro ⟨hc, hcategory⟩
  obtain ⟨g', hg', hc'⟩ := List.mem_flatMap.1 hc
  have hsame : g'.category = g.category := (h.category g' hg' c hc').symm.trans hcategory
  exact List.inj_on_of_nodup_map h.nodup_categories hg' hg hsame ▸ hc'

theorem IsMenu.subset (h : IsMenu r lang vcs menu) (h' : IsMenu r' lang vcs menu')
    (hsame : ∀ c, c ∈ r'.commands ↔ c ∈ r.commands) (hg : g ∈ menu) : g ∈ menu' := by
  have hall : ∀ c, c ∈ menu.flatMap (·.commands) ↔ c ∈ menu'.flatMap (·.commands) := fun c => by
    rw [h.all, h'.all, hsame]
  obtain ⟨c, hc⟩ := List.exists_mem_of_ne_nil _ (h.ne_nil g hg)
  obtain ⟨g', hg', hc'⟩ := List.mem_flatMap.1 ((hall c).1 (List.mem_flatMap.2 ⟨g, hg, hc⟩))
  have hcategory : g.category = g'.category :=
    (h.category g hg c hc).symm.trans (h'.category g' hg' c hc')
  have hcommands : g.commands = g'.commands := by
    refine eq_of_pairwise_of_mem_iff (fun c d => lt_asymm) (h.names g hg) (h'.names g' hg') ?_
    intro d
    rw [h.mem_commands_iff hg, h'.mem_commands_iff hg', hall, hcategory]
  have heq : g = g' := by
    cases g
    cases g'
    exact MenuGroup.mk.injEq .. ▸ ⟨hcategory, hcommands⟩
  exact heq ▸ hg'

/-- **There is one menu of a set of commands.** -/
theorem IsMenu.unique (h : IsMenu r lang vcs menu) (h' : IsMenu r' lang vcs menu')
    (hsame : ∀ c, c ∈ r'.commands ↔ c ∈ r.commands) : menu = menu' :=
  eq_of_pairwise_of_mem_iff (fun _ _ => Precedes.asymm) h.order h'.order fun _ =>
    ⟨h.subset h' hsame, h'.subset h fun c => (hsame c).symm⟩

/-! ## The menu of a table -/

/-- The group of a category with its commands by name. -/
def groupOf (cs : List Spec) (category : String) : MenuGroup :=
  ⟨category,
    (cs.filter fun c => c.category == category).mergeSort fun a b => decide (a.name ≤ b.name)⟩

theorem mem_categoriesOf {cs : List Spec} {category : String} :
    category ∈ categoriesOf cs ↔ ∃ c ∈ cs, c.category = category := by
  rw [categoriesOf, List.mem_eraseDups, List.mem_mergeSort, List.mem_map]

/-- What is sorted by a text stands in the order of this text. -/
theorem pairwise_mergeSort_text {α : Type} (text : α → String) (xs : List α) :
    (xs.mergeSort fun x y => decide (text x ≤ text y)).Pairwise fun x y => text x ≤ text y := by
  let before : α → α → Bool := fun x y => decide (text x ≤ text y)
  have htrans : ∀ x y z, before x y → before y z → before x z := fun x y z hxy hyz =>
    decide_eq_true (le_trans (of_decide_eq_true hxy) (of_decide_eq_true hyz))
  have htotal : ∀ x y, before x y || before y x := fun x y => by simp [before, le_total]
  exact (List.pairwise_mergeSort htrans htotal xs).imp fun hle => of_decide_eq_true hle

theorem pairwise_categoriesOf (cs : List Spec) :
    (categoriesOf cs).Pairwise fun a b => a < b := by
  have hsorted := pairwise_mergeSort_text (fun category : String => category) (cs.map (·.category))
  exact (pairwise_eraseDups hsorted).imp fun ⟨hle, hne⟩ => lt_of_le_of_ne hle hne

theorem mem_groupOf {cs : List Spec} {category : String} :
    c ∈ (groupOf cs category).commands ↔ c ∈ cs ∧ c.category = category := by
  rw [groupOf, List.mem_mergeSort, List.mem_filter, beq_iff_eq]

/-- **The names of a group ascend**, for no two commands of a category have
the same name. -/
theorem names_groupOf {cs : List Spec} (hkeys : (cs.map Spec.key).Nodup) (category : String) :
    (groupOf cs category).commands.Pairwise fun c d => c.name < d.name := by
  have hsorted := pairwise_mergeSort_text (fun c : Spec => c.name)
    (cs.filter fun c => c.category == category)
  have hdistinct : (((groupOf cs category).commands).map Spec.key).Nodup :=
    ((List.mergeSort_perm _ _).map Spec.key).nodup_iff.2
      (hkeys.sublist (List.filter_sublist.map Spec.key))
  refine (hsorted.and (List.pairwise_map.1 hdistinct)).imp_of_mem fun {c d} hc hd hcd => ?_
  obtain ⟨hle, hkey⟩ := hcd
  refine lt_of_le_of_ne hle fun hname => hkey ?_
  rw [Spec.key, Spec.key, (mem_groupOf.1 hc).2, (mem_groupOf.1 hd).2, hname]

/-- **What the table shows is a menu**, if no two of its commands have the
same category and name. -/
theorem isMenu_menu (hkeys : r.keys.Nodup) (lang vcs : Option String) :
    IsMenu r lang vcs (r.menu lang vcs) := by
  let fitting := r.commands.filter fun c => c.forLanguage lang && c.forVcs vcs
  let groups := (categoriesOf fitting).map (groupOf fitting)
  have hmenu : r.menu lang vcs =
      groups.mergeSort fun g g' => decide (rank vcs g.category ≤ rank vcs g'.category) := rfl
  have hmem : ∀ {g}, g ∈ r.menu lang vcs ↔ ∃ k ∈ categoriesOf fitting, groupOf fitting k = g :=
    fun {g} => by rw [hmenu, List.mem_mergeSort, List.mem_map]
  have hfitting : (fitting.map Spec.key).Nodup := hkeys.sublist (List.filter_sublist.map Spec.key)
  have hgroups : groups.Pairwise fun g g' => g.category < g'.category :=
    List.pairwise_map.2 (pairwise_categoriesOf fitting)
  have horder : (r.menu lang vcs).Pairwise fun g g' => Precedes vcs g.category g'.category := by
    rw [hmenu]
    refine (pairwise_mergeSort_stable (fun a b c hab hbc => ?_) (fun a b => ?_) hgroups).imp ?_
    · exact decide_eq_true (le_trans (of_decide_eq_true hab) (of_decide_eq_true hbc))
    · simp [le_total]
    · rintro g g' ⟨hle, hlt⟩
      exact precedes_of_rank (of_decide_eq_true hle) fun h => hlt (decide_eq_true h)
  have hcategory : ∀ g ∈ r.menu lang vcs, ∀ c ∈ g.commands, c.category = g.category := by
    intro g hg c hc
    obtain ⟨k, -, rfl⟩ := hmem.1 hg
    exact (mem_groupOf.1 hc).2
  have hnames : ∀ g ∈ r.menu lang vcs, g.commands.Pairwise fun c d => c.name < d.name := by
    intro g hg
    obtain ⟨k, -, rfl⟩ := hmem.1 hg
    exact names_groupOf hfitting k
  refine ⟨horder, fun g hg => ?_, hcategory, hnames, ?_, fun c => ?_⟩
  · obtain ⟨k, hk, rfl⟩ := hmem.1 hg
    obtain ⟨c, hc, hck⟩ := mem_categoriesOf.1 hk
    exact List.ne_nil_of_mem (mem_groupOf.2 ⟨hc, hck⟩)
  · refine List.nodup_flatMap.2 ⟨fun g hg => (hnames g hg).imp fun hlt heq => ?_,
      horder.imp_of_mem fun {g g'} hg hg' hbefore c hc hc' => ?_⟩
    · exact lt_irrefl _ (heq ▸ hlt)
    · rw [← hcategory g hg c hc, hcategory g' hg' c hc'] at hbefore
      exact hbefore.asymm hbefore
  · have hin : c ∈ fitting ↔
        c ∈ r.commands ∧ c.forLanguage lang = true ∧ c.forVcs vcs = true := by
      rw [List.mem_filter, Bool.and_eq_true]
    rw [← hin, List.mem_flatMap]
    constructor
    · rintro ⟨g, hg, hc⟩
      obtain ⟨k, -, rfl⟩ := hmem.1 hg
      exact (mem_groupOf.1 hc).1
    · intro hc
      exact ⟨groupOf fitting c.category,
        hmem.2 ⟨c.category, mem_categoriesOf.2 ⟨c, hc, rfl⟩, rfl⟩, mem_groupOf.2 ⟨hc, rfl⟩⟩

/-- **A table has one menu for each language and version control system**, and
it shows that one, whatever built the table. Tables that hold the same
commands have the same menus, in whatever order the commands were put in. -/
theorem one_menu (changes : List Change) (lang vcs : Option String) :
    (∀ menu, IsMenu (built changes) lang vcs menu ↔ menu = (built changes).menu lang vcs) ∧
    ∀ changes' : List Change,
      (∀ c, c ∈ (built changes').commands ↔ c ∈ (built changes).commands) →
      (built changes').menu lang vcs = (built changes).menu lang vcs := by
  have hmenu := isMenu_menu (built_keys_nodup changes) lang vcs
  refine ⟨fun menu => ⟨fun h => h.unique hmenu fun _ => Iff.rfl, fun h => h ▸ hmenu⟩, ?_⟩
  intro changes' hsame
  exact (isMenu_menu (built_keys_nodup changes') lang vcs).unique hmenu fun c => (hsame c).symm

/-- Two categories may be called as the version control system; the builds
come first all the same. -/
theorem one_menu_git :
    let cs := [idle "Zeta" "b", idle "git" "Add", idle "Zeta" "a", idle "Git" "Add",
      idle "Build" "Make"]
    let menu : List MenuGroup := [⟨"Build", [idle "Build" "Make"]⟩, ⟨"Git", [idle "Git" "Add"]⟩,
      ⟨"git", [idle "git" "Add"]⟩, ⟨"Zeta", [idle "Zeta" "a", idle "Zeta" "b"]⟩]
    (∀ c, c ∈ (built [.new cs.reverse]).commands ↔ c ∈ (built [.new cs]).commands) ∧
      (built [.new cs]).menu none (some "GIT") = menu ∧
      (built [.new cs.reverse]).menu none (some "GIT") = menu := by
  intro cs menu
  have hbuilt : (built [.new cs]).commands = cs := by decide
  have hreverse : (built [.new cs.reverse]).commands = cs.reverse := by decide
  have hsame : ∀ c, c ∈ (built [.new cs.reverse]).commands ↔ c ∈ (built [.new cs]).commands :=
    fun c => by rw [hbuilt, hreverse, List.mem_reverse]
  have hranks : menu.Pairwise fun g g' =>
      rank (some "GIT") g.category ≤ rank (some "GIT") g'.category ∧
        (rank (some "GIT") g'.category ≤ rank (some "GIT") g.category →
          g.category < g'.category) := by
    decide
  have hfit : ∀ c ∈ cs, c.forLanguage none = true ∧ c.forVcs (some "GIT") = true := by decide
  have hperm : (menu.flatMap (·.commands)).Perm cs := by decide
  have hmenu : IsMenu (built [.new cs]) none (some "GIT") menu :=
    { order := hranks.imp fun h => precedes_of_rank h.1 h.2
      ne_nil := by decide
      category := by decide
      names := by decide
      once := by decide
      all := fun c => by
        rw [hbuilt, hperm.mem_iff]
        exact ⟨fun hc => ⟨hc, hfit c hc⟩, fun hc => hc.1⟩ }
  have hshown := ((one_menu [.new cs] none (some "GIT")).1 menu).1 hmenu
  exact ⟨hsame, hshown.symm,
    ((one_menu [.new cs] none (some "GIT")).2 [.new cs.reverse] hsame).trans hshown.symm⟩

end Menus

end Registry
end Command
end CodeDesk
