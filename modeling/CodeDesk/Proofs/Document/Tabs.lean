import CodeDesk.Proofs.Document.Recency
/-!
# Tabs — which documents are found by the names they show

A tab shows the name of its document, with a mark behind it while there are
unsaved changes, and a document is found by a name from which one mark is
dropped. The mark is dropped whether or not it is one: of a document without
unsaved changes whose name ends like the mark, the end of the name is lost
(`dropMark_tabName_iff`). Such a document is not found by its tab, though one
with the shorter name may be. Every other tab leads to a document of the name
it stands for, the first one of that name (`tab_leads_iff`).
-/

namespace CodeDesk

namespace OpenList

variable {l : OpenList} {s : Store} {id : BufferId} {name : String}

/-- Whether a name ends like the mark of unsaved changes. -/
def EndsLikeMark (name : String) : Prop := name.toList.getLast? = some '*'

instance (name : String) : Decidable (EndsLikeMark name) :=
  inferInstanceAs (Decidable (_ = _))

theorem dropMark_append (name : String) : dropMark (name ++ dirtyMark) = name := by
  have hreverse : (name ++ dirtyMark).toList.reverse = '*' :: name.toList.reverse := by
    rw [String.toList_append, List.reverse_append]
    rfl
  rw [dropMark, hreverse]
  exact (congrArg String.ofList (List.reverse_reverse _)).trans String.ofList_toList

/-- A name stays as it is exactly if it does not end like the mark. -/
theorem dropMark_eq_self_iff : dropMark name = name ↔ ¬ EndsLikeMark name := by
  rw [EndsLikeMark, List.getLast?_eq_head?_reverse]
  unfold dropMark
  split
  · next rest hreverse =>
    refine iff_of_false (fun heq => ?_) (not_not_intro (by rw [hreverse]; rfl))
    -- The name would be one character longer than it is.
    have hlength := congrArg (fun n : String => n.toList.length) heq
    have hname := congrArg List.length hreverse
    simp only [String.toList_ofList, List.length_reverse, List.length_cons] at hlength hname
    omega
  · next hother =>
    refine iff_of_true rfl fun hhead => ?_
    obtain ⟨rest, hreverse⟩ := List.head?_eq_some_iff.1 hhead
    exact hother rest hreverse

/-- **What is looked for by a tab** is the name of its document, unless a part
of the name is taken for the mark. -/
theorem dropMark_tabName_iff : dropMark (tabName s id) = s.nameOf id ↔
    s.isDirty id = true ∨ ¬ EndsLikeMark (s.nameOf id) := by
  unfold tabName
  by_cases hdirty : s.isDirty id = true
  · rw [if_pos hdirty]
    exact iff_of_true (dropMark_append _) (.inl hdirty)
  · rw [if_neg hdirty, dropMark_eq_self_iff]
    exact (or_iff_right hdirty).symm

/-- What is found by a name is open and has the name without a mark. -/
theorem byName_spec {shown : String} (h : l.byName s shown = some id) :
    id ∈ l.buffers s ∧ s.nameOf id = dropMark shown := by
  have hname := List.find?_some (p := fun id => s.nameOf id == dropMark shown) h
  exact ⟨List.mem_of_find?_eq_some h, beq_iff_eq.1 hname⟩

theorem exists_byName {shown : String} (hid : id ∈ l.buffers s)
    (hname : s.nameOf id = dropMark shown) : ∃ found, l.byName s shown = some found :=
  Option.isSome_iff_exists.1 (List.find?_isSome.2 ⟨id, hid, beq_iff_eq.2 hname⟩)

end OpenList

namespace Documents

open OpenList (EndsLikeMark)

variable {d : Documents} {i : Nat} {id : BufferId}

/-- A tab leads to a document with the name of the one it is the tab of. -/
def TabLeads (d : Documents) (i : Nat) : Prop :=
  ∃ shown id found, d.names.1[i]? = some shown ∧ d.buffers.1[i]? = some id ∧
    (d.names.2.byName shown).1 = some found ∧ d.store.nameOf found = d.store.nameOf id

/-- **A tab leads to its document**, or one of the same name, exactly if it has
a mark to be dropped or a name that does not end like one. -/
theorem tab_leads_iff (h : d.buffers.1[i]? = some id) :
    d.TabLeads i ↔ d.store.isDirty id = true ∨ ¬ EndsLikeMark (d.store.nameOf id) := by
  have hshown : d.names.1[i]? = some (OpenList.tabName d.store id) :=
    (List.getElem?_map ..).trans (congrArg (Option.map _) h)
  have hid : id ∈ d.buffers.1 := List.mem_of_getElem? h
  have hlist : d.purge.list.buffers d.store = d.buffers.1 :=
    congrArg (fun e : Documents => e.list.ids) d.purge_purge
  rw [← OpenList.dropMark_tabName_iff]
  constructor
  · rintro ⟨shown, id', found, hshown', hid', hfound, hname⟩
    rw [hshown, Option.some.injEq] at hshown'
    rw [h, Option.some.injEq] at hid'
    subst hshown' hid'
    exact (OpenList.byName_spec hfound).2.symm.trans hname
  · intro hname
    obtain ⟨found, hfound⟩ :=
      OpenList.exists_byName (l := d.purge.list) (hlist ▸ hid) hname.symm
    exact ⟨_, id, found, hshown, h, hfound, (OpenList.byName_spec hfound).2.trans hname⟩

/-- Two documents, of which the first has a name that ends like the mark. -/
def starred (dirty : Bool) : Documents :=
  ⟨⟨⟨[], 0, []⟩, [⟨⟨"/a*"⟩, "", dirty, true, 0, []⟩, ⟨⟨"/a"⟩, "", false, true, 0, []⟩]⟩, ⟨[0, 1]⟩⟩

/-- With unsaved changes, the tab of the first leads to it. -/
theorem tab_leads_marked :
    (starred true).names.1 = ["a**", "a"] ∧ (starred true).buffers.1[0]? = some 0 ∧
      (starred true).TabLeads 0 := by
  have hbuffer : (starred true).buffers.1[0]? = some 0 := by decide
  exact ⟨by decide +kernel, hbuffer, (tab_leads_iff hbuffer).2 (.inl rfl)⟩

/-- Without, it leads to the second. -/
theorem not_tab_leads_starred :
    (starred false).names.1 = ["a*", "a"] ∧ ((starred false).names.2.byName "a*").1 = some 1 ∧
      ¬ (starred false).TabLeads 0 := by
  have hnames : (starred false).names.1 = ["a*", "a"] := by decide +kernel
  have hbuffers : (starred false).buffers.1 = [0, 1] := by decide
  have hfound : ((starred false).names.2.byName "a*").1 = some 1 := by decide +kernel
  refine ⟨hnames, hfound, ?_⟩
  rintro ⟨shown, id, found, hshown, hid, hlead, hname⟩
  rw [hnames] at hshown
  cases hshown
  rw [hbuffers] at hid
  cases hid
  rw [hfound] at hlead
  cases hlead
  exact absurd hname (by decide +kernel)

end Documents
end CodeDesk
