import CodeDesk.Data.Table
import Mathlib.Data.List.Induction
/-!
# Tables — lookup after a change, and the order of the keys

Giving a key a value and taking a key away change what is looked up at that
key, and nothing else. Where the keys stand does not matter for this.

A table that is made of entries has its keys in order, whatever the order of
the entries; and entries in order are the entries of the table that is made
of them.
-/

namespace CodeDesk

namespace Table

variable {κ α : Type} [Ord κ] {t : Table κ α} {k j : κ} {v : α}

/-- What is looked up among entries. -/
def lookup (es : List (κ × α)) (j : κ) : Option α :=
  (es.find? fun e => compare j e.1 == .eq).map Prod.snd

theorem get?_eq (t : Table κ α) (j : κ) : t.get? j = lookup t.entries j := rfl

section Lookup

variable [Std.LawfulEqOrd κ] [DecidableEq κ]

theorem lookup_cons (e : κ × α) (es : List (κ × α)) :
    lookup (e :: es) j = if j = e.1 then some e.2 else lookup es j := by
  unfold lookup
  rw [List.find?_cons]
  by_cases h : j = e.1
  · rw [if_pos h, h, Std.compare_self]
    rfl
  · have hne : (compare j e.1 == .eq) = false :=
      beq_eq_false_iff_ne.2 fun heq => h (Std.LawfulEqCmp.compare_eq_iff_eq.1 heq)
    rw [if_neg h, hne]

theorem lookup_insertEntry (es : List (κ × α)) :
    lookup (insertEntry k v es) j = if j = k then some v else lookup es j := by
  induction es with
  | nil => exact lookup_cons (k, v) []
  | cons e es ih =>
    unfold insertEntry
    split
    · exact lookup_cons (k, v) (e :: es)
    · next heq =>
      -- The entry that gets the new value has the key.
      have hkey : k = e.1 := Std.LawfulEqCmp.compare_eq_iff_eq.1 heq
      rw [lookup_cons, lookup_cons, hkey]
      by_cases h : j = e.1
      · rw [if_pos h, if_pos h]
      · rw [if_neg h, if_neg h, if_neg h]
    · next hgt =>
      have hkey : k ≠ e.1 := fun heq => by
        rw [heq, Std.compare_self] at hgt
        cases hgt
      rw [lookup_cons, ih, lookup_cons]
      by_cases h : j = k
      · rw [if_pos h, if_neg fun he => hkey (h.symm.trans he), if_pos h]
      · rw [if_neg h, if_neg h]

theorem get?_set : (t.set k v).get? j = if j = k then some v else t.get? j :=
  lookup_insertEntry t.entries

theorem get?_erase : (t.erase k).get? j = if j = k then none else t.get? j := by
  obtain ⟨es⟩ := t
  rw [get?_eq, get?_eq, erase]
  dsimp only
  induction es with
  | nil => exact (ite_self none).symm
  | cons e es ih =>
    rw [List.filter_cons, lookup_cons]
    by_cases hkey : k = e.1
    · have heq : (compare k e.1 != .eq) = false := by
        rw [hkey, Std.compare_self]
        rfl
      rw [heq, if_neg Bool.false_ne_true, ih, hkey]
      by_cases h : j = e.1
      · rw [if_pos h, if_pos h]
      · rw [if_neg h, if_neg h, if_neg h]
    · have hne : (compare k e.1 != .eq) = true :=
        bne_iff_ne.2 fun heq => hkey (Std.LawfulEqCmp.compare_eq_iff_eq.1 heq)
      rw [hne, if_pos rfl, lookup_cons, ih]
      by_cases h : j = e.1
      · rw [if_pos h, if_neg fun hk => hkey (hk.symm.trans h), if_pos h]
      · rw [if_neg h, if_neg h]

end Lookup

/-! ## Keys in order -/

/-- The keys stand in order, each of them once. -/
def Ordered (t : Table κ α) : Prop := t.entries.Pairwise fun a b => compare a.1 b.1 = .lt

theorem key_of_mem_insertEntry {k : κ} {v : α} {es : List (κ × α)} {e : κ × α}
    (he : e ∈ insertEntry k v es) : e.1 = k ∨ ∃ e' ∈ es, e'.1 = e.1 := by
  induction es with
  | nil => exact Or.inl (congrArg Prod.fst (List.mem_singleton.1 he))
  | cons e' es ih =>
    unfold insertEntry at he
    split at he
    · rcases List.mem_cons.1 he with rfl | he
      · exact Or.inl rfl
      · exact Or.inr ⟨e, he, rfl⟩
    · rcases List.mem_cons.1 he with rfl | he
      · exact Or.inr ⟨_, List.mem_cons_self, rfl⟩
      · exact Or.inr ⟨e, List.mem_cons_of_mem _ he, rfl⟩
    · rcases List.mem_cons.1 he with rfl | he
      · exact Or.inr ⟨_, List.mem_cons_self, rfl⟩
      · rcases ih he with hkey | ⟨c, hc, hkey⟩
        · exact Or.inl hkey
        · exact Or.inr ⟨c, List.mem_cons_of_mem _ hc, hkey⟩

theorem Ordered.set [Std.TransOrd κ] (h : t.Ordered) (k : κ) (v : α) : (t.set k v).Ordered := by
  obtain ⟨es⟩ := t
  unfold Ordered Table.set
  replace h : es.Pairwise fun a b => compare a.1 b.1 = .lt := h
  dsimp only
  induction es with
  | nil => exact List.pairwise_singleton _ _
  | cons e es ih =>
    obtain ⟨hhead, htail⟩ := List.pairwise_cons.1 h
    unfold insertEntry
    split
    · next hlt =>
      refine List.pairwise_cons.2 ⟨fun e' he' => ?_, h⟩
      rcases List.mem_cons.1 he' with rfl | he'
      · exact hlt
      · exact Std.TransCmp.lt_trans hlt (hhead e' he')
    · exact List.pairwise_cons.2 ⟨hhead, htail⟩
    · next hgt =>
      refine List.pairwise_cons.2 ⟨fun e' he' => ?_, ih htail⟩
      rcases key_of_mem_insertEntry he' with hkey | ⟨c, hc, hkey⟩
      · rw [hkey]
        exact Std.OrientedCmp.gt_iff_lt.1 hgt
      · rw [← hkey]
        exact hhead c hc

theorem Ordered.erase (h : t.Ordered) (k : κ) : (t.erase k).Ordered := h.filter _

theorem ordered_empty : (empty : Table κ α).Ordered := List.Pairwise.nil

theorem insertEntry_eq_append [Std.OrientedOrd κ] (es : List (κ × α))
    (h : ∀ e ∈ es, compare e.1 k = .lt) : insertEntry k v es = es ++ [(k, v)] := by
  induction es with
  | nil => rfl
  | cons e es ih =>
    have hgt : compare k e.1 = .gt := Std.OrientedCmp.gt_iff_lt.2 (h e List.mem_cons_self)
    rw [insertEntry, hgt, ih fun e' he' => h e' (List.mem_cons_of_mem e he'), List.cons_append]

theorem ofList_concat (es : List (κ × α)) (e : κ × α) :
    ofList (es ++ [e]) = (ofList es).set e.1 e.2 := by
  rw [ofList, List.foldl_append]
  rfl

theorem ordered_ofList [Std.TransOrd κ] (es : List (κ × α)) : (ofList es).Ordered := by
  induction es using List.reverseRecOn with
  | nil => exact ordered_empty
  | append_singleton es e ih =>
    rw [ofList_concat]
    exact ih.set e.1 e.2

/-- The entries of a table in order give the table again. -/
theorem Ordered.ofList_entries [Std.OrientedOrd κ] (h : t.Ordered) : ofList t.entries = t := by
  obtain ⟨es⟩ := t
  replace h : es.Pairwise fun a b => compare a.1 b.1 = .lt := h
  induction es using List.reverseRecOn with
  | nil => rfl
  | append_singleton es e ih =>
    obtain ⟨hes, _, hlast⟩ := List.pairwise_append.1 h
    have hbefore : ∀ e' ∈ es, compare e'.1 e.1 = .lt := fun e' he' =>
      hlast e' he' e (List.mem_singleton_self e)
    dsimp only
    rw [ofList_concat, ih hes, Table.set, insertEntry_eq_append es hbefore]

end Table

end CodeDesk
