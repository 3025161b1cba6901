/-!
# FlowAudit.Proofs.Order.StableSort

**Leaving members out of a list commutes with sorting it.** Lists of issues and of records are
sorted by keys with many ties, so this is more than a fact about the members: it says that sorting
keeps members with equal keys in their order, whatever else the list holds. It is stated for any
comparison that is transitive and total, which a comparison of keys is.

The induction adds one member at a time (`List.mergeSort_cons`): a new first member goes right before
the first one that is not below it, and that cut is the only one of its kind (`eq_of_cut`).
-/

namespace FlowAudit

variable {α : Type} {le : α → α → Bool}

/-- A list can be cut in only one way into a part where a test fails throughout and a part where it
holds throughout. -/
theorem eq_of_cut (test : α → Bool) {low high low' high' : List α}
    (same : low ++ high = low' ++ high')
    (fails : ∀ a ∈ low, test a = false) (holds : ∀ a ∈ high, test a = true)
    (fails' : ∀ a ∈ low', test a = false) (holds' : ∀ a ∈ high', test a = true) :
    low = low' ∧ high = high' := by
  have kept : ∀ {l h : List α}, (∀ a ∈ l, test a = false) → (∀ a ∈ h, test a = true) →
      (l ++ h).filter test = h := by
    intro l h hl hh
    rw [List.filter_append, List.filter_eq_self.mpr hh,
      List.filter_eq_nil_iff.mpr fun a ha => by simp [hl a ha], List.nil_append]
  have highs : high = high' := by
    rw [← kept fails holds, same, kept fails' holds']
  subst highs
  exact ⟨List.append_cancel_right same, rfl⟩

/-- In a sorted list nothing after a member is below it. -/
theorem le_of_sorted_append {low high : List α} {a : α}
    (sorted : (low ++ a :: high).Pairwise fun x y => le x y = true) :
    ∀ b ∈ high, le a b = true := by
  intro b hb
  exact (List.pairwise_cons.mp (List.pairwise_append.mp sorted).2.1).1 b hb

/-- **Stability.** Leaving members out commutes with sorting. -/
theorem filter_mergeSort
    (trans : ∀ a b c : α, le a b → le b c → le a c) (total : ∀ a b : α, le a b || le b a)
    (keep : α → Bool) (l : List α) :
    (l.mergeSort le).filter keep = (l.filter keep).mergeSort le := by
  induction l with
  | nil => simp
  | cons a rest ih =>
      obtain ⟨low, high, whole, others, below⟩ := List.mergeSort_cons trans total a rest
      by_cases ha : keep a = true
      · rw [List.filter_cons_of_pos ha]
        obtain ⟨low', high', whole', others', below'⟩ :=
          List.mergeSort_cons trans total a (rest.filter keep)
        have above := le_of_sorted_append (whole ▸ List.pairwise_mergeSort trans total (a :: rest))
        have above' := le_of_sorted_append
          (whole' ▸ List.pairwise_mergeSort trans total (a :: rest.filter keep))
        -- Both sides are the sorted kept rest, cut where `a` belongs.
        have cut : low.filter keep ++ high.filter keep = low' ++ high' := by
          rw [← List.filter_append, ← others, ih, others']
        obtain ⟨hlow, hhigh⟩ := eq_of_cut (fun b => le a b) cut
          (fun b hb => by simpa using below b ((List.mem_filter.mp hb).1))
          (fun b hb => above b ((List.mem_filter.mp hb).1))
          (fun b hb => by simpa using below' b hb) above'
        rw [whole, whole', List.filter_append, List.filter_cons_of_pos ha, hlow, hhigh]
      · rw [List.filter_cons_of_neg ha, ← ih, whole, others, List.filter_append,
          List.filter_cons_of_neg ha, List.filter_append]

/-- Comparing natural numbers that members are given is transitive. -/
theorem keyLE_trans (key : α → Nat) (a b c : α) :
    decide (key a ≤ key b) = true → decide (key b ≤ key c) = true →
      decide (key a ≤ key c) = true := by
  simp only [decide_eq_true_eq]
  exact Nat.le_trans

/-- Comparing natural numbers that members are given is total. -/
theorem keyLE_total (key : α → Nat) (a b : α) :
    (decide (key a ≤ key b) || decide (key b ≤ key a)) = true := by
  simp only [Bool.or_eq_true, decide_eq_true_eq]
  exact Nat.le_total _ _

/-- Leaving members out commutes with sorting by a key. -/
theorem filter_mergeSort_key (key : α → Nat) (keep : α → Bool) (l : List α) :
    (l.mergeSort fun a b => decide (key a ≤ key b)).filter keep =
      (l.filter keep).mergeSort fun a b => decide (key a ≤ key b) :=
  filter_mergeSort (keyLE_trans key) (keyLE_total key) keep l

/-- **Sorting does not change the order of members that tie.** Any two of them stand in the sorted list as
they stand in the list of all members that tie with them, which sorting leaves alone. -/
theorem pairwise_mergeSort_ties
    (trans : ∀ a b c : α, le a b → le b c → le a c) (total : ∀ a b : α, le a b || le b a)
    {R : α → α → Prop} {l : List α} (ordered : l.Pairwise R) :
    (l.mergeSort le).Pairwise fun a b => le a b ∧ (le b a → R a b) := by
  have sorted := List.pairwise_mergeSort trans total l
  rw [List.pairwise_iff_forall_sublist] at sorted ordered ⊢
  intro a b pair
  refine ⟨sorted pair, fun back => ordered ?_⟩
  have tied : ((l.filter fun c => le c b && le b c).mergeSort le) =
      l.filter fun c => le c b && le b c := by
    refine List.mergeSort_of_pairwise (List.pairwise_iff_forall_sublist.mpr fun {c d} both => ?_)
    have hc := (List.mem_filter.mp (both.subset (List.mem_cons_self ..))).2
    have hd := (List.mem_filter.mp (both.subset (List.mem_cons_of_mem _ (List.mem_cons_self ..)))).2
    rw [Bool.and_eq_true] at hc hd
    exact trans c b d hc.1 hd.2
  have self : le b b := by simpa using total b b
  have both := pair.filter fun c => le c b && le b c
  rw [filter_mergeSort trans total, tied] at both
  simp only [List.filter_cons, sorted pair, back, self, Bool.and_self, if_true, List.filter_nil] at both
  exact both.trans List.filter_sublist

/-- Sorting by a key does not change the order of members with equal keys. -/
theorem pairwise_mergeSort_key (key : α → Nat) {R : α → α → Prop} {l : List α}
    (ordered : l.Pairwise R) :
    (l.mergeSort fun a b => decide (key a ≤ key b)).Pairwise
      fun a b => key a < key b ∨ key a = key b ∧ R a b := by
  refine (pairwise_mergeSort_ties (keyLE_trans key) (keyLE_total key) ordered).imp ?_
  intro a b ⟨le, ties⟩
  rcases Nat.lt_or_eq_of_le (of_decide_eq_true le) with less | same
  · exact Or.inl less
  · exact Or.inr ⟨same, ties (decide_eq_true (Nat.le_of_eq same.symm))⟩

end FlowAudit
