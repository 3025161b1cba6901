import FlowAudit.Log.Query
import Mathlib.Data.List.Induction
import Mathlib.Data.List.Nodup
import Mathlib.Tactic.Tauto

/-!
# FlowAudit.Proofs.Log.Latest

**The latest record of every key.** `latestBy` goes over records from the oldest on and puts each in the
place of the one with its key. What comes of it has every key once (`nodup_latestBy`); it is the list
itself where no key comes twice (`latestBy_of_nodup`); and of records put after others, it has the latest
of the new ones, and of the old ones the latest under keys that do not come again
(`mem_latestBy_append`). Its keys stand in the order in which they first occur (`latestBy_firstSeen`).

A search from the newest record on finds the same one without making that list
(`find?_reverse_eq_some`).
-/

namespace FlowAudit

variable {α κ : Type} [DecidableEq κ] {key : α → κ}

/-! ### Putting one record in its place -/

theorem putLatest_keys (record : α) (records : List α) :
    (putLatest key record records).map key =
      if key record ∈ records.map key then records.map key else records.map key ++ [key record] := by
  induction records with
  | nil => rfl
  | cons other rest ih =>
      rw [putLatest, List.map_cons]
      by_cases same : key other = key record
      · rw [if_pos same, if_pos (by simp [same]), List.map_cons, same]
      · rw [if_neg same, List.map_cons, ih]
        by_cases later : key record ∈ rest.map key
        · rw [if_pos later, if_pos (List.mem_cons_of_mem _ later)]
        · have nowhere : key record ∉ key other :: rest.map key := by
            simp only [List.mem_cons, not_or]
            exact ⟨fun h => same h.symm, later⟩
          rw [if_neg later, if_neg nowhere, List.cons_append]

theorem nodup_putLatest (record : α) {records : List α} (distinct : (records.map key).Nodup) :
    ((putLatest key record records).map key).Nodup := by
  rw [putLatest_keys]
  by_cases found : key record ∈ records.map key
  · rw [if_pos found]
    exact distinct
  · rw [if_neg found]
    rw [← List.concat_eq_append]
    exact distinct.concat found

/-- A record under a new key goes to the end. -/
theorem putLatest_of_notMem {record : α} {records : List α} (new : key record ∉ records.map key) :
    putLatest key record records = records ++ [record] := by
  induction records with
  | nil => rfl
  | cons other rest ih =>
      simp only [List.map_cons, List.mem_cons, not_or] at new
      rw [putLatest, if_neg fun same => new.1 same.symm, ih new.2, List.cons_append]

/-- The record is there, and of the others those under other keys. -/
theorem mem_putLatest {record a : α} {records : List α} (distinct : (records.map key).Nodup) :
    a ∈ putLatest key record records ↔ a = record ∨ (a ∈ records ∧ key a ≠ key record) := by
  induction records with
  | nil => simp [putLatest]
  | cons other rest ih =>
      rw [List.map_cons, List.nodup_cons] at distinct
      rw [putLatest]
      by_cases same : key other = key record
      · -- All records behind the one replaced are under other keys.
        have others : ∀ b ∈ rest, key b ≠ key record := by
          intro b member equal
          exact distinct.1 (same.trans equal.symm ▸ List.mem_map_of_mem member)
        rw [if_pos same, List.mem_cons, List.mem_cons]
        constructor
        · rintro (here | there)
          · exact Or.inl here
          · exact Or.inr ⟨Or.inr there, others a there⟩
        · rintro (here | ⟨rfl | there, different⟩)
          · exact Or.inl here
          · exact absurd same different
          · exact Or.inr there
      · rw [if_neg same, List.mem_cons, List.mem_cons, ih distinct.2]
        constructor
        · rintro (rfl | here | ⟨there, different⟩)
          · exact Or.inr ⟨Or.inl rfl, same⟩
          · exact Or.inl here
          · exact Or.inr ⟨Or.inr there, different⟩
        · rintro (here | ⟨rfl | there, different⟩)
          · exact Or.inr (Or.inl here)
          · exact Or.inl rfl
          · exact Or.inr (Or.inr ⟨there, different⟩)

/-! ### The latest of all -/

theorem latestBy_concat (records : List α) (record : α) :
    latestBy key (records ++ [record]) = putLatest key record (latestBy key records) := by
  rw [latestBy, List.foldl_append]
  rfl

theorem nodup_latestBy (records : List α) : ((latestBy key records).map key).Nodup := by
  induction records using List.reverseRecOn with
  | nil => exact List.nodup_nil
  | append_singleton records record ih =>
      rw [latestBy_concat]
      exact nodup_putLatest record ih

/-- Every key has a latest record. -/
theorem mem_latestBy_keys (records : List α) (k : κ) :
    k ∈ (latestBy key records).map key ↔ k ∈ records.map key := by
  induction records using List.reverseRecOn with
  | nil => rfl
  | append_singleton records record ih =>
      rw [latestBy_concat, putLatest_keys, List.map_append, List.mem_append, List.map_singleton,
        List.mem_singleton, ← ih]
      by_cases found : key record ∈ (latestBy key records).map key
      · rw [if_pos found]
        refine ⟨Or.inl, ?_⟩
        rintro (here | rfl)
        · exact here
        · exact found
      · rw [if_neg found, List.mem_append, List.mem_singleton]

/-- Where no key comes twice, all records are the latest. -/
theorem latestBy_of_nodup {records : List α} (distinct : (records.map key).Nodup) :
    latestBy key records = records := by
  induction records using List.reverseRecOn with
  | nil => rfl
  | append_singleton records record ih =>
      rw [List.map_append, List.nodup_append] at distinct
      rw [latestBy_concat, ih distinct.1]
      exact putLatest_of_notMem fun found =>
        distinct.2.2 _ found _ (List.mem_singleton.mpr rfl) rfl

/-- **A later record takes the place of all earlier ones with its key**, and of no others. -/
theorem mem_latestBy_append {old new : List α} {a : α} :
    a ∈ latestBy key (old ++ new) ↔
      a ∈ latestBy key new ∨ (a ∈ latestBy key old ∧ key a ∉ new.map key) := by
  induction new using List.reverseRecOn with
  | nil => simp [latestBy]
  | append_singleton new record ih =>
      rw [← List.append_assoc, latestBy_concat, latestBy_concat, mem_putLatest (nodup_latestBy _),
        mem_putLatest (nodup_latestBy _), ih, List.map_append, List.mem_append]
      simp only [List.map_cons, List.map_nil, List.mem_singleton, not_or]
      tauto

/-- A record is the latest with its key if and only if it comes, and none with its key after it. -/
theorem mem_latestBy {records : List α} {a : α} :
    a ∈ latestBy key records ↔
      ∃ before after, records = before ++ a :: after ∧ key a ∉ after.map key := by
  constructor
  · induction records using List.reverseRecOn with
    | nil => simp [latestBy]
    | append_singleton records record ih =>
        rw [latestBy_concat, mem_putLatest (nodup_latestBy _)]
        rintro (rfl | ⟨found, different⟩)
        · exact ⟨records, [], rfl, List.not_mem_nil⟩
        · obtain ⟨before, after, cut, last⟩ := ih found
          refine ⟨before, after ++ [record], by rw [cut, List.append_assoc, List.cons_append], ?_⟩
          simp only [List.map_append, List.map_cons, List.map_nil, List.mem_append,
            List.mem_singleton, not_or]
          exact ⟨last, different⟩
  · rintro ⟨before, after, rfl, last⟩
    have cut : before ++ a :: after = (before ++ [a]) ++ after := by simp
    rw [cut, mem_latestBy_append]
    refine Or.inr ⟨?_, last⟩
    rw [latestBy_concat, mem_putLatest (nodup_latestBy _)]
    exact Or.inl rfl

theorem mem_of_mem_latestBy {records : List α} {a : α} (latest : a ∈ latestBy key records) :
    a ∈ records := by
  obtain ⟨before, after, rfl, -⟩ := mem_latestBy.mp latest
  exact List.mem_append_right _ List.mem_cons_self

/-- **The latest of records put after others under distinct keys**: they themselves and, of the others,
the latest whose keys do not come again. -/
theorem latestBy_append_perm {old new : List α} (distinct : (new.map key).Nodup) :
    (latestBy key (old ++ new)).Perm
      (new ++ (latestBy key old).filter fun a => key a ∉ new.map key) := by
  have kept : (((latestBy key old).filter fun a => key a ∉ new.map key).map key).Nodup :=
    (nodup_latestBy old).sublist (List.filter_sublist.map key)
  have apart : (new ++ (latestBy key old).filter fun a => key a ∉ new.map key).Nodup := by
    rw [List.nodup_append']
    refine ⟨distinct.of_map key, kept.of_map key, fun a here there => ?_⟩
    have other := (List.mem_filter.mp there).2
    rw [decide_eq_true_iff] at other
    exact other (List.mem_map_of_mem here)
  rw [List.perm_ext_iff_of_nodup ((nodup_latestBy _).of_map key) apart]
  intro a
  rw [mem_latestBy_append, latestBy_of_nodup distinct, List.mem_append, List.mem_filter,
    decide_eq_true_iff]

/-! ### The order of the latest -/

/-- Records stand in the order in which their keys first occur in a list. -/
def FirstSeen (key : α → κ) (records latest : List α) : Prop :=
  (latest.map key).Pairwise fun k k' => (records.map key).idxOf k < (records.map key).idxOf k'

/-- **The latest records stand in the order in which their keys first occur**, wherever they come
themselves. -/
theorem latestBy_firstSeen (records : List α) : FirstSeen key records (latestBy key records) := by
  unfold FirstSeen
  induction records using List.reverseRecOn with
  | nil => exact .nil
  | append_singleton records record ih =>
      -- A record more at the end is not the first with a key that has come before.
      have kept : ((latestBy key records).map key).Pairwise fun k k' =>
          ((records ++ [record]).map key).idxOf k < ((records ++ [record]).map key).idxOf k' := by
        refine ih.imp_of_mem fun {k k'} here there earlier => ?_
        rw [mem_latestBy_keys] at here there
        rwa [List.map_append, List.idxOf_append_of_mem here, List.idxOf_append_of_mem there]
      rw [latestBy_concat, putLatest_keys]
      by_cases found : key record ∈ (latestBy key records).map key
      · rw [if_pos found]
        exact kept
      · rw [if_neg found, List.pairwise_append]
        refine ⟨kept, List.pairwise_singleton _ _, fun k here k' new => ?_⟩
        rw [List.mem_singleton.mp new]
        rw [mem_latestBy_keys] at here found
        rw [List.map_append, List.idxOf_append_of_mem here, List.idxOf_append_of_notMem found]
        exact Nat.lt_add_right _ (List.idxOf_lt_length_of_mem here)

/-! ### The last record of one key -/

/-- A record comes in a list, and none with its key after it. -/
def LastOfKey (key : α → κ) (records : List α) (record : α) : Prop :=
  ∃ before after, records = before ++ record :: after ∧ key record ∉ after.map key

/-- Going back from the newest record, the first with a key is the last with it. -/
theorem find?_reverse_eq_some {records : List α} {k : κ} {record : α} :
    records.reverse.find? (key · = k) = some record ↔
      LastOfKey key records record ∧ key record = k := by
  rw [List.find?_eq_some_iff_append, decide_eq_true_iff]
  constructor
  · rintro ⟨rfl, newer, older, cut, others⟩
    refine ⟨⟨older.reverse, newer.reverse, ?_, fun again => ?_⟩, rfl⟩
    · rw [← List.reverse_reverse records, cut, List.reverse_append, List.reverse_cons,
        List.append_assoc, List.singleton_append]
    · obtain ⟨other, member, same⟩ := List.mem_map.mp again
      have different := others other (List.mem_reverse.mp member)
      rw [Bool.not_eq_true', decide_eq_false_iff_not] at different
      exact different same
  · rintro ⟨⟨before, after, rfl, last⟩, rfl⟩
    refine ⟨rfl, after.reverse, before.reverse, by simp, fun other member => ?_⟩
    have different : key other ≠ key record := fun same =>
      last (same ▸ List.mem_map_of_mem (List.mem_reverse.mp member))
    rw [decide_eq_false different, Bool.not_false]

/-- Nothing is found under keys that do not come. -/
theorem find?_reverse_eq_none {records : List α} {k : κ} :
    records.reverse.find? (key · = k) = none ↔ k ∉ records.map key := by
  simp [List.find?_eq_none]

/-- Among records with distinct keys, the one with a key is found wherever it stands. -/
theorem find?_eq_some_of_nodup {records : List α} (distinct : (records.map key).Nodup) {k : κ}
    {record : α} :
    records.find? (key · = k) = some record ↔ record ∈ records ∧ key record = k := by
  constructor
  · intro found
    have here := List.find?_some found
    exact ⟨List.mem_of_find?_eq_some found, of_decide_eq_true here⟩
  · rintro ⟨member, rfl⟩
    obtain ⟨before, after, rfl⟩ := List.append_of_mem member
    rw [List.map_append, List.map_cons, List.nodup_append] at distinct
    refine List.find?_eq_some_iff_append.mpr
      ⟨decide_eq_true rfl, before, after, rfl, fun other earlier => ?_⟩
    have different : key other ≠ key record :=
      distinct.2.2 _ (List.mem_map_of_mem earlier) _ List.mem_cons_self
    rw [decide_eq_false different, Bool.not_false]

/-! ### Lists of the latest -/

/-- A list of the latest records: one for every key that comes, which is the last with it. -/
structure LatestOf (key : α → κ) (records latest : List α) : Prop where
  once : (latest.map key).Nodup
  keys : ∀ k, k ∈ latest.map key ↔ k ∈ records.map key
  last : ∀ record, record ∈ latest ↔ LastOfKey key records record

theorem latestOf_latestBy (records : List α) : LatestOf key records (latestBy key records) :=
  ⟨nodup_latestBy records, mem_latestBy_keys records, fun _ => mem_latestBy⟩

namespace LatestOf

variable {records latest latest' : List α}

omit [DecidableEq κ] in
/-- The latest records may stand in any order. -/
theorem perm (of : LatestOf key records latest) (same : latest.Perm latest') :
    LatestOf key records latest' where
  once := (same.map key).nodup_iff.mp of.once
  keys k := by rw [← of.keys k, (same.map key).mem_iff]
  last record := by rw [← of.last record, same.mem_iff]

/-- **Going back to the first record with a key finds the latest one.** -/
theorem find?_reverse (of : LatestOf key records latest) (k : κ) :
    records.reverse.find? (key · = k) = latest.find? (key · = k) := by
  ext record
  rw [find?_reverse_eq_some, find?_eq_some_of_nodup of.once, of.last]

end LatestOf

end FlowAudit
