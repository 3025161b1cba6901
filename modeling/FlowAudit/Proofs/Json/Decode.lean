import FlowAudit.Json.Codec
import FlowAudit.Proofs.Json.Writer
import Mathlib.Data.List.Nodup

/-!
# FlowAudit.Proofs.Json.Decode

**What a value stands for is decoded from its text.** `Decodes` ties a value to be written to the decoder
that reads it back and to what that gives. For a type with both forms it says that the text of a datum
gives that datum (`decodes_iff_ofText?`), and it passes from the parts of a datum to the whole: to lists, and
to records, whose fields may be read one by one (`FieldsDecode`, `decodes_record`).
-/

namespace FlowAudit.Json

open Decode FlowAudit.Number FlowAudit.Text

variable {α β : Type}

/-- The text of a value is read as a tree that a decoder gives a meaning. -/
def Decodes (value : Value) (decode : Decoder α) (a : α) : Prop :=
  ∃ tree, Written value tree ∧ decode tree = some a

/-- **Decoding goes by way of the text.** -/
theorem decodes_iff_ofText? [ToValue α] [OfTree α] {a : α} :
    Decodes (toValue a) OfTree.decode a ↔ ofText? (toText a) = some a := by
  have text : spelling (toText a) = (writeLine [] (toValue a)).map some := by
    rw [spelling, toText, Value.line, String.toList_ofList]
  rw [ofText?, ofSpelling?, text]
  constructor
  · rintro ⟨tree, written, decoded⟩
    rw [reads_iff_parse?.mp written]
    exact decoded
  · intro found
    obtain ⟨tree, parsed, decoded⟩ := Option.bind_eq_some_iff.mp found
    exact ⟨tree, reads_iff_parse?.mpr parsed, decoded⟩

/-! ### Lists of what is there -/

theorem mapM_eq_map {f : α → Option β} {g : α → β} {l : List α}
    (all : ∀ a ∈ l, f a = some (g a)) : l.mapM f = some (l.map g) := by
  induction l with
  | nil => rfl
  | cons a l ih =>
      rw [List.mapM_cons, all a List.mem_cons_self,
        ih fun b member => all b (List.mem_cons_of_mem _ member)]
      rfl

/-! ### Strings, numbers and names -/

theorem string?_spelling (s : String) : Contents.string? (spelling s) = some s := by
  have whole : (spelling s).mapM id = some s.toList := by
    rw [spelling, List.mapM_map]
    exact (mapM_eq_map fun _ _ => rfl).trans (congrArg some (List.map_id _))
  rw [Contents.string?, whole]
  exact congrArg some String.ofList_toList

theorem decodes_string (s : String) : Decodes (.string s) Decode.string s :=
  ⟨_, written_string s, string?_spelling s⟩

theorem number?_ofNat {n : Nat} (fits : n < wordSize 64) : (Numeral.ofNat n).number? = some (.int n) := by
  have fits' : fitsNat 64 n = true := decide_eq_true fits
  simp [Numeral.number?, Numeral.ofNat, fits']

/-- **A natural number comes back** if it fits the word it is read into. -/
theorem nat_ofNat {bits n : Nat} (word : bits ≤ 64) (fits : n < wordSize bits) :
    Decode.nat bits (.number (.ofNat n)) = some n := by
  have larger : wordSize bits ≤ wordSize 64 := Nat.pow_le_pow_right (by decide) word
  have within : (0 ≤ (n : Int) && (n : Int) ≤ (wordSize bits : Int) - 1) = true := by
    simp
    omega
  simp only [Decode.nat, Decode.int, number?_ofNat (Nat.lt_of_lt_of_le fits larger)]
  rw [if_pos within]
  rfl

theorem decodes_nat {bits n : Nat} (word : bits ≤ 64) (fits : n < wordSize bits) :
    Decodes (.nat n) (Decode.nat bits) n :=
  ⟨_, written_nat n, nat_ofNat word fits⟩

theorem decodes_count {n : Nat} (fits : n < wordSize 64) : Decodes (.nat n) count n :=
  decodes_nat (Nat.le_refl _) fits

/-- **What has a name is found by it.** -/
theorem decodes_oneOf (all : List α) (name : α → String) {a : α}
    (found : all.find? (fun b => name b == name a) = some a) :
    Decodes (.string (name a)) (oneOf all name) a := by
  refine ⟨_, written_string _, ?_⟩
  change (Contents.string? (spelling (name a))).bind _ = _
  rw [string?_spelling]
  exact found

/-! ### Options and lists -/

theorem decodes_option {f : α → Value} {decode : Decoder α} (no : decode .null = none)
    {a : Option α} (inner : ∀ x, a = some x → Decodes (f x) decode x) :
    Decodes (Value.option f a) (Decode.option decode) a := by
  cases a with
  | none => exact ⟨_, written_null, rfl⟩
  | some x =>
      obtain ⟨tree, written, decoded⟩ := inner x rfl
      refine ⟨tree, written, ?_⟩
      cases tree with
      | null =>
          rw [no] at decoded
          cases decoded
      | _ => exact congrArg (Option.map some) decoded

theorem decodes_list {f : α → Value} {decode : Decoder α} {xs : List α}
    (inner : ∀ x ∈ xs, Decodes (f x) decode x) :
    Decodes (Value.list f xs) (Decode.list decode) xs := by
  obtain ⟨trees, written, decoded⟩ : ∃ trees, List.Forall₂ Written (xs.map f) trees ∧
      trees.mapM decode = some xs := by
    induction xs with
    | nil => exact ⟨[], .nil, rfl⟩
    | cons x xs ih =>
        obtain ⟨tree, written, decoded⟩ := inner x List.mem_cons_self
        obtain ⟨trees, rest, restDecoded⟩ := ih fun y member => inner y (List.mem_cons_of_mem _ member)
        refine ⟨tree :: trees, .cons written rest, ?_⟩
        rw [List.mapM_cons, decoded, restDecoded]
        rfl
  exact ⟨_, written_array written, decoded⟩

/-! ### Records -/

/-- Among members with distinct keys one is found by its key. -/
theorem filter_eq_singleton {members : List (String × Tree)}
    (distinct : (members.map Prod.fst).Nodup) {name : String} {tree : Tree}
    (member : (name, tree) ∈ members) : members.filter (·.1 == name) = [(name, tree)] := by
  induction members with
  | nil => cases member
  | cons first rest ih =>
      rw [List.map_cons, List.nodup_cons] at distinct
      rcases List.mem_cons.mp member with rfl | later
      · have others : rest.filter (·.1 == name) = [] := by
          refine List.filter_eq_nil_iff.mpr fun other there same => distinct.1 ?_
          exact List.mem_map.mpr ⟨other, there, eq_of_beq same⟩
        rw [List.filter_cons, if_pos (beq_self_eq_true name), others]
      · have other : ¬(first.1 == name) = true := by
          intro same
          exact distinct.1 (List.mem_map.mpr ⟨_, later, (eq_of_beq same).symm⟩)
        rw [List.filter_cons, if_neg other]
        exact ih distinct.2 later

/-- The members of an object are given to the fields of their names. -/
theorem fieldsOf_object {members : List (String × Tree)}
    (distinct : (members.map Prod.fst).Nodup) :
    fieldsOf (members.map Prod.fst) (.object (members.map fun m => (spelling m.1, m.2))) =
      some { given := (members.map Prod.snd).map some, positional := false } := by
  have keys : (members.map fun m => (spelling m.1, m.2)).mapM
      (fun (key, value) => (Contents.string? key).map (·, value)) = some members := by
    rw [List.mapM_map]
    refine (mapM_eq_map fun m _ => ?_).trans (congrArg some (List.map_id _))
    simp [string?_spelling]
  have given : (members.map Prod.fst).mapM (memberNamed? members) =
      some ((members.map Prod.snd).map some) := by
    rw [List.mapM_map, List.map_map]
    refine mapM_eq_map fun m there => ?_
    show memberNamed? members m.1 = some (some m.2)
    rw [memberNamed?, filter_eq_singleton distinct there]
  rw [fieldsOf, keys]
  dsimp only [Option.bind_eq_bind, Option.bind_some]
  rw [given]
  rfl

/-- Values are decoded by the fields of a record, each by the next one. -/
inductive FieldsDecode : List Value → FieldReader α → α → Prop where
  | done (a : α) : FieldsDecode [] (pure a) a
  | required {β : Type} {value : Value} {rest : List Value} {decode : Decoder β} {b : β}
      {further : β → FieldReader α} {a : α} (field : Decodes value decode b)
      (fields : FieldsDecode rest (further b) a) :
      FieldsDecode (value :: rest) (required decode >>= further) a
  | withDefault {β : Type} {value : Value} {rest : List Value} {default : β} {decode : Decoder β}
      {b : β} {further : β → FieldReader α} {a : α} (field : Decodes value decode b)
      (fields : FieldsDecode rest (further b) a) :
      FieldsDecode (value :: rest) (withDefault default decode >>= further) a

section Run

variable {β : Type} {decode : Decoder β} {b : β} {tree : Tree} (further : β → FieldReader α)
  (given : List (Option Tree)) (positional : Bool)

theorem run_required (decoded : decode tree = some b) :
    (required decode >>= further).run' { given := some tree :: given, positional } =
      (further b).run' { given, positional } := by
  change ((liftM (decode tree) : FieldReader β) >>= further).run' { given, positional } = _
  rw [decoded]
  rfl

theorem run_withDefault (default : β) (decoded : decode tree = some b) :
    (withDefault default decode >>= further).run' { given := some tree :: given, positional } =
      (further b).run' { given, positional } := by
  change ((liftM (decode tree) : FieldReader β) >>= further).run' { given, positional } = _
  rw [decoded]
  rfl

end Run

theorem FieldsDecode.run {values : List Value} {reader : FieldReader α} {a : α}
    (fields : FieldsDecode values reader a) :
    ∃ trees, List.Forall₂ Written values trees ∧
      reader.run' { given := trees.map some, positional := false } = some a := by
  induction fields with
  | done a => exact ⟨[], .nil, rfl⟩
  | required field _ ih =>
      obtain ⟨tree, written, decoded⟩ := field
      obtain ⟨trees, rest, read⟩ := ih
      exact ⟨tree :: trees, .cons written rest, (run_required _ _ _ decoded).trans read⟩
  | withDefault field _ ih =>
      obtain ⟨tree, written, decoded⟩ := field
      obtain ⟨trees, rest, read⟩ := ih
      exact ⟨tree :: trees, .cons written rest, (run_withDefault _ _ _ _ decoded).trans read⟩

/-- **A record comes back** when its fields do. -/
theorem decodes_record {fieldNames : List String} {members : List (String × Value)}
    {reader : FieldReader α} {a : α} (same : members.map Prod.fst = fieldNames)
    (distinct : fieldNames.Nodup) (fields : FieldsDecode (members.map Prod.snd) reader a) :
    Decodes (.object members) (record fieldNames reader) a := by
  obtain ⟨trees, written, read⟩ := fields.run
  obtain ⟨named, names, values, writtenMembers⟩ : ∃ named : List (String × Tree),
      named.map Prod.fst = members.map Prod.fst ∧ named.map Prod.snd = trees ∧
        List.Forall₂ WrittenMember members (named.map fun m => (spelling m.1, m.2)) := by
    -- Nothing is known of a part of the fields alone, so only what is written stays.
    clear same distinct fields read
    induction members generalizing trees with
    | nil =>
        cases written
        exact ⟨[], rfl, rfl, .nil⟩
    | cons member members ih =>
        cases written with
        | @cons _ tree _ trees head rest =>
            obtain ⟨named, names, values, written⟩ := ih trees rest
            exact ⟨(member.1, tree) :: named, by rw [List.map_cons, List.map_cons, names],
              by rw [List.map_cons, values], .cons ⟨rfl, head⟩ written⟩
  refine ⟨_, written_object writtenMembers, ?_⟩
  rw [← same] at distinct ⊢
  rw [← names] at distinct ⊢
  rw [record, fieldsOf_object distinct, values]
  exact read

end FlowAudit.Json
