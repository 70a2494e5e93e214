/-
What is written for a value is read back as that value, for every type that has a JSON form.

`Json.Faithful` is said of a type's two functions: what the one writes has no number with a fraction, and the other
reads it back. Lists and maps of faithful types are faithful (`Faithful.list`, `Faithful.map`): a map is written in the
order of its names, and entries in that order, put in one after the other, give the map again
(`NameMap.ofList_entries`). A record is found again field by field, because its names differ (`fields?_record`).

`reading_undoes_writing`: with the round trip of JSON values, the texts of all types are read back, in the compact
layout and, for libraries, in the indented one of their dump.
-/
import Mathlib.Tactic
import Graft.Codec.Request
import Graft.Proofs.Json.RoundTrip
import Graft.Proofs.Library.Effect

namespace Graft

namespace Json

/-! ## Scalars, and values made of them -/

@[simp] theorem integral_bool (b : Bool) : (Json.bool b).Integral := .bool b

@[simp] theorem integral_text (s : String) : (text s).Integral := .str (some s)

@[simp] theorem integral_nat (n : Nat) : (nat n).Integral := .int n

@[simp] theorem integral_word (n : UInt64) : (word n).Integral := .int n.toNat

@[simp] theorem integral_int64 (n : Int64) : (int64 n).Integral := .int n.toInt

@[simp] theorem integral_arr_iff {items : List Json} : (Json.arr items).Integral ↔ ∀ v ∈ items, v.Integral :=
  ⟨fun h => by cases h; assumption, .arr⟩

@[simp] theorem integral_record_iff {fields : List (String × Json)} :
    (record fields).Integral ↔ ∀ f ∈ fields, f.2.Integral := by
  constructor
  · intro h f hf
    cases h with
    | obj h => exact h (some f.1, f.2) (List.mem_map_of_mem hf)
  · intro h
    refine .obj fun f hf => ?_
    obtain ⟨g, hg, rfl⟩ := List.mem_map.1 hf
    exact h g hg

@[simp] theorem integral_alternative_iff {name : String} {data : Json} :
    (alternative name data).Integral ↔ data.Integral := by
  simp [alternative]

@[simp] theorem bool?_bool (b : Bool) : (Json.bool b).bool? = some b := rfl

@[simp] theorem text?_text (s : String) : (text s).text? = some s := rfl

theorem below?_nat {n bound : Nat} (h : n < bound) : (nat n).below? bound = some n := if_pos h

@[simp] theorem word16?_nat (n : UInt16) : (nat n.toNat).word16? = some n := by
  simp [word16?, below?_nat n.toNat_lt_size]

@[simp] theorem word32?_nat (n : UInt32) : (nat n.toNat).word32? = some n := by
  simp [word32?, below?_nat n.toNat_lt_size]

@[simp] theorem word64?_word (n : UInt64) : (word n).word64? = some n := by
  simp [word64?, word, below?_nat n.toNat_lt_size]

@[simp] theorem int64?_int64 (n : Int64) : (int64 n).int64? = some n := by
  have hrange : Int64.minValue.toInt ≤ n.toInt ∧ n.toInt ≤ Int64.maxValue.toInt := ⟨n.minValue_le_toInt, n.toInt_le⟩
  rw [int64, int64?, if_pos hrange, Int64.ofInt_toInt]

@[simp] theorem alternative?_text (name : String) : (text name).alternative? = some (name, none) := rfl

@[simp] theorem alternative?_alternative (name : String) (data : Json) :
    (alternative name data).alternative? = some (name, some data) := rfl

/-! ## Types whose values are written and read back -/

/-- writing and reading of a type fit: what is written has no number with a fraction, and is read back -/
structure Faithful {α : Type} (toJson : α → Json) (ofJson? : Json → Option α) : Prop where
  integral : ∀ x, (toJson x).Integral
  read : ∀ x, ofJson? (toJson x) = some x

section

variable {α : Type} {toJson : α → Json} {ofJson? : Json → Option α}

theorem Faithful.parse_compact (h : Faithful toJson ofJson?) (x : α) :
    (parse? (toJson x).compact).bind ofJson? = some x := by
  rw [parse?_compact (h.integral x)]
  exact h.read x

theorem Faithful.parse_indented (h : Faithful toJson ofJson?) (x : α) :
    (parse? (toJson x).indented).bind ofJson? = some x := by
  rw [parse?_indented (h.integral x)]
  exact h.read x

end

theorem faithful_text : Faithful text text? := ⟨integral_text, text?_text⟩

/-! ## Lists, maps and sets -/

theorem mapM_map {α β : Type} {write : α → β} {read : β → Option α} (h : ∀ x, read (write x) = some x) (xs : List α) :
    (xs.map write).mapM read = some xs := by
  induction xs with
  | nil => rfl
  | cons x xs ih => simp [h, ih]

section

variable {α : Type} {toJson : α → Json} {ofJson? : Json → Option α}

theorem Faithful.list (h : Faithful toJson ofJson?) :
    Faithful (fun xs : List α => .arr (xs.map toJson)) (list? ofJson?) where
  integral xs := integral_arr_iff.2 fun v hv => by
    obtain ⟨x, -, rfl⟩ := List.mem_map.1 hv
    exact h.integral x
  read xs := mapM_map h.read xs

end

end Json

namespace NameMap

variable {α : Type}

/-- a name after all others is put at the end -/
theorem insertEntry_of_lt {entries : List (String × α)} {name : String} (value : α) (h : ∀ e ∈ entries, e.1 < name) :
    insertEntry name value entries = entries ++ [(name, value)] := by
  induction entries with
  | nil => rfl
  | cons e entries ih =>
    have he := h e List.mem_cons_self
    have hne : name ≠ e.1 := by
      rintro rfl
      exact String.lt_irrefl _ he
    rw [insertEntry, if_neg (String.lt_asymm he), if_neg hne, ih fun d hd => h d (List.mem_cons_of_mem e hd)]
    rfl

/-- entries in ascending order, after those of the map, are put in as they stand -/
theorem entries_foldl_insert (m : NameMap α) (more : List (String × α)) (h : Ascending (m.entries ++ more)) :
    (more.foldl (fun m e => m.insert e.1 e.2) m).entries = m.entries ++ more := by
  induction more generalizing m with
  | nil => simp
  | cons e more ih =>
    have hlast : (m.insert e.1 e.2).entries = m.entries ++ [e] :=
      insertEntry_of_lt e.2 fun d hd => (List.pairwise_append.1 h).2.2 d hd e List.mem_cons_self
    have hall : Ascending ((m.insert e.1 e.2).entries ++ more) := by
      rw [hlast]
      simpa using h
    rw [List.foldl_cons, ih _ hall, hlast]
    simp

/-- the entries of a map give the map -/
theorem ofList_entries (m : NameMap α) : ofList m.entries = m := by
  have hentries : (ofList m.entries).entries = m.entries := entries_foldl_insert empty m.entries m.ascending
  cases m
  cases h : ofList _
  simp_all

end NameMap

/-- the names of a set give the set -/
theorem NameSet.ofNames_names (s : NameSet) : ofNames s.names = s := by
  rw [ofNames, NameMap.names, List.foldl_map]
  exact NameMap.ofList_entries s

namespace Json

theorem Faithful.map {α : Type} {toJson : α → Json} {ofJson? : Json → Option α} (h : Faithful toJson ofJson?) :
    Faithful (ofMap toJson) (map? ofJson?) where
  integral m := integral_record_iff.2 fun f hf => by
    obtain ⟨e, -, rfl⟩ := List.mem_map.1 hf
    exact h.integral e.2
  read m := by
    simp only [map?, ofMap, record, List.map_map]
    rw [mapM_map fun e => by simp [h.read]]
    exact congrArg some (NameMap.ofList_entries m)

/-! ## Records and alternatives -/

/-- a field of a record without repeated names is found under its name -/
theorem field?_record {fields : List (String × Json)} (h : (fields.map Prod.fst).Nodup) {f : String × Json}
    (hf : f ∈ fields) : field? f.1 (fields.map fun f => (some f.1, f.2)) = some (some f.2) := by
  have hfilter : (fields.map fun f => ((some f.1 : Content), f.2)).filter (·.1 == some f.1) = [(some f.1, f.2)] := by
    induction fields with
    | nil => cases hf
    | cons g fields ih =>
      obtain ⟨hg, hrest⟩ := List.nodup_cons.1 h
      rcases List.mem_cons.1 hf with rfl | hmem
      · have hnone : (fields.map fun f => ((some f.1 : Content), f.2)).filter (·.1 == some f.1) = [] := by
          rw [List.filter_eq_nil_iff]
          rintro e he hname
          obtain ⟨d, hd, rfl⟩ := List.mem_map.1 he
          have hsame : d.1 = f.1 := by simpa using hname
          exact hg (hsame ▸ List.mem_map_of_mem hd)
        simp [hnone]
      · have hne : g.1 ≠ f.1 := fun heq => hg (heq ▸ List.mem_map_of_mem hmem)
        simpa [hne] using ih hrest hmem
  rw [field?, hfilter]

/-- the fields of a record without repeated names, in order -/
theorem fields?_record (fields : List (String × Json)) (h : (fields.map Prod.fst).Nodup) :
    (record fields).fields? (fields.map Prod.fst) = some (fields.map fun f => some f.2) := by
  have hfound (some? : List (String × Json)) (hsub : some? ⊆ fields) :
      (some?.map Prod.fst).mapM (fun n => field? n (fields.map fun f => (some f.1, f.2))) =
        some (some?.map fun f => some f.2) := by
    induction some? with
    | nil => rfl
    | cons f more ih =>
      have hf := field?_record h (hsub List.mem_cons_self)
      have hmore := ih fun g hg => hsub (List.mem_cons_of_mem f hg)
      simp [hf, hmore]
  rw [record, fields?, if_pos (by simp), hfound fields (List.Subset.refl fields)]

end Json

/-! ## Code -/

theorem Operator.faithful : Json.Faithful toJson ofJson? where
  integral op := by cases op <;> exact Json.integral_text _
  read op := by cases op <;> rfl

theorem StackOp.faithful : Json.Faithful toJson ofJson? where
  integral op := by cases op <;> simp [toJson, Operator.faithful.integral]
  read op := by cases op <;> simp [toJson, ofJson?, Json.isBare, Operator.faithful.read]

theorem Instr.faithful : Json.Faithful toJson ofJson? where
  integral i := by cases i <;> simp [toJson, Operator.faithful.integral]
  read i := by cases i <;> simp [toJson, ofJson?, Operator.faithful.read]

theorem Body.faithful : Json.Faithful toJson ofJson? where
  integral b := by simp [toJson, Instr.faithful.integral]
  read b := by
    have hfields : b.toJson.fields? ["symbol", "arity", "code"] = _ := Json.fields?_record _ (by simp)
    rw [ofJson?, hfields]
    simp [Instr.faithful.list.read b.code]

theorem Environment.faithful : Json.Faithful toJson ofJson? where
  integral e := by simp [toJson]
  read e := by
    have hfields : e.toJson.fields? ["symbol", "function", "arity"] = _ := Json.fields?_record _ (by simp)
    rw [ofJson?, hfields]
    simp

theorem Module.faithful : Json.Faithful toJson ofJson? where
  integral m := by simp [toJson, Json.texts, Body.faithful.integral, Environment.faithful.integral]
  read m := by
    have hfields : m.toJson.fields? ["name", "declared", "functions", "environments"] = _ :=
      Json.fields?_record _ (by simp)
    rw [ofJson?, hfields]
    simp [Json.texts, Json.faithful_text.list.read m.declared.names, Body.faithful.list.read m.functions,
      Environment.faithful.list.read m.environments, NameSet.ofNames_names]

theorem Library.faithful : Json.Faithful toJson ofJson? where
  integral l := by simp [toJson, Module.faithful.integral]
  read l := by
    have hfields : l.toJson.fields? ["name", "modules", "finalized", "verify_declared_symbols"] = _ :=
      Json.fields?_record _ (by simp)
    rw [ofJson?, hfields]
    simp [Module.faithful.list.read l.modules]

/-! ## Requests -/

theorem Signature.ofList?_params (s : Signature) : ofList? s.params = some s := dif_pos s.bounded

theorem Signature.faithful : Json.Faithful toJson ofJson? where
  integral s := by simp [toJson, Json.texts]
  read s := by
    have hfields : s.toJson.fields? ["args"] = _ := Json.fields?_record _ (by simp)
    rw [ofJson?, hfields]
    simp [Json.texts, Json.faithful_text.list.read s.params, ofList?_params]

theorem Routine.faithful : Json.Faithful toJson ofJson? where
  integral f := by simp [toJson, Signature.faithful.integral, StackOp.faithful.integral]
  read f := by
    have hfields : f.toJson.fields? ["name", "qualified_name", "signature", "bytecode"] = _ :=
      Json.fields?_record _ (by simp)
    rw [ofJson?, hfields]
    simp [Signature.faithful.read, StackOp.faithful.list.read f.body]

theorem Address.faithful : Json.Faithful toJson ofJson? where
  integral a := Json.integral_word a.val
  read a := by simp [toJson, ofJson?]

theorem Artifact.faithful : Json.Faithful toJson ofJson? where
  integral a := by simp [toJson, Address.faithful.integral]
  read a := by
    have hfields : a.toJson.fields? ["function_pointer", "symbol_name"] = _ := Json.fields?_record _ (by simp)
    rw [ofJson?, hfields]
    simp [Address.faithful.read]

theorem Metadata.Value.faithful : Json.Faithful toJson ofJson? where
  integral v := by cases v <;> simp [toJson, Address.faithful.integral]
  read v := by cases v <;> simp [toJson, ofJson?, Address.faithful.read]

theorem Metadata.faithful : Json.Faithful toJson ofJson? where
  integral m := by simp [toJson, Metadata.Value.faithful.map.integral m]
  read m := by
    have hfields : m.toJson.fields? ["entries"] = _ := Json.fields?_record _ (by simp)
    rw [ofJson?, hfields]
    simp [Metadata.Value.faithful.map.read m]

theorem Settings.faithful : Json.Faithful toJson ofJson? where
  integral s := by simp [toJson]
  read s := by
    have hfields : s.toJson.fields? ["use_mlir", "no_compile"] = _ := Json.fields?_record _ (by simp)
    rw [ofJson?, hfields]
    simp

/-! ## Everything that is written -/

/-- **Reading undoes writing**, for every value of every type with a JSON form, whatever its strings and numbers: the
compact text of a value is read back as that value. The dump of a library, which is indented, is read back as the
library too, so libraries with the same dump are the same. -/
theorem reading_undoes_writing :
    (∀ x : Operator, (Json.parse? x.toJson.compact).bind Operator.ofJson? = some x) ∧
    (∀ x : StackOp, (Json.parse? x.toJson.compact).bind StackOp.ofJson? = some x) ∧
    (∀ x : Signature, (Json.parse? x.toJson.compact).bind Signature.ofJson? = some x) ∧
    (∀ x : Routine, (Json.parse? x.toJson.compact).bind Routine.ofJson? = some x) ∧
    (∀ x : Artifact, (Json.parse? x.toJson.compact).bind Artifact.ofJson? = some x) ∧
    (∀ x : Metadata.Value, (Json.parse? x.toJson.compact).bind Metadata.Value.ofJson? = some x) ∧
    (∀ x : Metadata, (Json.parse? (Metadata.toJson x).compact).bind Metadata.ofJson? = some x) ∧
    (∀ x : Instr, (Json.parse? x.toJson.compact).bind Instr.ofJson? = some x) ∧
    (∀ x : Body, (Json.parse? x.toJson.compact).bind Body.ofJson? = some x) ∧
    (∀ x : Environment, (Json.parse? x.toJson.compact).bind Environment.ofJson? = some x) ∧
    (∀ x : Module, (Json.parse? x.toJson.compact).bind Module.ofJson? = some x) ∧
    (∀ x : Library, (Json.parse? x.toJson.compact).bind Library.ofJson? = some x) ∧
    (∀ x : Settings, (Json.parse? x.toJson.compact).bind Settings.ofJson? = some x) ∧
    (∀ l : Library, (Json.parse? l.dump).bind Library.ofJson? = some l) ∧
    ∀ l l' : Library, l.dump = l'.dump ↔ l = l' := by
  refine ⟨Operator.faithful.parse_compact, StackOp.faithful.parse_compact, Signature.faithful.parse_compact,
    Routine.faithful.parse_compact, Artifact.faithful.parse_compact, Metadata.Value.faithful.parse_compact,
    Metadata.faithful.parse_compact, Instr.faithful.parse_compact, Body.faithful.parse_compact,
    Environment.faithful.parse_compact, Module.faithful.parse_compact, Library.faithful.parse_compact,
    Settings.faithful.parse_compact, Library.faithful.parse_indented, ?_⟩
  intro l l'
  refine ⟨fun hdump => ?_, fun h => by rw [h]⟩
  have hl : (Json.parse? l.dump).bind Library.ofJson? = some l := Library.faithful.parse_indented l
  have hl' : (Json.parse? l'.dump).bind Library.ofJson? = some l' := Library.faithful.parse_indented l'
  rw [hdump, hl'] at hl
  exact (Option.some.inj hl).symm

-- quote, line feed and a control character without a letter of its own
example : (Metadata.Value.str "\"\n\x01").toJson.compact = "\x7b\"Str\":\"\\\"\\n\\u0001\"\x7d" := by decide

end Graft
