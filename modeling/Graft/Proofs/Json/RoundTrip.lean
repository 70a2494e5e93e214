/-
Values whose numbers are integers are read back from both layouts.

Between values and texts stand the tokens of a value (`Json.tokens`). The reader gives back the value whose tokens it
gets (`ofTokens?_tokens`), wherever in an open array or object it is. Both layouts spell these tokens, the compact one
(`spells_tokens`) and the indented one at every depth (`spells_indent`); they differ in white space only.

Main results: `parse?_compact` and `parse?_indented`. A number with a fraction is kept by its spelling, and nothing says
that an arbitrary spelling is a numeral: hence `Integral`.
-/
import Mathlib.Tactic
import Graft.Json.Reader
import Graft.Proofs.Json.Lexing

namespace Graft.Json

/-- every number in the value is an integer -/
inductive Integral : Json → Prop
  | null : Integral .null
  | bool (b : Bool) : Integral (.bool b)
  | int (n : Int) : Integral (.int n)
  | str (content : Content) : Integral (.str content)
  | arr {items : List Json} (h : ∀ v ∈ items, Integral v) : Integral (.arr items)
  | obj {fields : List (Content × Json)} (h : ∀ f ∈ fields, Integral f.2) : Integral (.obj fields)

/-! ## From tokens to the value -/

/-- the reader after the tokens -/
def Reader.run (r : Reader) (ts : List Token) : Option Reader := ts.foldlM Reader.step r

/-- one token, where the reader's next state is known -/
theorem Reader.run_cons_of_step {r q : Reader} {t : Token} (h : r.step t = some q) (ts : List Token) :
    r.run (t :: ts) = q.run ts := by
  rw [run, List.foldlM_cons, h]
  rfl

open Reader (run_cons_of_step)

/-- the reader gets the value out of its tokens, and puts it where a value was awaited -/
def ReadBack (v : Json) : Prop :=
  ∀ stack rest, (Reader.value stack).run (v.tokens ++ rest) = (Reader.place v stack).run rest

theorem itemTokens_singleton (v : Json) : itemTokens [v] = v.tokens := rfl

theorem itemTokens_cons_cons (v w : Json) (items : List Json) :
    itemTokens (v :: w :: items) = v.tokens ++ .comma :: itemTokens (w :: items) := rfl

theorem fieldTokens_singleton (f : Content × Json) : fieldTokens [f] = .str f.1 :: .colon :: f.2.tokens := rfl

theorem fieldTokens_cons_cons (f g : Content × Json) (fields : List (Content × Json)) :
    fieldTokens (f :: g :: fields) = .str f.1 :: .colon :: (f.2.tokens ++ .comma :: fieldTokens (g :: fields)) := rfl

/-- items up to the end of their array, after those in `got` -/
theorem run_itemTokens (v : Json) (items : List Json) (h : ∀ w ∈ v :: items, ReadBack w) (got : List Json)
    (stack : List Frame) (rest : List Token) :
    (Reader.value (.items got :: stack)).run (itemTokens (v :: items) ++ .closeArr :: rest) =
      (Reader.place (.arr (got.reverse ++ v :: items)) stack).run rest := by
  induction items generalizing v got with
  | nil =>
    rw [itemTokens_singleton, h v List.mem_cons_self,
      run_cons_of_step (q := Reader.place (.arr (v :: got).reverse) stack) rfl, List.reverse_cons]
  | cons w items ih =>
    have hrest := ih w (fun u hu => h u (List.mem_cons_of_mem v hu)) (v :: got)
    rw [itemTokens_cons_cons, List.append_assoc, h v List.mem_cons_self, List.cons_append,
      run_cons_of_step (q := .value (.items (v :: got) :: stack)) rfl, hrest]
    simp

/-- name, colon and value of a field -/
theorem run_field {f : Content × Json} (h : ReadBack f.2) (got : List (Content × Json)) (stack : List Frame)
    (rest : List Token) :
    (Reader.name got stack).run (.str f.1 :: .colon :: (f.2.tokens ++ rest)) =
      (Reader.afterField (f :: got) stack).run rest := by
  rw [run_cons_of_step (q := .colon got f.1 stack) rfl,
    run_cons_of_step (q := .value (.field got f.1 :: stack)) rfl, h]
  rfl

/-- fields up to the end of their object, after those in `got` -/
theorem run_fieldTokens (f : Content × Json) (fields : List (Content × Json)) (h : ∀ g ∈ f :: fields, ReadBack g.2)
    (got : List (Content × Json)) (stack : List Frame) (rest : List Token) :
    (Reader.name got stack).run (fieldTokens (f :: fields) ++ .closeObj :: rest) =
      (Reader.place (.obj (got.reverse ++ f :: fields)) stack).run rest := by
  induction fields generalizing f got with
  | nil =>
    rw [fieldTokens_singleton, List.cons_append, List.cons_append, run_field (h f List.mem_cons_self),
      run_cons_of_step (q := Reader.place (.obj (f :: got).reverse) stack) rfl, List.reverse_cons]
  | cons g fields ih =>
    have hrest := ih g (fun u hu => h u (List.mem_cons_of_mem f hu)) (f :: got)
    have htokens : fieldTokens (f :: g :: fields) ++ .closeObj :: rest =
        .str f.1 :: .colon :: (f.2.tokens ++ .comma :: (fieldTokens (g :: fields) ++ .closeObj :: rest)) := by
      simp [fieldTokens_cons_cons]
    rw [htokens, run_field (h f List.mem_cons_self), run_cons_of_step (q := .name (f :: got) stack) rfl, hrest]
    simp

/-- a value begins with a token that does not end an array -/
theorem exists_tokens_eq_cons (v : Json) :
    ∃ t ts, v.tokens = t :: ts ∧ ∀ stack, (Reader.items stack).step t = (Reader.value (.items [] :: stack)).step t := by
  cases v with
  | null => exact ⟨_, _, rfl, fun _ => rfl⟩
  | bool b => exact ⟨_, _, rfl, fun _ => rfl⟩
  | int n => exact ⟨_, _, rfl, fun _ => rfl⟩
  | real r => exact ⟨_, _, rfl, fun _ => rfl⟩
  | str s => exact ⟨_, _, rfl, fun _ => rfl⟩
  | arr items => exact ⟨_, _, rfl, fun _ => rfl⟩
  | obj fields => exact ⟨_, _, rfl, fun _ => rfl⟩

/-- the first item of an array is read as a further one would be -/
theorem run_firstItem (v : Json) (items : List Json) (stack : List Frame) (rest : List Token) :
    (Reader.items stack).run (itemTokens (v :: items) ++ rest) =
      (Reader.value (.items [] :: stack)).run (itemTokens (v :: items) ++ rest) := by
  obtain ⟨t, ts, htokens, hfirst⟩ := exists_tokens_eq_cons v
  obtain ⟨us, hus⟩ : ∃ us, itemTokens (v :: items) = t :: us := by
    cases items with
    | nil => exact ⟨ts, htokens⟩
    | cons w items => exact ⟨_, by rw [itemTokens_cons_cons, htokens, List.cons_append]⟩
  rw [hus, List.cons_append, Reader.run, Reader.run, List.foldlM_cons, List.foldlM_cons, hfirst]

/-- the first name of an object is read as a further one would be -/
theorem run_firstField (f : Content × Json) (fields : List (Content × Json)) (stack : List Frame) (rest : List Token) :
    (Reader.fields stack).run (fieldTokens (f :: fields) ++ rest) =
      (Reader.name [] stack).run (fieldTokens (f :: fields) ++ rest) := by
  obtain ⟨us, hus⟩ : ∃ us, fieldTokens (f :: fields) = .str f.1 :: us := by cases fields <;> exact ⟨_, rfl⟩
  rw [hus]
  rfl

theorem readBack_of_integral {v : Json} (h : Integral v) : ReadBack v := by
  induction h with
  | null => exact fun _ _ => rfl
  | bool b => exact fun _ _ => rfl
  | int n => exact fun _ _ => rfl
  | str content => exact fun _ _ => rfl
  | @arr items _ ih =>
    intro stack rest
    cases items with
    | nil => rfl
    | cons v items =>
      have htokens : (Json.arr (v :: items)).tokens ++ rest =
          .openArr :: (itemTokens (v :: items) ++ .closeArr :: rest) := by
        simp [tokens]
      rw [htokens, run_cons_of_step (q := .items stack) rfl, run_firstItem, run_itemTokens v items ih]
      rfl
  | @obj fields _ ih =>
    intro stack rest
    cases fields with
    | nil => rfl
    | cons f fields =>
      have htokens : (Json.obj (f :: fields)).tokens ++ rest =
          .openObj :: (fieldTokens (f :: fields) ++ .closeObj :: rest) := by
        simp [tokens]
      rw [htokens, run_cons_of_step (q := .fields stack) rfl, run_firstField, run_fieldTokens f fields ih]
      rfl

/-- **From tokens to the value.** The tokens of a value spell that value. -/
theorem ofTokens?_tokens {v : Json} (h : Integral v) : ofTokens? v.tokens = some v := by
  have hrun := readBack_of_integral h [] []
  rw [List.append_nil] at hrun
  have hcomplete : v.tokens.foldlM Reader.step (.value []) = some (.complete v) := hrun
  rw [ofTokens?, hcomplete]
  rfl

/-! ## Pieces with commas between them -/

theorem isMark_comma : Token.IsMark .comma := by simp [Token.IsMark]

theorem isMark_colon : Token.IsMark .colon := by simp [Token.IsMark]

theorem isMark_openArr : Token.IsMark .openArr := by simp [Token.IsMark]

theorem isMark_openObj : Token.IsMark .openObj := by simp [Token.IsMark]

theorem isMark_closeArr : Token.IsMark .closeArr := by simp [Token.IsMark]

theorem isMark_closeObj : Token.IsMark .closeObj := by simp [Token.IsMark]

theorem spells_mark {t : Token} (ht : t.IsMark) : Spells t.write [t] := by
  simpa using Spells.mark ht spells_nil

/-- what is written piece by piece with `sep` in between -/
theorem eq_intercalate {α β : Type} {sep : List β} {f : α → List β} {g : List α → List β} (hnil : g [] = [])
    (hone : ∀ x, g [x] = f x) (hcons : ∀ x y xs, g (x :: y :: xs) = f x ++ (sep ++ g (y :: xs))) (xs : List α) :
    g xs = sep.intercalate (xs.map f) := by
  induction xs with
  | nil => exact hnil
  | cons x xs ih =>
    cases xs with
    | nil => rw [hone, List.map_singleton, List.intercalate_singleton]
    | cons y xs =>
      rw [hcons, ih, ← List.append_assoc]
      exact List.intercalate_cons_cons.symm

theorem itemTokens_eq (items : List Json) : itemTokens items = [Token.comma].intercalate (items.map tokens) :=
  eq_intercalate rfl (fun _ => rfl) (fun _ _ _ => rfl) items

theorem fieldTokens_eq (fields : List (Content × Json)) :
    fieldTokens fields = [Token.comma].intercalate (fields.map fun f => .str f.1 :: .colon :: f.2.tokens) :=
  eq_intercalate rfl (fun _ => rfl) (fun _ _ _ => rfl) fields

/-- Pieces that each spell their tokens do so with commas in between, up to a text that cannot go on with the last. -/
theorem spells_intercalate {α : Type} {text : α → List Char} {toks : α → List Token} {xs : List α}
    (h : ∀ x ∈ xs, Spells (text x) (toks x)) {ds : List Char} {us : List Token} (hd : Spells ds us)
    (hends : ∀ rest, EndsToken (ds ++ rest)) :
    Spells ([','].intercalate (xs.map text) ++ ds) ([Token.comma].intercalate (xs.map toks) ++ us) := by
  induction xs with
  | nil => exact hd
  | cons x xs ih =>
    have hx := h x List.mem_cons_self
    cases xs with
    | nil =>
      simp only [List.map_cons, List.map_nil, List.intercalate_singleton]
      exact hx.append hd hends
    | cons y xs =>
      have hrest := (ih fun z hz => h z (List.mem_cons_of_mem x hz)).mark isMark_comma
      simp only [List.map_cons, List.intercalate_cons_cons, List.append_assoc]
      exact hx.append hrest (endsToken_mark isMark_comma _)

/-- name, colon and value of a field -/
theorem spells_field (name : Content) {cs : List Char} {ts : List Token} (h : Spells cs ts) :
    Spells (writeContent name ++ ':' :: cs) (.str name :: .colon :: ts) :=
  (spells_str name).append (h.mark isMark_colon) (endsToken_mark isMark_colon _)

/-! ## From the value to a text, compact -/

/-- what is written for the tokens -/
def written (ts : List Token) : List Char := ts.flatMap Token.write

theorem written_singleton (t : Token) : written [t] = t.write := List.append_nil _

theorem written_cons (t : Token) (ts : List Token) : written (t :: ts) = t.write ++ written ts := List.flatMap_cons

theorem written_append (ts us : List Token) : written (ts ++ us) = written ts ++ written us := List.flatMap_append

theorem written_itemTokens (items : List Json) :
    written (itemTokens items) = [','].intercalate (items.map fun v => written v.tokens) :=
  eq_intercalate (g := fun items => written (itemTokens items)) rfl (fun _ => rfl)
    (fun v w items => written_append v.tokens (.comma :: itemTokens (w :: items))) items

theorem written_fieldTokens (fields : List (Content × Json)) : written (fieldTokens fields) =
    [','].intercalate (fields.map fun f => writeContent f.1 ++ ':' :: written f.2.tokens) :=
  eq_intercalate (g := fun fields => written (fieldTokens fields)) rfl (fun _ => rfl)
    (fun f g fields => written_append (.str f.1 :: .colon :: f.2.tokens) (.comma :: fieldTokens (g :: fields))) fields

/-- **The compact layout** spells the tokens of the value. -/
theorem spells_tokens {v : Json} (h : Integral v) : Spells (written v.tokens) v.tokens := by
  induction h with
  | null => exact written_singleton _ ▸ spells_null
  | bool b => exact written_singleton _ ▸ spells_bool b
  | int n => exact written_singleton _ ▸ spells_int n
  | str content => exact written_singleton _ ▸ spells_str content
  | @arr items _ ih =>
    have hitems := spells_intercalate ih (spells_mark isMark_closeArr) (endsToken_mark isMark_closeArr [])
    rw [← written_itemTokens, ← itemTokens_eq] at hitems
    rw [tokens, List.cons_append, written_cons, written_append, written_singleton]
    exact hitems.mark isMark_openArr
  | @obj fields _ ih =>
    have hfields := spells_intercalate (fun f hf => spells_field f.1 (ih f hf)) (spells_mark isMark_closeObj)
      (endsToken_mark isMark_closeObj [])
    rw [← written_fieldTokens, ← fieldTokens_eq] at hfields
    rw [tokens, List.cons_append, written_cons, written_append, written_singleton]
    exact hfields.mark isMark_openObj

/-! ## From the value to a text, indented -/

theorem Spells.newLine {cs : List Char} {ts : List Token} (h : Spells cs ts) (depth : Nat) :
    Spells (newLine depth ++ cs) ts := by
  have hblanks (n : Nat) : Spells (List.replicate n ' ' ++ cs) ts := by
    induction n with
    | zero => exact h
    | succ n ih => exact ih.blank (Or.inl rfl)
  exact (hblanks (2 * depth)).blank (Or.inr rfl)

theorem endsToken_newLine (depth : Nat) (cs rest : List Char) : EndsToken (newLine depth ++ cs ++ rest) :=
  endsToken_cons rfl rfl _

theorem indentItems_eq (depth : Nat) (items : List Json) :
    indentItems depth items = [','].intercalate (items.map fun v => newLine depth ++ v.indent depth) :=
  eq_intercalate rfl (fun _ => rfl) (fun _ _ _ => rfl) items

theorem indentFields_eq (depth : Nat) (fields : List (Content × Json)) : indentFields depth fields =
    [','].intercalate (fields.map fun f => newLine depth ++ (writeContent f.1 ++ ':' :: ' ' :: f.2.indent depth)) := by
  refine eq_intercalate rfl (fun f => ?_) (fun f g fields => ?_) fields
  · exact List.append_assoc ..
  · rw [← List.append_assoc (newLine depth)]
    rfl

theorem indent_arr_cons (depth : Nat) (v : Json) (items : List Json) :
    (Json.arr (v :: items)).indent depth = '[' :: indentItems (depth + 1) (v :: items) ++ newLine depth ++ [']'] := rfl

theorem indent_obj_cons (depth : Nat) (f : Content × Json) (fields : List (Content × Json)) :
    (Json.obj (f :: fields)).indent depth =
      '\x7b' :: indentFields (depth + 1) (f :: fields) ++ newLine depth ++ ['\x7d'] := rfl

/-- **The indented layout** spells the tokens of the value, at every depth. -/
theorem spells_indent {v : Json} (h : Integral v) (depth : Nat) : Spells (v.indent depth) v.tokens := by
  induction h generalizing depth with
  | null => exact spells_null
  | bool b => exact spells_bool b
  | int n => exact spells_int n
  | str content => exact spells_str content
  | @arr items _ ih =>
    cases items with
    | nil => exact (spells_mark isMark_closeArr).mark isMark_openArr
    | cons v items =>
      have hclose := (spells_mark isMark_closeArr).newLine depth
      have hitems := spells_intercalate (fun w hw => (ih w hw (depth + 1)).newLine (depth + 1)) hclose
        (endsToken_newLine depth _)
      rw [← indentItems_eq, ← itemTokens_eq] at hitems
      rw [indent_arr_cons, tokens, List.append_assoc, List.cons_append, List.cons_append]
      exact hitems.mark isMark_openArr
  | @obj fields _ ih =>
    cases fields with
    | nil => exact (spells_mark isMark_closeObj).mark isMark_openObj
    | cons f fields =>
      have hclose := (spells_mark isMark_closeObj).newLine depth
      -- the blank after the colon is the only white space within a field
      have hfield (g : Content × Json) (hg : g ∈ f :: fields) :=
        (spells_field g.1 ((ih g hg (depth + 1)).blank (c := ' ') (Or.inl rfl))).newLine (depth + 1)
      have hfields := spells_intercalate hfield hclose (endsToken_newLine depth _)
      rw [← indentFields_eq, ← fieldTokens_eq] at hfields
      rw [indent_obj_cons, tokens, List.append_assoc, List.cons_append, List.cons_append]
      exact hfields.mark isMark_openObj

/-! ## From texts to the value -/

/-- a text that spells the tokens of a value spells the value -/
theorem parse?_of_spells {v : Json} (h : Integral v) {cs : List Char} (hcs : Spells cs v.tokens) :
    parse? (String.ofList cs) = some v := by
  rw [parse?, String.toList_ofList, lex_of_spells hcs]
  exact ofTokens?_tokens h

theorem parse?_compact {v : Json} (h : Integral v) : parse? v.compact = some v := parse?_of_spells h (spells_tokens h)

theorem parse?_indented {v : Json} (h : Integral v) : parse? v.indented = some v :=
  parse?_of_spells h (spells_indent h 0)

end Graft.Json
