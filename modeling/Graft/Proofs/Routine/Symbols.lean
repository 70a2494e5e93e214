/-
Symbols of routines: when two of them are the same.

A body symbol ends with the arity after its last underscore, and a numeral has no underscore in it. So the symbol tells
the arity and the name as it stands in symbols, whatever underscores and digits that name has (`symbol_eq_iff`). Such a
name tells the shown name unless there are `$` in it (`pointed_linkName`). This is `symbol_separates`.

An environment symbol begins like a body symbol, with `env_` where that has the name. Nothing keeps a routine from going
by a name that begins in the same way, so the two kinds of symbols can meet (`addTwo_environmentSymbol`). The underscore
of `env_` is then the one before the arity, or stands in the name (`mark_append_eq_iff`); `environmentSymbol_clash`
lists all such pairs.
-/
import Mathlib.Tactic
import Graft.Routine

namespace Graft

/-! ## Numbered names -/

theorem isDigit_of_mem_numeral {n : Nat} {c : Char} (h : c ∈ (toString n).toList) : c.isDigit = true := by
  rw [Nat.toString_eq_repr, Nat.toList_repr] at h
  exact Nat.isDigit_of_mem_toDigits (by decide) (by decide) h

theorem underscore_notMem_numeral (n : Nat) : '_' ∉ (toString n).toList := by
  intro hmem
  exact absurd (isDigit_of_mem_numeral hmem) (by decide)

/-- a numeral tells its number -/
theorem eq_of_numeral_eq {m n : Nat} (h : toString m = toString n) : m = n := by
  have hdigits : Nat.toDigits 10 m = Nat.toDigits 10 n := by
    rw [← Nat.toList_repr, ← Nat.toList_repr, ← Nat.toString_eq_repr, ← Nat.toString_eq_repr, h]
  calc m = Nat.ofDigitChars 10 (Nat.toDigits 10 m) 0 := Nat.ofDigitChars_ten_toDigits.symm
    _ = Nat.ofDigitChars 10 (Nat.toDigits 10 n) 0 := by rw [hdigits]
    _ = n := Nat.ofDigitChars_ten_toDigits

/-- what follows the last separator, read from the end -/
theorem takeWhile_reverse_split {c : Char} {after : List Char} (h : c ∉ after) (before : List Char) :
    (before ++ c :: after).reverse.takeWhile (· ≠ c) = after.reverse := by
  have hne : ∀ d ∈ after.reverse, decide (d ≠ c) = true := by
    intro d hd
    have : d ≠ c := fun heq => h (heq ▸ List.mem_reverse.1 hd)
    simpa using this
  rw [List.reverse_append, List.reverse_cons, List.append_assoc, List.takeWhile_append_of_pos hne]
  simp

/-- two texts that are the same are split alike at their last separator -/
theorem split_inj {c : Char} {before before' after after' : List Char} (h : c ∉ after) (h' : c ∉ after')
    (heq : before ++ c :: after = before' ++ c :: after') : before = before' ∧ after = after' := by
  have hafter : after = after' := by
    apply List.reverse_injective
    rw [← takeWhile_reverse_split h before, heq, takeWhile_reverse_split h']
  rw [hafter] at heq
  exact ⟨List.append_cancel_right heq, hafter⟩

theorem toList_numbered (name : String) (n : Nat) :
    (name ++ "_" ++ toString n).toList = name.toList ++ '_' :: (toString n).toList := by
  simp

/-- a name with a number after it tells both -/
theorem numbered_inj {s t : String} {m n : Nat} (h : s ++ "_" ++ toString m = t ++ "_" ++ toString n) :
    s = t ∧ m = n := by
  have hlist : s.toList ++ '_' :: (toString m).toList = t.toList ++ '_' :: (toString n).toList := by
    rw [← toList_numbered, ← toList_numbered, h]
  obtain ⟨hname, hnumeral⟩ := split_inj (underscore_notMem_numeral m) (underscore_notMem_numeral n) hlist
  exact ⟨String.toList_inj.1 hname, eq_of_numeral_eq (String.toList_inj.1 hnumeral)⟩

namespace Routine

/-! ## Body symbols -/

theorem symbol_eq_iff (f g : Routine) : f.symbol = g.symbol ↔ f.arity = g.arity ∧ f.linkName = g.linkName := by
  constructor
  · intro h
    obtain ⟨hname, harity⟩ := numbered_inj h
    exact ⟨UInt64.toNat_inj.1 harity, (String.append_right_inj _).1 hname⟩
  · intro ⟨harity, hname⟩
    unfold symbol
    rw [hname, harity]

/-- with its `$` turned back into points, the name in symbols is the shown name, if that has no `$` itself -/
theorem pointed_linkName {f : Routine} (h : '$' ∉ f.shownName.toList) :
    (f.linkName.map fun c => if c = '$' then '.' else c) = f.shownName := by
  have hback : ∀ c ∈ f.shownName.toList,
      ((fun c => if c = '$' then '.' else c) ∘ fun c => if c = '.' then '$' else c) c = id c := by
    intro c hc
    have hne : c ≠ '$' := fun heq => h (heq ▸ hc)
    by_cases hpoint : c = '.'
    · simp [hpoint]
    · simp [hpoint, hne]
  rw [← String.toList_inj, linkName, String.toList_map, String.toList_map, List.map_map, List.map_congr_left hback,
    List.map_id]

theorem linkName_eq_iff {f g : Routine} (hf : '$' ∉ f.shownName.toList) (hg : '$' ∉ g.shownName.toList) :
    f.linkName = g.linkName ↔ f.shownName = g.shownName := by
  constructor
  · intro h
    rw [← pointed_linkName hf, h, pointed_linkName hg]
  · intro h
    rw [linkName, linkName, h]

/-- **Body symbols separate routines.** Two routines have the same body symbol exactly when they have the same arity and
their shown names become the same once every point is a `$`. So among names without `$` the symbol tells the shown name
and the arity, whatever underscores and digits there are in the names. -/
theorem symbol_separates (f g : Routine) :
    (f.symbol = g.symbol ↔
      f.arity = g.arity ∧ (f.shownName.map fun c => if c = '.' then '$' else c) =
        g.shownName.map fun c => if c = '.' then '$' else c) ∧
    ('$' ∉ f.shownName.toList → '$' ∉ g.shownName.toList →
      (f.symbol = g.symbol ↔ f.shownName = g.shownName ∧ f.arity = g.arity)) := by
  refine ⟨symbol_eq_iff f g, ?_⟩
  intro hf hg
  rw [symbol_eq_iff, linkName_eq_iff hf hg, and_comm]

/-! ## Environment symbols -/

/-- where the mark of environments meets the separator of the number: the name is the mark, or begins with it -/
theorem mark_append_eq_iff (s name : String) (n : Nat) :
    "env_" ++ s = name ++ "_" ++ toString n ↔
      name = "env" ∧ s = toString n ∨ ∃ rest, name = "env_" ++ rest ∧ s = rest ++ "_" ++ toString n := by
  constructor
  · intro h
    have hlist : "env".toList ++ '_' :: s.toList = name.toList ++ '_' :: (toString n).toList := by
      rw [← toList_numbered, ← h]
      simp
    rcases List.append_eq_append_iff.1 hlist with ⟨rest, hname, hs⟩ | ⟨rest, henv, hs⟩
    · cases rest with
      | nil =>
        rw [List.append_nil] at hname
        exact Or.inl ⟨String.toList_inj.1 hname, String.toList_inj.1 (List.cons.inj hs).2⟩
      | cons c rest =>
        obtain ⟨rfl, htail⟩ := List.cons.inj hs
        refine Or.inr ⟨String.ofList rest, ?_, ?_⟩
        · rw [← String.toList_inj, hname]
          simp
        · rw [← String.toList_inj, toList_numbered, String.toList_ofList]
          exact htail
    · cases rest with
      | nil =>
        rw [List.append_nil] at henv
        exact Or.inl ⟨String.toList_inj.1 henv.symm, String.toList_inj.1 (List.cons.inj hs).2.symm⟩
      | cons c rest =>
        -- the separator would have to stand within the mark
        obtain ⟨rfl, -⟩ := List.cons.inj hs
        have hmem : '_' ∈ "env".toList := by simp [henv]
        exact absurd hmem (by decide)
  · rintro (⟨rfl, rfl⟩ | ⟨rest, rfl, rfl⟩)
    · rfl
    · simp only [String.append_assoc]

/-- no routine has one symbol for both: its environment symbol has an `e` more than its body symbol -/
theorem environmentSymbol_ne_symbol (f : Routine) : f.environmentSymbol ≠ f.symbol := by
  intro h
  have hnumeral : (toString f.arity.toNat).toList.count 'e' = 0 := by
    apply List.count_eq_zero_of_not_mem
    intro hmem
    exact absurd (isDigit_of_mem_numeral hmem) (by decide)
  have hcount : f.environmentSymbol.toList.count 'e' = f.symbol.toList.count 'e' := by rw [h]
  rw [environmentSymbol, symbol] at hcount
  simp only [String.toList_append, List.count_append, hnumeral] at hcount
  have hmark : "_nlc_env_".toList.count 'e' = 1 := by decide
  have hstart : "_nlc_".toList.count 'e' = 0 := by decide
  have hunderscore : "_".toList.count 'e' = 0 := by decide
  omega

/-- **When an environment symbol is a body symbol too.** The environment symbol of `f` and the body symbol of `g` are
the same exactly when `g` goes by the name `env` and `f` by the arity of `g`, or `g` by `env_` and something, and `f` by
that something, an underscore and the arity of `g`. So no environment object shares its symbol with the body of a
routine whose name neither is `env` nor begins with `env_`; and the two symbols of one routine always differ. -/
theorem environmentSymbol_clash (f g : Routine) :
    (f.environmentSymbol = g.symbol ↔
      g.linkName = "env" ∧ f.linkName = toString g.arity.toNat ∨
        ∃ rest, g.linkName = "env_" ++ rest ∧ f.linkName = rest ++ "_" ++ toString g.arity.toNat) ∧
    f.environmentSymbol ≠ f.symbol := by
  have henv : f.environmentSymbol = "_nlc_" ++ ("env_" ++ f.linkName) := by
    rw [environmentSymbol, ← String.append_assoc]
    rfl
  have hbody : g.symbol = "_nlc_" ++ (g.linkName ++ "_" ++ toString g.arity.toNat) := by
    simp only [symbol, String.append_assoc]
  refine ⟨?_, environmentSymbol_ne_symbol f⟩
  rw [henv, hbody, String.append_right_inj, mark_append_eq_iff]

/-- a routine whose name is the rest of the body symbol of `envAdd` -/
def addTwo : Routine :=
  { name := "add_2", qualifiedName := "", signature := { params := ["start"] },
    body := [.arg 0, .load 2, .binary .add, .ret] }

/-- a routine of two parameters whose name begins with the mark of environments -/
def envAdd : Routine :=
  { name := "env_add", qualifiedName := "", signature := { params := ["summand", "other"] },
    body := [.arg 0, .arg 1, .binary .add, .ret] }

/-- the environment object of one routine and the body of another go by the same symbol -/
theorem addTwo_environmentSymbol : addTwo.environmentSymbol = envAdd.symbol := by
  have hadd : addTwo.linkName = "add_2" := by
    rw [← String.toList_inj, linkName, String.toList_map]
    rfl
  have henv : envAdd.linkName = "env_add" := by
    rw [← String.toList_inj, linkName, String.toList_map]
    rfl
  rw [environmentSymbol, symbol, hadd, henv]
  rfl

end Routine

end Graft
