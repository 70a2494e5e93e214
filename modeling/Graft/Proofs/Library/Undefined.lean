/-
Undefined symbols, exactly and in any order.

Which symbols a library leaves undefined is a question about the set of its modules (`undefinedSymbols_congr`): a symbol
is undefined when some module declares it and no module defines it, wherever these modules stand, whether or not a
module declares what it defines, and however often a symbol is defined. The answer ascends, so it is one list for each
set (`eq_names_iff`). Of the modules finalization looks at nothing else: an open library that verifies is refused for
this list unless it is empty (`result_finalize_eq_undefined`), in any order (`result_finalize_reordered`).

Which body is found for a symbol does depend on the order of the modules. But a module that is added comes last, and so
it takes nothing from the symbols that are defined already (`addModule_keeps_function?`).
-/
import Mathlib.Tactic
import Graft.Proofs.Library.Resolution

namespace Graft

namespace NameSet

/-- the names of a set are the one ascending list of its members -/
theorem eq_names_iff (s : NameSet) (names : List String) :
    names = s.names ↔ names.Pairwise (· < ·) ∧ ∀ name, name ∈ names ↔ name ∈ s.names := by
  constructor
  · intro h
    rw [h]
    exact ⟨s.pairwise_names, fun _ => Iff.rfl⟩
  · intro ⟨hascending, hmem⟩
    exact hascending.eq_of_mem_iff s.pairwise_names hmem

theorem isEmpty_eq_false_iff (s : NameSet) : s.isEmpty = false ↔ s.names ≠ [] := by
  simp [NameMap.isEmpty, NameMap.names]

/-- sets with the same members are equal -/
theorem ext_mem_names {s t : NameSet} (h : ∀ name, name ∈ s.names ↔ name ∈ t.names) : s = t := by
  apply NameMap.ext_find?
  intro name
  have hsome : (s.find? name).isSome ↔ (t.find? name).isSome := by
    rw [← NameMap.mem_names_iff, ← NameMap.mem_names_iff]
    exact h name
  cases hs : s.find? name <;> cases ht : t.find? name <;> simp [hs, ht] at hsome ⊢

end NameSet

namespace Library

variable {l l' : Library}

/-! ## The modules in any order -/

theorem declares_congr (h : ∀ m, m ∈ l'.modules ↔ m ∈ l.modules) (symbol : String) :
    l'.Declares symbol ↔ l.Declares symbol := by
  unfold Declares
  simp only [h]

theorem defines_congr (h : ∀ m, m ∈ l'.modules ↔ m ∈ l.modules) (symbol : String) :
    l'.Defines symbol ↔ l.Defines symbol := by
  unfold Defines
  simp only [h]

/-- libraries of the same modules leave the same symbols undefined -/
theorem undefinedSymbols_congr (h : ∀ m, m ∈ l'.modules ↔ m ∈ l.modules) :
    l'.undefinedSymbols = l.undefinedSymbols := by
  apply NameSet.ext_mem_names
  intro symbol
  rw [mem_undefinedSymbols_iff, mem_undefinedSymbols_iff, declares_congr h, defines_congr h]

/-- an open library that verifies is refused for its undefined symbols, if it has any; every other library is closed -/
theorem result_finalize_eq_undefined (l : Library) :
    finalize.result l =
      if l.finalized = false ∧ l.verifies = true ∧ l.undefinedSymbols.names ≠ [] then
        (.error (.codegen (.undefinedSymbols l.name l.undefinedSymbols.names)), l)
      else (.ok (), { l with finalized := true }) := by
  rw [result_finalize]
  simp only [NameSet.isEmpty_eq_false_iff]

/-- finalization comes to the same in any order of the modules, and leaves them in theirs -/
theorem result_finalize_reordered {modules : List Module} (h : modules.Perm l.modules) :
    finalize.result { l with modules } = ((finalize.result l).1, { (finalize.result l).2 with modules }) := by
  have hsame : undefinedSymbols { l with modules } = l.undefinedSymbols :=
    undefinedSymbols_congr fun _ => h.mem_iff
  rw [result_finalize, result_finalize, hsame]
  dsimp only
  split_ifs
  · rfl
  · rfl

/-! ## A module more -/

/-- a module that is added, or refused, takes no definition away and puts none in its place -/
theorem addModule_keeps_function? {symbol : String} {body : Body} (h : l.function? symbol = some body) (m : Module) :
    ((addModule m).result l).2.function? symbol = some body :=
  (later_after l (.addModule m)).function? h

theorem not_mem_undefinedSymbols {symbol : String} {body : Body} (h : l.function? symbol = some body) :
    symbol ∉ l.undefinedSymbols.names := by
  intro hmem
  obtain ⟨-, hnot⟩ := (mem_undefinedSymbols_iff l symbol).1 hmem
  apply hnot
  rw [← isSome_function?_iff, h]
  rfl

/-- **Undefined symbols, exactly.** (1) For every library, whatever its modules declare and define, the undefined
symbols are the one ascending list of the symbols that some module declares and no module defines. (2) Finalization
refuses an open library that verifies exactly when this list is not empty, reports the list and changes nothing; every
other library it closes. (3) In any order of the modules the list is the same; so finalization comes to the same, down
to the words of the error, and the library keeps its order. (4) A symbol that has a definition keeps it when a module is
added, and does not become undefined. -/
theorem undefinedSymbols_exact (l : Library) :
    (∀ symbols, symbols = l.undefinedSymbols.names ↔
      symbols.Pairwise (· < ·) ∧ ∀ symbol, symbol ∈ symbols ↔
        (∃ m ∈ l.modules, symbol ∈ m.declared.names) ∧ ¬ ∃ m ∈ l.modules, ∃ b ∈ m.functions, b.symbol = symbol) ∧
    (finalize.result l =
      if l.finalized = false ∧ l.verifies = true ∧ l.undefinedSymbols.names ≠ [] then
        (.error (.codegen (.undefinedSymbols l.name l.undefinedSymbols.names)), l)
      else (.ok (), { l with finalized := true })) ∧
    (∀ modules, modules.Perm l.modules →
      (undefinedSymbols { l with modules }).names = l.undefinedSymbols.names ∧
      (finalize.result { l with modules }).1 = (finalize.result l).1 ∧
      (finalize.result { l with modules }).2 = { (finalize.result l).2 with modules }) ∧
    ∀ m symbol body, l.function? symbol = some body →
      ((addModule m).result l).2.function? symbol = some body ∧
      symbol ∉ ((addModule m).result l).2.undefinedSymbols.names := by
  refine ⟨?_, result_finalize_eq_undefined l, ?_, ?_⟩
  · intro symbols
    rw [NameSet.eq_names_iff]
    simp only [mem_undefinedSymbols_iff, Declares, Defines]
  · intro modules hperm
    rw [result_finalize_reordered hperm, undefinedSymbols_congr fun _ => hperm.mem_iff]
    exact ⟨rfl, rfl, rfl⟩
  · intro m symbol body hbody
    have hkept := addModule_keeps_function? hbody m
    exact ⟨hkept, not_mem_undefinedSymbols hkept⟩

-- two modules wait for `b`, one for `a`; `c` is declared by one of them and defined twice by the other
example :
    let body : Body := ⟨"c", 0, [.const 0 1, .ret 0]⟩
    let waiting : Module := ⟨"waiting", NameSet.ofNames ["c", "b"], [], []⟩
    let undeclared : Module := ⟨"undeclared", NameSet.ofNames ["b", "a"], [body, body], []⟩
    (undefinedSymbols ⟨"lib", [waiting, undeclared], false, true⟩).names = ["a", "b"] := rfl

end Library

end Graft
