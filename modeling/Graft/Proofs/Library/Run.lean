/-
Libraries over whole runs.

A run is any list of operations, the refused ones included (`Library.Op`, `Library.run`). `after_cases` says everything
that one operation can do to a library, and what runs keep is derived from it:

- `Later`: what is never taken back. Modules are only added, and once the library is closed not even that; it stays
  closed.
- `Linked`: a closed library that verifies defines every symbol it declares. This holds of a new library, and
  finalization is the only operation that could break it.

`invariant_of_reached` puts them together for the libraries that a run reaches from a new one, with what a refusal
leaves.
-/
import Mathlib.Tactic
import Graft.Proofs.Library.Effect

namespace Graft

/-! ## Declared and defined symbols -/

namespace NameMap

theorem isEmpty_iff {α : Type} (m : NameMap α) : m.isEmpty = true ↔ ∀ name, name ∉ m.names := by
  rw [isEmpty, List.isEmpty_iff, names]
  constructor
  · intro h name
    simp [h]
  · intro h
    rw [← List.map_eq_nil_iff (f := Prod.fst), List.eq_nil_iff_forall_not_mem]
    exact h

end NameMap

namespace NameSet

theorem mem_names_foldl_add (names : List String) (s : NameSet) (name : String) :
    name ∈ (names.foldl add s).names ↔ name ∈ names ∨ name ∈ s.names := by
  induction names generalizing s with
  | nil => simp
  | cons head rest ih =>
    have hadd : name ∈ (s.add head).names ↔ name = head ∨ name ∈ s.names := by
      rw [NameMap.mem_names_iff, NameMap.mem_names_iff, add, NameMap.find?_insert]
      split_ifs with h <;> simp [h]
    rw [List.foldl_cons, ih, hadd, List.mem_cons]
    tauto

theorem mem_names_ofNames (names : List String) (name : String) : name ∈ (ofNames names).names ↔ name ∈ names := by
  rw [ofNames, mem_names_foldl_add]
  simp [NameMap.names, NameMap.empty]

end NameSet

namespace Library

variable {l : Library}

/-- some module declares the symbol -/
def Declares (l : Library) (symbol : String) : Prop := ∃ m ∈ l.modules, symbol ∈ m.declared.names

/-- some module defines the symbol -/
def Defines (l : Library) (symbol : String) : Prop := ∃ m ∈ l.modules, ∃ b ∈ m.functions, b.symbol = symbol

theorem isSome_function?_iff (l : Library) (symbol : String) : (l.function? symbol).isSome ↔ l.Defines symbol := by
  rw [function?, List.findSome?_isSome_iff]
  refine exists_congr fun m => and_congr_right fun _ => ?_
  rw [Module.function?, List.find?_isSome]
  simp

/-- the undefined symbols are those that are declared and not defined -/
theorem mem_undefinedSymbols_iff (l : Library) (symbol : String) :
    symbol ∈ l.undefinedSymbols.names ↔ l.Declares symbol ∧ ¬ l.Defines symbol := by
  rw [undefinedSymbols, NameSet.mem_names_ofNames, List.mem_filter, List.mem_flatMap, ← isSome_function?_iff]
  simp [Declares]

theorem isEmpty_undefinedSymbols_iff (l : Library) :
    l.undefinedSymbols.isEmpty = true ↔ ∀ symbol, l.Declares symbol → l.Defines symbol := by
  rw [NameMap.isEmpty_iff]
  refine forall_congr' fun symbol => ?_
  rw [mem_undefinedSymbols_iff]
  tauto

/-! ## Refusals -/

theorem result_addModule_of_finalized (h : l.finalized = true) (m : Module) :
    (addModule m).result l = (.error (.codegen (.moduleAfterFinalization m.name l.name)), l) := by
  simp [addModule, h]

/-- finalization is refused and changes nothing, or closes the library; an open one that verifies then has no
undefined symbols -/
theorem finalize_cases (l : Library) :
    (∃ e, finalize.result l = (.error e, l)) ∨
      finalize.result l = (.ok (), { l with finalized := true }) ∧
        (l.finalized = false → l.verifies = true → l.undefinedSymbols.isEmpty = true) := by
  rw [result_finalize]
  split_ifs with h
  · exact Or.inl ⟨_, rfl⟩
  · refine Or.inr ⟨rfl, fun hopen hver => ?_⟩
    by_contra hempty
    exact h ⟨hopen, hver, by simpa using hempty⟩

/-- a library that is closed already can be closed -/
theorem result_finalize_of_finalized (h : l.finalized = true) :
    finalize.result l = (.ok (), { l with finalized := true }) := by
  simp [result_finalize, h]

theorem result_executable_of_error {e : Error} (h : finalize.result l = (.error e, l)) (symbol : String)
    (arity : UInt64) (table : SymbolTable) : (executable symbol arity table).result l = (.error e, l) := by
  simp only [executable, Action.result_bind, h]

/-- a library that refuses a module is as it was -/
theorem eq_of_addModule_error {m : Module} {e : Error} {l' : Library} (h : (addModule m).result l = (.error e, l')) :
    l' = l := by
  cases hfin : l.finalized with
  | true =>
    rw [result_addModule_of_finalized hfin] at h
    exact (congrArg Prod.snd h).symm
  | false =>
    rw [result_addModule hfin] at h
    cases h

/-- a library that refuses to be closed is as it was -/
theorem eq_of_finalize_error {e : Error} {l' : Library} (h : finalize.result l = (.error e, l')) : l' = l := by
  rcases finalize_cases l with ⟨e', he⟩ | ⟨hok, -⟩
  · rw [he] at h
    exact (congrArg Prod.snd h).symm
  · rw [hok] at h
    cases h

/-- a refused resolution has changed nothing when finalization was refused, and otherwise has closed the library -/
theorem executable_error_cases {symbol : String} {arity : UInt64} {table : SymbolTable} {e : Error} {l' : Library}
    (h : (executable symbol arity table).result l = (.error e, l')) :
    finalize.result l = (.error e, l) ∧ l' = l ∨
      finalize.result l = (.ok (), { l with finalized := true }) ∧ l' = { l with finalized := true } := by
  rcases finalize_cases l with ⟨e', he⟩ | ⟨hok, -⟩
  · rw [result_executable_of_error he] at h
    cases h
    exact Or.inl ⟨he, rfl⟩
  · rw [result_executable hok] at h
    exact Or.inr ⟨hok, (congrArg Prod.snd h).symm⟩

/-! ## One operation -/

/-- what can be done to a library -/
inductive Op where
  | addModule (m : Module)
  | skipVerification
  | finalize
  | executable (symbol : String) (arity : UInt64) (table : SymbolTable)

/-- the library after an operation, ended or refused -/
def after (l : Library) : Op → Library
  | .addModule m => ((addModule m).result l).2
  | .skipVerification => (skipVerification.result l).2
  | .finalize => (finalize.result l).2
  | .executable symbol arity table => ((executable symbol arity table).result l).2

/-- the library after operations in order -/
def run (l : Library) (ops : List Op) : Library := ops.foldl after l

theorem run_cons (l : Library) (op : Op) (ops : List Op) : run l (op :: ops) = run (l.after op) ops := rfl

/-- resolution does to the library what finalization does -/
theorem after_executable (l : Library) (symbol : String) (arity : UInt64) (table : SymbolTable) :
    l.after (.executable symbol arity table) = l.after .finalize := by
  rcases finalize_cases l with ⟨e, he⟩ | ⟨hok, -⟩
  · simp only [after, result_executable_of_error he, he]
  · simp only [after, result_executable hok, hok]

/-- **Everything an operation can do.** It changes nothing, adds a module to an open library, switches verification off,
or closes a library that has no undefined symbols or does not verify. -/
theorem after_cases (l : Library) (op : Op) :
    l.after op = l ∨
      (∃ m, l.finalized = false ∧ l.after op = { l with modules := l.modules ++ [m] }) ∨
      l.after op = { l with verifies := false } ∨
      l.after op = { l with finalized := true } ∧
        (l.finalized = false → l.verifies = true → l.undefinedSymbols.isEmpty = true) := by
  have hfinalize : l.after .finalize = l ∨ l.after .finalize = { l with finalized := true } ∧
      (l.finalized = false → l.verifies = true → l.undefinedSymbols.isEmpty = true) := by
    rcases finalize_cases l with ⟨e, he⟩ | ⟨hok, hempty⟩
    · exact Or.inl (by rw [after, he])
    · exact Or.inr ⟨by rw [after, hok], hempty⟩
  cases op with
  | addModule m =>
    cases h : l.finalized with
    | true => exact Or.inl (by rw [after, result_addModule_of_finalized h])
    | false => exact Or.inr (Or.inl ⟨m, rfl, by simp only [after, result_addModule h, h]⟩)
  | skipVerification => exact Or.inr (Or.inr (Or.inl (by rw [after, result_skipVerification])))
  | finalize => exact hfinalize.imp_right fun h => Or.inr (Or.inr h)
  | executable symbol arity table =>
    rw [after_executable]
    exact hfinalize.imp_right fun h => Or.inr (Or.inr h)

/-! ## What is never taken back -/

/-- `l'` is a later state of `l` -/
structure Later (l l' : Library) : Prop where
  modules : l.modules <+: l'.modules
  closed : l.finalized = true → l'.finalized = true
  frozen : l.finalized = true → l'.modules = l.modules

theorem Later.refl (l : Library) : Later l l := ⟨List.prefix_refl _, id, fun _ => rfl⟩

theorem Later.trans {l₁ l₂ l₃ : Library} (h : Later l₁ l₂) (h' : Later l₂ l₃) : Later l₁ l₃ where
  modules := h.modules.trans h'.modules
  closed hfin := h'.closed (h.closed hfin)
  frozen hfin := (h'.frozen (h.closed hfin)).trans (h.frozen hfin)

theorem later_after (l : Library) (op : Op) : Later l (l.after op) := by
  rcases after_cases l op with h | ⟨m, hopen, h⟩ | h | ⟨h, -⟩
  · rw [h]
    exact Later.refl l
  · rw [h]
    have hnot : ¬ l.finalized = true := by simp [hopen]
    exact ⟨List.prefix_append _ _, fun hfin => absurd hfin hnot, fun hfin => absurd hfin hnot⟩
  · rw [h]
    exact ⟨List.prefix_refl _, id, fun _ => rfl⟩
  · rw [h]
    exact ⟨List.prefix_refl _, fun _ => rfl, fun _ => rfl⟩

theorem later_run (l : Library) (ops : List Op) : Later l (run l ops) := by
  induction ops generalizing l with
  | nil => exact Later.refl l
  | cons op ops ih =>
    rw [run_cons]
    exact (later_after l op).trans (ih _)

/-! ## Closed libraries that verify -/

/-- closed and still verifying, the library defines what it declares -/
def Linked (l : Library) : Prop :=
  l.finalized = true → l.verifies = true → ∀ symbol, l.Declares symbol → l.Defines symbol

theorem linked_new (name : String) : Linked (new name) := by
  intro hfin
  cases hfin

theorem Linked.after (h : Linked l) (op : Op) : Linked (l.after op) := by
  intro hfin hver
  rcases after_cases l op with hop | ⟨m, hopen, hop⟩ | hop | ⟨hop, hempty⟩
  · rw [hop] at hfin hver ⊢
    exact h hfin hver
  · -- a module was added, so the library is open
    rw [hop] at hfin
    simp [hopen] at hfin
  · rw [hop] at hver
    cases hver
  · rw [hop] at hver ⊢
    cases hopen : l.finalized with
    | true => exact h hopen hver
    | false => exact (isEmpty_undefinedSymbols_iff l).1 (hempty hopen hver)

theorem Linked.run (h : Linked l) (ops : List Op) : Linked (run l ops) := by
  induction ops generalizing l with
  | nil => exact h
  | cons op ops ih => exact ih (h.after op)

/-! ## Libraries that a run reaches -/

/-- some run leads from a new library to this one -/
def Reached (l : Library) : Prop := ∃ name ops, run (new name) ops = l

/-- the two libraries answer alike: bodies, environment objects, undefined symbols and the number of instructions -/
structure SameAnswers (l l' : Library) : Prop where
  function? : ∀ symbol, l.function? symbol = l'.function? symbol
  environment? : ∀ symbol, l.environment? symbol = l'.environment? symbol
  undefinedSymbols : l.undefinedSymbols = l'.undefinedSymbols
  instructionCount : l.instructionCount = l'.instructionCount

/-- nothing but the modules is asked for an answer -/
theorem sameAnswers_of_modules {l l' : Library} (h : l.modules = l'.modules) : l.SameAnswers l' := by
  have hfunction (symbol : String) : l.function? symbol = l'.function? symbol := by rw [function?, function?, h]
  refine ⟨hfunction, fun symbol => ?_, ?_, ?_⟩
  · rw [environment?, environment?, h]
  · simp only [undefinedSymbols, hfunction, h]
  · rw [instructionCount, instructionCount, h]

/-- **Libraries over whole runs.** A library that was reached from a new one by any operations, refused ones included:
(1) if it is closed, it stays closed whatever is done to it, its modules never change again, and so every question about
them has the same answer for ever; (2) if it is closed and still verifies, every symbol that one of its modules declares
is defined by one of its modules; (3) a refused module and a refused finalization leave it exactly as it was, and a
refused resolution does so too when it is finalization that was refused, and otherwise has closed the library and
nothing else. -/
theorem invariant_of_reached {l : Library} (h : l.Reached) :
    (l.finalized = true → ∀ ops, (run l ops).finalized = true ∧ (run l ops).modules = l.modules ∧
      (run l ops).SameAnswers l) ∧
    (l.finalized = true → l.verifies = true →
      ∀ m ∈ l.modules, ∀ symbol ∈ m.declared.names, ∃ m' ∈ l.modules, ∃ b ∈ m'.functions, b.symbol = symbol) ∧
    (∀ m e l', (addModule m).result l = (.error e, l') → l' = l) ∧
    (∀ e l', finalize.result l = (.error e, l') → l' = l) ∧
    ∀ symbol arity table e l', (executable symbol arity table).result l = (.error e, l') →
      finalize.result l = (.error e, l) ∧ l' = l ∨
        finalize.result l = (.ok (), { l with finalized := true }) ∧ l' = { l with finalized := true } := by
  obtain ⟨name, ops, rfl⟩ := h
  refine ⟨?_, ?_, ?_, ?_, ?_⟩
  · intro hfin later
    have hlater := later_run (run (new name) ops) later
    exact ⟨hlater.closed hfin, hlater.frozen hfin, sameAnswers_of_modules (hlater.frozen hfin)⟩
  · intro hfin hver m hm symbol hsymbol
    exact (linked_new name).run ops hfin hver symbol ⟨m, hm, hsymbol⟩
  · intro m e l' hadd
    exact eq_of_addModule_error hadd
  · intro e l' hfinalize
    exact eq_of_finalize_error hfinalize
  · intro symbol arity table e l' hexec
    exact executable_error_cases hexec

/-- a history with three refusals: the library cannot be closed before the declared body is there, nothing binds the
symbol `missing`, and a module comes too late -/
def stagedOps : List Op :=
  [.addModule ((Module.new "lib::caller").declare "callee"), .finalize,
   .addModule ((Module.new "lib::callee").define ⟨"callee", 0, [.const 0 1, .ret 0]⟩),
   .executable "missing" 0 NameMap.empty, .addModule (Module.new "lib::late")]

/-- the resolution that failed has closed the library, with both modules in it and the body defined; further operations
change nothing in that -/
theorem invariant_of_reached_stagedOps :
    (run (new "lib") stagedOps).Reached ∧ (run (new "lib") stagedOps).finalized = true ∧
    (run (new "lib") stagedOps).verifies = true ∧
    (run (new "lib") stagedOps).modules.map (·.name) = ["lib::caller", "lib::callee"] ∧
    (∃ m' ∈ (run (new "lib") stagedOps).modules, ∃ b ∈ m'.functions, b.symbol = "callee") ∧
    ∀ ops, (run (run (new "lib") stagedOps) ops).SameAnswers (run (new "lib") stagedOps) := by
  have hreached : (run (new "lib") stagedOps).Reached := ⟨"lib", stagedOps, rfl⟩
  obtain ⟨hfrozen, hlinked, -⟩ := invariant_of_reached hreached
  refine ⟨hreached, rfl, rfl, rfl, ?_, fun ops => (hfrozen rfl ops).2.2⟩
  exact hlinked rfl rfl _ List.mem_cons_self "callee" List.mem_cons_self

end Library

end Graft
