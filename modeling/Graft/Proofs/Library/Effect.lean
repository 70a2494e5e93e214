/-
What the operations on symbol tables and libraries do, outcome and state at once.

`result_register`, `result_addModule`, `result_skipVerification`, `result_finalize` and `result_executable` give each
operation in one equation, so that later proofs never open it. A registration that is not refused always leaves the
table with the name bound: when the address was bound already, binding it again changes nothing (`insert_of_find?`).

`undefinedSymbols_eq_empty`: a library in which every declared symbol is defined has nothing left to report.
-/
import Mathlib.Tactic
import Graft.Library

namespace Graft

namespace NameMap

variable {α : Type}

/-- binding a name to what it is bound to changes nothing -/
theorem insert_of_find? {m : NameMap α} {name : String} {value : α} (h : m.find? name = some value) :
    m.insert name value = m := by
  apply ext_find?
  intro other
  rw [find?_insert]
  split_ifs with heq
  · rw [heq, h]
  · rfl

theorem find?_insert_self (m : NameMap α) (name : String) (value : α) :
    (m.insert name value).find? name = some value := by
  rw [find?_insert, if_pos rfl]

/-- the names of a map ascend -/
theorem pairwise_names (m : NameMap α) : m.names.Pairwise (· < ·) := List.pairwise_map.2 m.ascending

/-- the names of a map are those that are bound -/
theorem mem_names_iff (m : NameMap α) (name : String) : name ∈ m.names ↔ (m.find? name).isSome := by
  rw [names, find?, List.lookup_isSome_iff, List.mem_map]
  constructor
  · rintro ⟨e, he, rfl⟩
    exact ⟨e, he, by simp⟩
  · rintro ⟨e, he, hname⟩
    exact ⟨e, he, (eq_of_beq hname).symm⟩

end NameMap

namespace SymbolTable

theorem result_register_of_isNull {address : Address} (h : address.isNull = true) (name : String) (t : SymbolTable) :
    (register name address).result t = (.error (.codegen (.nullSymbol name)), t) := by
  simp [register, h]

/-- a registration that is not refused binds the name; it says whether that was news -/
theorem result_register {address : Address} (h : address.isNull = false) (name : String) (t : SymbolTable) :
    (register name address).result t = (.ok (decide (t.find? name ≠ some address)), t.insert name address) := by
  simp only [register, h, Bool.false_eq_true, if_false, Action.result_bind, Action.result_read]
  cases hf : t.find? name with
  | none => simp
  | some bound =>
    by_cases hb : bound = address
    · subst hb
      simp [NameMap.insert_of_find? hf]
    · simp [hb]

end SymbolTable

namespace Library

variable {l : Library}

theorem result_addModule (h : l.finalized = false) (m : Module) :
    (addModule m).result l = (.ok (), { l with modules := l.modules ++ [m] }) := by
  simp [addModule, h]

theorem result_skipVerification (l : Library) : skipVerification.result l = (.ok (), { l with verifies := false }) := by
  simp only [skipVerification, Action.result_bind, Action.result_read]
  split_ifs <;> simp

/-- finalization closes the library, unless it is open, verifies and has undefined symbols -/
theorem result_finalize (l : Library) :
    finalize.result l =
      if l.finalized = false ∧ l.verifies = true ∧ l.undefinedSymbols.isEmpty = false then
        (.error (.codegen (.undefinedSymbols l.name l.undefinedSymbols.names)), l)
      else (.ok (), { l with finalized := true }) := by
  obtain ⟨name, modules, finalized, verifies⟩ := l
  simp only [finalize, Action.result_bind, Action.result_read]
  cases finalized with
  | true => simp
  | false => cases verifies <;> cases undefinedSymbols _ |>.isEmpty <;> simp

/-- what a symbol resolves to: a definition in the library, or else a native symbol -/
def resolution (l : Library) (symbol : String) (arity : UInt64) (table : SymbolTable) : Except Error Entry :=
  match l.function? symbol, table.find? symbol with
  | some b, _ => .ok (.lowered b)
  | none, some address => .ok (.native symbol address arity)
  | none, none => .error (.codegen (.unresolvedSymbol symbol l.name))

/-- a definition in the library wins, whatever the table binds the symbol to -/
theorem resolution_of_function? {symbol : String} {b : Body} (h : l.function? symbol = some b) (arity : UInt64)
    (table : SymbolTable) : l.resolution symbol arity table = .ok (.lowered b) := by
  simp [resolution, h]

theorem resolution_of_find? {symbol : String} {table : SymbolTable} {address : Address}
    (h : l.function? symbol = none) (ht : table.find? symbol = some address) (arity : UInt64) :
    l.resolution symbol arity table = .ok (.native symbol address arity) := by
  simp [resolution, h, ht]

/-- a library that can be closed is closed by resolution, whether the symbol resolves or not -/
theorem result_executable (h : finalize.result l = (.ok (), { l with finalized := true })) (symbol : String)
    (arity : UInt64) (table : SymbolTable) :
    (executable symbol arity table).result l = (l.resolution symbol arity table, { l with finalized := true }) := by
  simp only [executable, Action.result_bind, h, Action.result_read, resolution]
  have hsame : function? { l with finalized := true } symbol = l.function? symbol := rfl
  rw [hsame]
  cases l.function? symbol with
  | some b => simp
  | none => cases table.find? symbol <;> simp

theorem undefinedSymbols_eq_empty (h : ∀ m ∈ l.modules, ∀ s ∈ m.declared.names, (l.function? s).isSome) :
    l.undefinedSymbols = NameMap.empty := by
  have hnil : ((l.modules.flatMap (·.declared.names)).filter fun s => (l.function? s).isNone) = [] := by
    rw [List.filter_eq_nil_iff]
    intro s hs
    obtain ⟨m, hm, hsm⟩ := List.mem_flatMap.1 hs
    simpa [Option.isSome_iff_ne_none] using h m hm s hsm
  rw [undefinedSymbols, hnil]
  rfl

end Library

end Graft
