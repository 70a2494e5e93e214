/-
Resolution is stable.

A linkage is a library with the symbol table that resolution falls back on. Both change over time, and neither takes
anything back (`Linkage.Later`): modules are only added, so the first definition of a symbol stays the first, and names
are only bound, never unbound. A resolution that succeeded has closed its library; from then on the library cannot
change at all.

`resolution_stable`: so what resolved once resolves for ever, to the same body, or else to what the table binds the
symbol to at that moment; and no registration ever comes before a definition in the library.
-/
import Mathlib.Tactic
import Graft.Proofs.Library.Run

namespace Graft

namespace SymbolTable

/-- a bound name stays bound, whatever is registered or refused -/
theorem isSome_find?_register {t : SymbolTable} {symbol : String} (h : (t.find? symbol).isSome) (name : String)
    (address : Address) : (((register name address).result t).2.find? symbol).isSome := by
  cases hnull : address.isNull with
  | true =>
    rw [result_register_of_isNull hnull]
    exact h
  | false =>
    rw [result_register hnull, NameMap.find?_insert]
    split_ifs
    · rfl
    · exact h

end SymbolTable

namespace Library

variable {l : Library} {symbol : String}

/-- a definition stays the first of its symbol -/
theorem Later.function? {l' : Library} (h : Later l l') {body : Body} (hbody : l.function? symbol = some body) :
    l'.function? symbol = some body := by
  obtain ⟨added, hadded⟩ := h.modules
  rw [Library.function?] at hbody
  rw [Library.function?, ← hadded, List.findSome?_append, hbody]
  rfl

/-- a closed library gives what the symbol resolves to, and stays as it is -/
theorem result_executable_of_finalized (h : l.finalized = true) (symbol : String) (arity : UInt64)
    (table : SymbolTable) :
    (executable symbol arity table).result l = (l.resolution symbol arity table, { l with finalized := true }) :=
  result_executable (result_finalize_of_finalized h) symbol arity table

/-- a resolution that succeeds has closed the library -/
theorem executable_ok {arity : UInt64} {table : SymbolTable} {e : Entry} {l' : Library}
    (h : (executable symbol arity table).result l = (.ok e, l')) :
    l.resolution symbol arity table = .ok e ∧ l' = { l with finalized := true } := by
  rcases finalize_cases l with ⟨e', he⟩ | ⟨hok, -⟩
  · rw [result_executable_of_error he] at h
    cases h
  · rw [result_executable hok] at h
    exact ⟨congrArg Prod.fst h, (congrArg Prod.snd h).symm⟩

/-- a defined symbol resolves to its body over every table, unless the library cannot be closed -/
theorem executable_of_function? {body : Body} (h : l.function? symbol = some body) (arity : UInt64)
    (table : SymbolTable) :
    ((executable symbol arity table).result l).1 = (finalize.result l).1.map fun _ => .lowered body := by
  rcases finalize_cases l with ⟨e, he⟩ | ⟨hok, -⟩
  · rw [result_executable_of_error he, he]
    rfl
  · rw [result_executable hok, resolution_of_function? h, hok]
    rfl

end Library

/-- a library, and the table that its resolution falls back on -/
structure Linkage where
  library : Library
  table : SymbolTable

namespace Linkage

/-- what can be done to either -/
inductive Op where
  | library (op : Library.Op)
  | register (name : String) (address : Address)

/-- library and table after an operation, ended or refused -/
def after (x : Linkage) : Op → Linkage
  | .library op => { x with library := x.library.after op }
  | .register name address => { x with table := ((SymbolTable.register name address).result x.table).2 }

def run (x : Linkage) (ops : List Op) : Linkage := ops.foldl after x

theorem run_cons (x : Linkage) (op : Op) (ops : List Op) : run x (op :: ops) = run (x.after op) ops := rfl

/-- the outcome of resolution -/
def resolve (x : Linkage) (symbol : String) (arity : UInt64) : Except Error Entry :=
  ((Library.executable symbol arity x.table).result x.library).1

/-- `y` is a later state of `x` -/
structure Later (x y : Linkage) : Prop where
  library : x.library.Later y.library
  bound : ∀ symbol, (x.table.find? symbol).isSome → (y.table.find? symbol).isSome

theorem later_after (x : Linkage) (op : Op) : Later x (x.after op) := by
  cases op with
  | library op => exact ⟨Library.later_after x.library op, fun _ h => h⟩
  | register name address =>
    exact ⟨Library.Later.refl x.library, fun _ h => SymbolTable.isSome_find?_register h name address⟩

theorem later_run (x : Linkage) (ops : List Op) : Later x (run x ops) := by
  induction ops generalizing x with
  | nil => exact ⟨Library.Later.refl x.library, fun _ h => h⟩
  | cons op ops ih =>
    rw [run_cons]
    have hstep := later_after x op
    have hrest := ih (x.after op)
    exact ⟨hstep.library.trans hrest.library, fun symbol h => hrest.bound symbol (hstep.bound symbol h)⟩

/-- a closed library resolves a symbol it does not define through the table of the moment -/
theorem resolve_of_bound {x y : Linkage} (hlater : Later x y) (hclosed : x.library.finalized = true) {symbol : String}
    (hnone : x.library.function? symbol = none) (hbound : (x.table.find? symbol).isSome) (arity : UInt64) :
    ∃ address, y.table.find? symbol = some address ∧ y.resolve symbol arity = .ok (.native symbol address arity) := by
  obtain ⟨address, haddress⟩ := Option.isSome_iff_exists.1 (hlater.bound symbol hbound)
  have hsame := (Library.sameAnswers_of_modules (hlater.library.frozen hclosed)).function? symbol
  refine ⟨address, haddress, ?_⟩
  rw [resolve, Library.result_executable_of_finalized (hlater.library.closed hclosed)]
  exact Library.resolution_of_find? (hsame.trans hnone) haddress arity

/-- **Resolution is stable**, for every library and table and whatever is done to them. If a symbol has resolved, it
resolves again with any arity: to the same body if it was a body, and otherwise to native code under the symbol, with
that arity and at the address that the table then binds the symbol to. And a symbol that the library defines keeps its
definition, and resolves to it over every table at all, unless the library cannot be closed. -/
theorem resolution_stable (l : Library) (t : SymbolTable) (ops : List Op) :
    (∀ symbol arity e l', (Library.executable symbol arity t).result l = (.ok e, l') → ∀ b,
      match e with
      | .lowered body => (run ⟨l', t⟩ ops).resolve symbol b = .ok (.lowered body)
      | .native .. => ∃ address, (run ⟨l', t⟩ ops).table.find? symbol = some address ∧
          (run ⟨l', t⟩ ops).resolve symbol b = .ok (.native symbol address b)) ∧
    ∀ symbol body, l.function? symbol = some body →
      (run ⟨l, t⟩ ops).library.function? symbol = some body ∧
        ∀ b table, ((Library.executable symbol b table).result (run ⟨l, t⟩ ops).library).1 =
          (Library.finalize.result (run ⟨l, t⟩ ops).library).1.map fun _ => .lowered body := by
  refine ⟨?_, ?_⟩
  · intro symbol arity e l' h b
    obtain ⟨hresolution, rfl⟩ := Library.executable_ok h
    have hlater := later_run ⟨{ l with finalized := true }, t⟩ ops
    have hclosed := hlater.library.closed rfl
    cases hbody : l.function? symbol with
    | some body =>
      rw [Library.resolution_of_function? hbody] at hresolution
      cases hresolution
      have hkept := hlater.library.function? hbody
      dsimp only
      rw [resolve, Library.result_executable_of_finalized hclosed, Library.resolution_of_function? hkept]
    | none =>
      cases hbound : t.find? symbol with
      | none => simp [Library.resolution, hbody, hbound] at hresolution
      | some address =>
        rw [Library.resolution_of_find? hbody hbound] at hresolution
        cases hresolution
        exact resolve_of_bound hlater rfl hbody (by simp [hbound]) b
  · intro symbol body hbody
    have hkept := (later_run ⟨l, t⟩ ops).library.function? hbody
    exact ⟨hkept, Library.executable_of_function? hkept⟩

/-- a library that defines `own`, over a table that binds `foreign` -/
def sharing : Linkage where
  library := { Library.new "lib" with modules := [(Module.new "lib::own").define ⟨"own", 0, [.const 0 1, .ret 0]⟩] }
  table := NameMap.insert NameMap.empty "foreign" ⟨16⟩

/-- registrations under both symbols; the last is refused, and so is the module -/
def rebindings : List Op :=
  [.register "own" ⟨9⟩, .register "foreign" ⟨32⟩, .library (.addModule (Module.new "lib::late")),
   .register "foreign" Address.null]

/-- the foreign symbol resolves to its new address; the library's own resolves to its body, which nothing shadows -/
theorem resolution_stable_rebindings :
    (Library.executable "foreign" 1 sharing.table).result sharing.library =
      (.ok (.native "foreign" ⟨16⟩ 1), { sharing.library with finalized := true }) ∧
    (∃ address, (run ⟨{ sharing.library with finalized := true }, sharing.table⟩ rebindings).table.find? "foreign" =
        some address ∧ address = ⟨32⟩ ∧
      (run ⟨{ sharing.library with finalized := true }, sharing.table⟩ rebindings).resolve "foreign" 3 =
        .ok (.native "foreign" address 3)) ∧
    (run sharing rebindings).table.find? "own" = some ⟨9⟩ ∧
    (run sharing rebindings).library.function? "own" = some ⟨"own", 0, [.const 0 1, .ret 0]⟩ := by
  have hfirst : (Library.executable "foreign" 1 sharing.table).result sharing.library =
      (.ok (.native "foreign" ⟨16⟩ 1), { sharing.library with finalized := true }) := rfl
  obtain ⟨hagain, hkept⟩ := resolution_stable sharing.library sharing.table rebindings
  obtain ⟨address, hbound, hresolve⟩ := hagain _ _ _ _ hfirst 3
  refine ⟨hfirst, ⟨address, hbound, ?_, hresolve⟩, rfl, (hkept "own" _ rfl).1⟩
  exact (Option.some.inj hbound).symm

end Linkage

end Graft
