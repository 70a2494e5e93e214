/-
Compilations that share a symbol table do not influence each other.

A request is a compiler with a routine and its metadata; `Request.serve` compiles a list of requests in order over one
table. Only an adopted artifact (`Request.adopted?`) leaves a trace in the table, and the entry of an adopted artifact
is looked up under the symbol that was bound last of all, its own. So

- `compile_of_adopted?_eq_some`, `compile_of_adopted?_eq_none`: what one compilation comes to is the same over every
  table, and it either binds the symbol of the artifact it adopts or leaves the table as it was;
- `result_serve`: a list of requests gets the answers that each gets alone, and the table keeps the bindings in order;
- `serve_isolated`: hence answers do not depend on the order or on the table, and the table binds each symbol to what
  was adopted under it last.
-/
import Mathlib.Tactic
import Graft.Proofs.Compiler.Outcome

namespace Graft

structure Request where
  compiler : Compiler
  routine : Routine
  metadata : Metadata

/-- what a requester gets to see of a compilation -/
structure Answer where
  route : Route
  result : Lowered
  metadata : Metadata
  strategy : Strategy

def Compiled.answer (c : Compiled) : Answer := ⟨c.route, c.result, c.state.metadata, c.state.strategy⟩

namespace Request

def compile (r : Request) : Action Fault SymbolTable Compiled := r.compiler.compile r.routine r.metadata

/-- the answer over a given table -/
def answer (r : Request) (t : SymbolTable) : Except Fault Answer := (r.compile.result t).1.map Compiled.answer

/-- the table that the request leaves -/
def after (r : Request) (t : SymbolTable) : SymbolTable := (r.compile.result t).2

/-- compile one request after the other over the same table -/
def serve : List Request → Action Fault SymbolTable (List (Except Fault Answer))
  | [] => return []
  | r :: rest => do
    let done ← r.compile.attempt
    let answers ← serve rest
    return done.map Compiled.answer :: answers

/-- the artifact that the request adopts: that of the metadata which reach lowering, if the body is right, artifacts are
adopted, and the address is not null -/
def adopted? (r : Request) : Option Artifact :=
  match r.routine.verify.value, r.compiler.settings.adoptArtifacts, r.compiler.offered? r.routine r.metadata with
  | .ok _, true, some offered =>
    match offered.takeArtifact r.routine.shownName with
    | .ok (a, _) => if a.address.isNull then none else some a
    | .error _ => none
  | _, _, _ => none

/-- the artifact that the last of the requests to adopt one under a symbol adopts -/
def lastAdopted? (requests : List Request) (symbol : String) : Option Artifact :=
  requests.reverse.findSome? fun r => r.adopted?.filter (·.symbol = symbol)

/-! ## One request -/

variable {r : Request}

/-- an adopted artifact is bound, and the answer has nothing of the table in it -/
theorem compile_of_adopted?_eq_some {a : Artifact} (h : r.adopted? = some a) :
    ∃ rest, ∀ t, r.compile.result t =
      (.ok ⟨.native, State.new r.routine r.compiler.settings (t.insert a.symbol a.address) rest,
        r.routine.grafted r.compiler.settings.lowerOnly a⟩, t.insert a.symbol a.address) := by
  simp only [adopted?] at h
  split at h
  · rename_i offered hver hon hoffered
    split at h
    · rename_i b rest htake
      split_ifs at h with hnull
      obtain rfl : b = a := Option.some.inj h
      refine ⟨rest, fun t => ?_⟩
      rw [compile, Compiler.compile_of_offered hver hon hoffered, htake]
      simp [hnull]
    · cases h
  · cases h

/-- a request that adopts nothing fails or lowers the stack code, and leaves the table as it was -/
theorem compile_of_adopted?_eq_none (h : r.adopted? = none) :
    (∃ e, ∀ t, r.compile.result t = (.error (.error e), t)) ∨
      ∃ route code, ∀ t, r.compile.result t =
        (.ok ⟨route, State.new r.routine r.compiler.settings t r.metadata,
          r.routine.hosted r.compiler.settings.lowerOnly code⟩, t) := by
  cases hver : r.routine.verify.value with
  | error e => exact Or.inl ⟨e, fun t => Compiler.compile_of_rejected hver t⟩
  | ok _ =>
    obtain ⟨code, -, hcode⟩ := Routine.code_of_verify hver
    cases hon : r.compiler.settings.adoptArtifacts with
    | false => exact Or.inr ⟨.native, code, fun t => Compiler.compile_of_off hver hon hcode t⟩
    | true =>
      cases hoffered : r.compiler.offered? r.routine r.metadata with
      | none => exact Or.inr ⟨.standard, code, fun t => Compiler.compile_of_declined hver hon hoffered hcode t⟩
      | some offered =>
        simp only [adopted?, hver, hon, hoffered] at h
        have hall := Compiler.compile_of_offered hver hon hoffered
        cases htake : offered.takeArtifact r.routine.shownName with
        | error e =>
          rw [htake] at hall
          exact Or.inl ⟨e, hall⟩
        | ok p =>
          obtain ⟨a, rest⟩ := p
          rw [htake] at hall h
          simp only at hall h
          split_ifs at h with hnull
          exact Or.inl ⟨.codegen (.nullSymbol a.symbol), fun t => by rw [compile, hall, if_pos hnull]⟩

/-- **One answer.** What a request is answered does not depend on the table. -/
theorem answer_eq (r : Request) (t : SymbolTable) : r.answer t = r.answer NameMap.empty := by
  cases h : r.adopted? with
  | some a =>
    obtain ⟨rest, hall⟩ := compile_of_adopted?_eq_some h
    rw [answer, answer, hall, hall]
    rfl
  | none =>
    rcases compile_of_adopted?_eq_none h with ⟨e, hall⟩ | ⟨route, code, hall⟩
    · rw [answer, answer, hall, hall]
    · rw [answer, answer, hall, hall]
      rfl

/-- **One table.** A request binds the symbol of the artifact it adopts, and nothing else. -/
theorem after_eq (r : Request) (t : SymbolTable) :
    r.after t = match r.adopted? with
      | some a => t.insert a.symbol a.address
      | none => t := by
  cases h : r.adopted? with
  | some a =>
    obtain ⟨rest, hall⟩ := compile_of_adopted?_eq_some h
    rw [after, hall]
  | none =>
    rcases compile_of_adopted?_eq_none h with ⟨e, hall⟩ | ⟨route, code, hall⟩
    · rw [after, hall]
    · rw [after, hall]

/-- the result of a request that adopts an artifact -/
theorem result_of_adopted?_eq_some {a : Artifact} (h : r.adopted? = some a) (t : SymbolTable) :
    ∃ ans, r.answer t = .ok ans ∧ ans.route = .native ∧
      ans.result = r.routine.grafted r.compiler.settings.lowerOnly a := by
  obtain ⟨rest, hall⟩ := compile_of_adopted?_eq_some h
  exact ⟨_, by rw [answer, hall]; rfl, rfl, rfl⟩

/-- a request adopts nothing exactly when it fails or its library has the body -/
theorem adopted?_eq_none_iff (r : Request) (t : SymbolTable) :
    r.adopted? = none ↔ (∃ fault, r.answer t = .error fault) ∨
      ∃ ans, r.answer t = .ok ans ∧ (ans.result.library.function? r.routine.symbol).isSome := by
  constructor
  · intro h
    rcases compile_of_adopted?_eq_none h with ⟨e, hall⟩ | ⟨route, code, hall⟩
    · exact Or.inl ⟨.error e, by rw [answer, hall]; rfl⟩
    · refine Or.inr ⟨_, by rw [answer, hall]; rfl, ?_⟩
      exact Option.isSome_iff_exists.2 ⟨_, Library.function?_define_shell r.routine code _ true⟩
  · intro h
    by_contra hsome
    obtain ⟨a, ha⟩ := Option.ne_none_iff_exists'.1 hsome
    obtain ⟨ans, hans, -, hresult⟩ := result_of_adopted?_eq_some ha t
    rcases h with ⟨fault, hfault⟩ | ⟨ans', hans', hbody⟩
    · rw [hans] at hfault
      cases hfault
    · rw [hans] at hans'
      cases hans'
      rw [hresult] at hbody
      cases hbody

/-! ## Lists of requests -/

/-- **All answers and the table.** Each request gets the answer it gets alone over the empty table; the table goes
through the requests in order. -/
theorem result_serve (requests : List Request) (t : SymbolTable) :
    (serve requests).result t =
      (.ok (requests.map (·.answer NameMap.empty)), requests.foldl (fun table r => r.after table) t) := by
  induction requests generalizing t with
  | nil => rfl
  | cons r rest ih =>
    simp only [serve, Action.result_bind, Action.result_attempt, ih]
    simp only [Action.result_pure, List.map_cons, List.foldl_cons, ← answer_eq r t]
    rfl

theorem lastAdopted?_cons (r : Request) (rest : List Request) (symbol : String) :
    lastAdopted? (r :: rest) symbol = (lastAdopted? rest symbol).or (r.adopted?.filter (·.symbol = symbol)) := by
  rw [lastAdopted?, List.reverse_cons, List.findSome?_append]
  simp [lastAdopted?]

/-- after a list of requests a symbol is bound to what was adopted under it last, or else as it was before -/
theorem find?_foldl_after (requests : List Request) (t : SymbolTable) (symbol : String) :
    (requests.foldl (fun table r => r.after table) t).find? symbol =
      ((lastAdopted? requests symbol).map (·.address)).or (t.find? symbol) := by
  induction requests generalizing t with
  | nil => rfl
  | cons r rest ih =>
    rw [List.foldl_cons, ih, lastAdopted?_cons, after_eq]
    cases lastAdopted? rest symbol with
    | some later => rfl
    | none =>
      cases r.adopted? with
      | none => rfl
      | some a =>
        dsimp only
        rw [NameMap.find?_insert]
        by_cases h : a.symbol = symbol
        · simp [h, Option.filter]
        · simp [h, Ne.symm h, Option.filter]

/-- a request to adopt the body at an address under the symbol `s` -/
def rebinding (address : UInt64) : Request where
  compiler := { settings := {} }
  routine := { name := "one", qualifiedName := "", signature := { params := [] }, body := [.load 1, .ret] }
  metadata := Metadata.insertArtifact NameMap.empty ⟨⟨address⟩, "s"⟩

-- the last request is refused, so the one before it binds the symbol
example : lastAdopted? [rebinding 3, rebinding 5, rebinding 0] "s" = some ⟨⟨5⟩, "s"⟩ := by rfl

/-- **Isolation.** A list of requests served in order over any table gets the answers that each request gets alone over
the empty table; so another order of the same requests, over another table, gives each request the same answer. In the
end a symbol is bound to the address of the artifact that was adopted under it last, or as it was at first when none
was. The requests that adopt nothing are those that fail or lower their stack code: they leave the table as it was. Any
other has the artifact it adopts as its result. -/
theorem serve_isolated (requests : List Request) (t : SymbolTable) :
    ∃ final, (serve requests).result t = (.ok (requests.map (·.answer NameMap.empty)), final) ∧
      (∀ others t', requests.Perm others → ∃ answers, ((serve others).result t').1 = .ok answers ∧
        (requests.zip (requests.map (·.answer NameMap.empty))).Perm (others.zip answers)) ∧
      (∀ symbol, final.find? symbol = ((lastAdopted? requests symbol).map (·.address)).or (t.find? symbol)) ∧
      ∀ r ∈ requests, ∀ table,
        (r.adopted? = none ↔ (∃ fault, r.answer table = .error fault) ∨
          ∃ ans, r.answer table = .ok ans ∧ (ans.result.library.function? r.routine.symbol).isSome) ∧
        (r.adopted? = none → r.after table = table) ∧
        ∀ a, r.adopted? = some a → ∃ ans, r.answer table = .ok ans ∧ ans.route = .native ∧
          ans.result = r.routine.grafted r.compiler.settings.lowerOnly a := by
  refine ⟨_, result_serve requests t, ?_, find?_foldl_after requests t, ?_⟩
  · intro others t' hperm
    refine ⟨_, by rw [result_serve], ?_⟩
    rw [← List.map_prod_left_eq_zip, ← List.map_prod_left_eq_zip]
    exact hperm.map _
  · intro r _ table
    refine ⟨adopted?_eq_none_iff r table, ?_, fun a ha => result_of_adopted?_eq_some ha table⟩
    intro hnone
    rw [after_eq, hnone]

end Request

end Graft
