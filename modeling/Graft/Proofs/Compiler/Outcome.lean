/-
What a compilation comes to, for every request and every table.

A body that verification rejects is refused, whatever else the request says. A right body is lowered when adoption is
off, and when the provider is asked and declines. Otherwise everything hangs on the artifact in the metadata that reach
lowering (`Compiler.offered?`): it cannot be taken, its address is null, or it is adopted.

- `compile_of_rejected`, `compile_of_off`, `compile_of_declined`, `compile_of_offered`: the outcome in each of these
  cases, with the table it leaves.
- `compile_outcome`: all of it together. Nothing that comes after the body is there can fail.
-/
import Mathlib.Tactic
import Graft.Compiler
import Graft.Proofs.Compiler.Transparency
import Graft.Proofs.Metadata.Artifact

namespace Graft

namespace Metadata

/-- the errors of a request without a usable artifact: a part of it is missing, or is of the wrong kind -/
def IsArtifactError (function : String) (e : Error) : Prop :=
  (∃ key, e = .missingArtifact function key) ∨ ∃ fault, e = .internal fault

variable {m : Metadata} {function : String} {e : Error}

theorem isArtifactError_of_takeArtifact (h : m.takeArtifact function = .error e) : IsArtifactError function e := by
  cases takeArtifact_eq_error_iff.1 h with
  | pointer => exact Or.inl ⟨_, rfl⟩
  | pointerKind => exact Or.inr ⟨_, rfl⟩
  | symbol => exact Or.inl ⟨_, rfl⟩
  | symbolKind => exact Or.inr ⟨_, rfl⟩

theorem IsArtifactError.allowsFallback (h : IsArtifactError function e) : e.allowsFallback = false := by
  rcases h with ⟨key, rfl⟩ | ⟨fault, rfl⟩ <;> rfl

end Metadata

namespace Compiler

open Pipeline

variable {c : Compiler} {f : Routine} {m : Metadata}

/-- a provider is asked, because the metadata lack a part of an artifact, and has no artifact either -/
def Declined (c : Compiler) (f : Routine) (m : Metadata) : Prop :=
  ∃ p, c.provider? = some p ∧ m.hasArtifact = false ∧ (p.provide f).value = none

/-- the metadata that reach lowering: the request's own, with the provider's artifact put in when a provider is asked
for one; none when it declines -/
def offered? (c : Compiler) (f : Routine) (m : Metadata) : Option Metadata :=
  match c.provider? with
  | none => some m
  | some p => if m.hasArtifact then some m else (p.provide f).value.map m.insertArtifact

/-- nothing is offered exactly when a provider is asked and declines -/
theorem offered?_eq_none_iff : c.offered? f m = none ↔ c.Declined f m := by
  cases hp : c.provider? with
  | none => simp [offered?, Declined, hp]
  | some p => cases hm : m.hasArtifact <;> simp [offered?, Declined, hp, hm]

/-! ## From the pipelines to the compiler -/

@[simp] theorem result_attempt (c : Compiler) (p : Pipeline) (f : Routine) (m : Metadata) (t : SymbolTable) :
    (c.attempt p f m).result t = (.ok (p.run.result (State.new f c.settings t m)),
      (p.run.result (State.new f c.settings t m)).2.symbols) := by
  simp [attempt, Except.map]

theorem result_finish {s : State} {result : Lowered} (h : s.result? = some result) (route : Route) (t : SymbolTable) :
    (finish route s).result t = (.ok ⟨route, { s with result? := none }, result⟩, t) := by
  simp [finish, h]

theorem result_compile_of_ok {t : SymbolTable} {s : State} {result : Lowered}
    (hrun : c.nativePipeline.run.result (State.new f c.settings t m) = (.ok (), s))
    (hresult : s.result? = some result) :
    (c.compile f m).result t = (.ok ⟨.native, { s with result? := none }, result⟩, s.symbols) := by
  simp only [compile, Action.result_bind, result_attempt, hrun]
  exact result_finish hresult .native s.symbols

theorem result_compile_of_error {t : SymbolTable} {s : State} {e : Error}
    (hrun : c.nativePipeline.run.result (State.new f c.settings t m) = (.error (.error e), s))
    (hfinal : e.allowsFallback = false) : (c.compile f m).result t = (.error (.error e), s.symbols) := by
  simp [compile, hrun, hfinal]

theorem result_compile_of_fallback {t : SymbolTable} {s s' : State} {e : Error} {result : Lowered}
    (hrun : c.nativePipeline.run.result (State.new f c.settings t m) = (.error (.error e), s))
    (hback : e.allowsFallback = true)
    (hrun' : standardPipeline.run.result (State.new f c.settings s.symbols m) = (.ok (), s'))
    (hresult : s'.result? = some result) :
    (c.compile f m).result t = (.ok ⟨.standard, { s' with result? := none }, result⟩, s'.symbols) := by
  simp only [compile, Action.result_bind, result_attempt, hrun, hback, if_true, Action.result_note, hrun']
  exact result_finish hresult .standard s'.symbols

/-- where artifacts are adopted, the lowering of a right body begins with the metadata that are offered -/
theorem result_nativePipeline_of_offered (hon : c.settings.adoptArtifacts = true) (hver : f.verify.value = .ok ())
    {offered : Metadata} (hoffered : c.offered? f m = some offered) (t : SymbolTable) :
    c.nativePipeline.run.result (State.new f c.settings t m) =
      (performAll [Pass.substitutableLowering]).result (State.new f c.settings t offered) := by
  rw [result_run, nativePipeline, acquisitions, if_pos hon, List.cons_append, result_performAll_verified hver]
  cases hp : c.provider? with
  | none =>
    obtain rfl : m = offered := by simpa [offered?, hp] using hoffered
    rfl
  | some p =>
    simp only [offered?, hp] at hoffered
    have hacquired : (Pass.acquisition p).perform.result (State.new f c.settings t m) =
        (.ok (), State.new f c.settings t offered) := by
      rw [Pass.result_perform_of_transform rfl, Pass.result_acquisition_run]
      cases hm : m.hasArtifact with
      | true =>
        obtain rfl : m = offered := by simpa [hm] using hoffered
        simp [State.new, hm, Except.map]
      | false =>
        obtain ⟨a, ha, rfl⟩ : ∃ a, (p.provide f).value = some a ∧ m.insertArtifact a = offered := by
          simpa [hm] using hoffered
        simp [State.new, hm, ha, Except.map]
    exact (result_performAll_cons ..).trans (by rw [hacquired]; rfl)

/-- a provider that declines stops the native pipeline before anything has changed -/
theorem result_nativePipeline_of_declined (hon : c.settings.adoptArtifacts = true) (hver : f.verify.value = .ok ())
    (hdeclined : c.offered? f m = none) (t : SymbolTable) :
    ∃ provider, c.nativePipeline.run.result (State.new f c.settings t m) =
      (.error (.error (.providerDeclined f.shownName provider)), State.new f c.settings t m) := by
  obtain ⟨p, hp, hm, hnone⟩ := offered?_eq_none_iff.1 hdeclined
  have hdecline : (Pass.acquisition p).perform.result (State.new f c.settings t m) =
      (.error (.error (.providerDeclined f.shownName p.name)), State.new f c.settings t m) := by
    rw [Pass.result_perform_of_transform rfl, Pass.result_acquisition_run]
    simp [State.new, hm, hnone, Except.map]
  refine ⟨p.name, ?_⟩
  rw [result_run, nativePipeline, acquisitions, if_pos hon, List.cons_append, result_performAll_verified hver, hp]
  exact (result_performAll_cons ..).trans (by rw [hdecline])

/-! ## The four cases -/

/-- **Rejected.** A wrong body is refused with what verification reports. -/
theorem compile_of_rejected {e : Error} (hver : f.verify.value = .error e) (t : SymbolTable) :
    (c.compile f m).result t = (.error (.error e), t) := by
  have hrun : c.nativePipeline.run.result (State.new f c.settings t m) =
      (.error (.error e), State.new f c.settings t m) := by
    rw [result_run, nativePipeline, List.cons_append, result_performAll_rejected hver]
  obtain ⟨offset, fault, rfl⟩ := Routine.invalidBytecode_of_verify hver
  exact result_compile_of_error hrun rfl

/-- the standard pipeline lowers a right body, and leaves nothing but the result -/
theorem result_standardPipeline_of_verified (hver : f.verify.value = .ok ()) {code : List Instr}
    (hcode : f.code = .ok code) (settings : Settings) (t : SymbolTable) (m : Metadata) :
    standardPipeline.run.result (State.new f settings t m) =
      (.ok (), { State.new f settings t m with result? := some (f.hosted settings.lowerOnly code) }) :=
  result_standardPipeline_bytecode rfl hver hcode

/-- **Off.** With adoption off a right body is lowered, on the native route. -/
theorem compile_of_off (hver : f.verify.value = .ok ()) (hoff : c.settings.adoptArtifacts = false) {code : List Instr}
    (hcode : f.code = .ok code) (t : SymbolTable) :
    (c.compile f m).result t =
      (.ok ⟨.native, State.new f c.settings t m, f.hosted c.settings.lowerOnly code⟩, t) := by
  have hrun := result_nativePipeline_off (s := State.new f c.settings t m) rfl hoff
  rw [result_standardPipeline_of_verified hver hcode] at hrun
  exact result_compile_of_ok hrun rfl

/-- **Declined.** When the provider declines a right body is lowered, on the standard route and from the request
as it came. -/
theorem compile_of_declined (hver : f.verify.value = .ok ()) (hon : c.settings.adoptArtifacts = true)
    (hdeclined : c.offered? f m = none) {code : List Instr} (hcode : f.code = .ok code) (t : SymbolTable) :
    (c.compile f m).result t =
      (.ok ⟨.standard, State.new f c.settings t m, f.hosted c.settings.lowerOnly code⟩, t) := by
  obtain ⟨provider, hrun⟩ := result_nativePipeline_of_declined hon hver hdeclined t
  exact result_compile_of_fallback hrun rfl (result_standardPipeline_of_verified hver hcode c.settings t m) rfl

/-- **Offered.** With metadata for the lowering, the artifact in them decides. -/
theorem compile_of_offered (hver : f.verify.value = .ok ()) (hon : c.settings.adoptArtifacts = true)
    {offered : Metadata} (hoffered : c.offered? f m = some offered) (t : SymbolTable) :
    (c.compile f m).result t =
      match offered.takeArtifact f.shownName with
      | .error e => (.error (.error e), t)
      | .ok (a, rest) =>
        if a.address.isNull then (.error (.error (.codegen (.nullSymbol a.symbol))), t)
        else
          (.ok ⟨.native, State.new f c.settings (t.insert a.symbol a.address) rest, f.grafted c.settings.lowerOnly a⟩,
            t.insert a.symbol a.address) := by
  have hrun := result_nativePipeline_of_offered hon hver hoffered t
  rw [result_performAll_last rfl, Pass.result_substitutableLowering_on hon] at hrun
  have hmetadata : (State.new f c.settings t offered).metadata = offered := rfl
  have hroutine : (State.new f c.settings t offered).routine = f := rfl
  rw [hmetadata, hroutine] at hrun
  cases htake : offered.takeArtifact f.shownName with
  | error e =>
    rw [htake] at hrun
    exact result_compile_of_error hrun (Metadata.isArtifactError_of_takeArtifact htake).allowsFallback
  | ok p =>
    obtain ⟨a, rest⟩ := p
    rw [htake] at hrun
    cases hnull : a.address.isNull with
    | true =>
      simp only [hnull, if_true] at hrun ⊢
      exact result_compile_of_error hrun rfl
    | false =>
      simp only [hnull, Bool.false_eq_true, if_false] at hrun ⊢
      exact result_compile_of_ok hrun rfl

/-- with metadata for the lowering the compiler never leaves the native route -/
theorem route_of_offered (hver : f.verify.value = .ok ()) (hon : c.settings.adoptArtifacts = true)
    {offered : Metadata} (hoffered : c.offered? f m = some offered) {t after : SymbolTable} {done : Compiled}
    (h : (c.compile f m).result t = (.ok done, after)) : done.route = .native := by
  rw [compile_of_offered hver hon hoffered] at h
  cases htake : offered.takeArtifact f.shownName with
  | error e => simp [htake] at h
  | ok p =>
    simp only [htake] at h
    split_ifs at h
    · cases h
    · cases h
      rfl

/-- **The outcome of a compilation**, for every compiler, routine, metadata and table. A wrong body is refused with what
verification reports. A right one is lowered on the native route when adoption is off. When it is on, the route is the
standard one exactly when the provider is asked and declines, and then the result is that of the standard pipeline on
the request as it came. In all other cases the compilation fails exactly when the artifact in the offered metadata
cannot be taken, with that error, or has a null address; else it adopts the artifact, on the native route. -/
theorem compile_outcome (c : Compiler) (f : Routine) (m : Metadata) (t : SymbolTable) :
    (∀ e, f.verify.value = .error e →
      (∃ offset fault, e = .invalidBytecode f.shownName offset fault) ∧
        (c.compile f m).result t = (.error (.error e), t)) ∧
    (f.verify.value = .ok () →
      (c.settings.adoptArtifacts = false →
        ∃ code, f.lower.value = .ok code ∧ (c.compile f m).result t =
          (.ok ⟨.native, State.new f c.settings t m, f.hosted c.settings.lowerOnly code⟩, t)) ∧
      (c.settings.adoptArtifacts = true →
        ((∃ done after, (c.compile f m).result t = (.ok done, after) ∧ done.route = .standard) ↔ c.Declined f m) ∧
        (c.Declined f m →
          ∃ done, (c.compile f m).result t = (.ok done, t) ∧ done.route = .standard ∧ done.state.metadata = m ∧
            standardPipeline.run.result (State.new f c.settings t m) =
              (.ok (), { done.state with result? := some done.result })) ∧
        (¬ c.Declined f m →
          ∃ offered, c.offered? f m = some offered ∧
            (∀ e, offered.takeArtifact f.shownName = .error e →
              Metadata.IsArtifactError f.shownName e ∧ (c.compile f m).result t = (.error (.error e), t)) ∧
            ∀ a rest, offered.takeArtifact f.shownName = .ok (a, rest) →
              (c.compile f m).result t =
                if a.address.isNull then (.error (.error (.codegen (.nullSymbol a.symbol))), t)
                else (.ok ⟨.native, State.new f c.settings (t.insert a.symbol a.address) rest,
                  f.grafted c.settings.lowerOnly a⟩, t.insert a.symbol a.address)))) := by
  refine ⟨?_, ?_⟩
  · intro e hver
    exact ⟨Routine.invalidBytecode_of_verify hver, compile_of_rejected hver t⟩
  · intro hver
    obtain ⟨code, -, hcode⟩ := Routine.code_of_verify hver
    refine ⟨?_, ?_⟩
    · intro hoff
      exact ⟨code, by rw [Routine.value_lower, hcode], compile_of_off hver hoff hcode t⟩
    · intro hon
      have hdeclined (h : c.Declined f m) := compile_of_declined hver hon (offered?_eq_none_iff.2 h) hcode t
      have hoffer (h : ¬ c.Declined f m) : ∃ offered, c.offered? f m = some offered :=
        Option.ne_none_iff_exists'.1 (mt offered?_eq_none_iff.1 h)
      refine ⟨⟨?_, ?_⟩, ?_, ?_⟩
      · rintro ⟨done, after, hdone, hroute⟩
        by_contra hnot
        obtain ⟨offered, hoffered⟩ := hoffer hnot
        rw [route_of_offered hver hon hoffered hdone] at hroute
        cases hroute
      · intro h
        exact ⟨_, _, hdeclined h, rfl⟩
      · intro h
        exact ⟨_, hdeclined h, rfl, rfl, result_standardPipeline_of_verified hver hcode c.settings t m⟩
      · intro hnot
        obtain ⟨offered, hoffered⟩ := hoffer hnot
        have hall := compile_of_offered hver hon hoffered t
        refine ⟨offered, hoffered, ?_, ?_⟩
        · intro e he
          rw [he] at hall
          exact ⟨Metadata.isArtifactError_of_takeArtifact he, hall⟩
        · intro a rest ha
          rw [ha] at hall
          exact hall

end Compiler

end Graft
