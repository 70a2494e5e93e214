/-
Calls of compiled functions.

A compilation that ends has made one of two things (`result_of_compile_ok`): the code of a verified body, or an entry to
the address of an artifact that the request's metadata or its provider supplied. What a call of either does is known:
code that was lowered does what the stack machine does, and native code does what the image has at its address.

- `compile_agree`: when the bodies of a provider compute what the stack code means, it cannot be told from calls whether
  they were adopted or not, whatever the number of arguments.
- `compiled_callable`: whatever compiles can be called with as many arguments as it takes, and fails for want of a value
  only. There is one exception: an entry to native code with more parameters than a native call can pass is made all the
  same, and refuses every call (`wide_refuses_calls`).
-/
import Mathlib.Tactic
import Graft.Builtin
import Graft.Proofs.Compiler.Outcome
import Graft.Proofs.Routine.Simulation

namespace Graft

namespace Metadata

/-- an artifact that was put in can be taken out -/
theorem takeArtifact_insertArtifact (m : Metadata) (a : Artifact) (function : String) :
    ∃ rest, (m.insertArtifact a).takeArtifact function = .ok (a, rest) := by
  refine ⟨_, takeArtifact_eq_ok_iff.2 ⟨?_, ?_, rfl⟩⟩
  · exact find?_pointerKey_insertArtifact m a
  · exact find?_symbolKey_insertArtifact m a

end Metadata

namespace Entry

variable {image : Image} {address : Address} {arity : UInt64} {args : List Int64}

theorem value_call_of_length_ne {e : Entry} (h : args.length ≠ e.arity.toNat) :
    (e.call image args).value = .error (.error (.execution (.argumentCount e.symbol e.arity args.length))) := by
  simp [call, h]

theorem value_call_native (image : Image) (symbol : String) (address : Address) (hargs : args.length = arity.toNat) :
    ((native symbol address arity).call image args).value = jump image symbol address args := by
  simp [call, Entry.arity, hargs]

/-- native code returns what the kernel at its address computes -/
theorem jump_of_kernel {k : Kernel} (hnull : address.isNull = false) (hk : image address = some k)
    (hargs : args.length = k.arity) (hmax : args.length ≤ maxNativeArity) (symbol : String) :
    ∃ v, k.value? args = some v ∧ jump image symbol address args = .ok v := by
  obtain ⟨v, hv⟩ := Option.isSome_iff_exists.1 ((k.isSome_value?_iff args).2 hargs)
  refine ⟨v, hv, ?_⟩
  rw [jump, hnull, if_neg Bool.false_ne_true, if_neg (Nat.not_lt.2 hmax), hk, Option.bind_some, hv]

/-- too many arguments are refused, whatever lies at the address -/
theorem jump_of_lt (hnull : address.isNull = false) (hmax : maxNativeArity < args.length) (image : Image)
    (symbol : String) : jump image symbol address args = .error (.error (.execution (.tooManyArguments symbol))) := by
  rw [jump, hnull, if_neg Bool.false_ne_true, if_pos hmax]

end Entry

namespace Compiled

variable {done : Compiled} {f : Routine}

theorem call_of_hosted {code : List Instr} (h : done.result = f.hosted false code) (image : Image) (args : List Int64) :
    done.call image args = (Entry.lowered (f.bodyOf code)).call image args := by
  rw [call, h]
  rfl

theorem call_of_grafted {a : Artifact} (h : done.result = f.grafted false a) (image : Image) (args : List Int64) :
    done.call image args = (Entry.native a.symbol a.address f.arity).call image args := by
  rw [call, h]
  rfl

end Compiled

namespace Compiler

variable {c : Compiler} {f : Routine} {m : Metadata} {t after : SymbolTable} {done : Compiled}

/-- the addresses that a compilation may come to adopt: the one in the metadata, and that of the provider's artifact -/
def Supplies (c : Compiler) (f : Routine) (m : Metadata) (address : Address) : Prop :=
  m.find? Metadata.pointerKey = some (.pointer address) ∨
    ∃ p a, c.provider? = some p ∧ (p.provide f).value = some a ∧ a.address = address

/-- an artifact in the metadata that reach lowering was supplied -/
theorem supplies_of_offered {offered rest : Metadata} {a : Artifact} (hoffered : c.offered? f m = some offered)
    (htake : offered.takeArtifact f.shownName = .ok (a, rest)) : c.Supplies f m a.address := by
  obtain ⟨hfind, -, -⟩ := Metadata.takeArtifact_eq_ok_iff.1 htake
  cases hp : c.provider? with
  | none =>
    obtain rfl : m = offered := by simpa [offered?, hp] using hoffered
    exact Or.inl hfind
  | some p =>
    cases hm : m.hasArtifact with
    | true =>
      obtain rfl : m = offered := by simpa [offered?, hp, hm] using hoffered
      exact Or.inl hfind
    | false =>
      obtain ⟨b, hb, rfl⟩ : ∃ b, (p.provide f).value = some b ∧ m.insertArtifact b = offered := by
        simpa [offered?, hp, hm] using hoffered
      rw [Metadata.find?_pointerKey_insertArtifact] at hfind
      exact Or.inr ⟨p, b, hp, hb, by simpa using hfind⟩

/-- **What was compiled.** A compilation that ends has verified the body, and has lowered it or adopted an address that
was supplied for it. -/
theorem result_of_compile_ok (h : (c.compile f m).result t = (.ok done, after)) :
    f.verify.value = .ok () ∧
      ((∃ code, f.lowered = .ok code ∧ done.result = f.hosted c.settings.lowerOnly code) ∨
        ∃ a, c.Supplies f m a.address ∧ a.address.isNull = false ∧ done.result = f.grafted c.settings.lowerOnly a) := by
  cases hver : f.verify.value with
  | error e =>
    rw [compile_of_rejected hver] at h
    cases h
  | ok _ =>
    refine ⟨rfl, ?_⟩
    obtain ⟨code, hlowered, hcode⟩ := Routine.code_of_verify hver
    cases hon : c.settings.adoptArtifacts with
    | false =>
      rw [compile_of_off hver hon hcode] at h
      cases h
      exact Or.inl ⟨code, hlowered, rfl⟩
    | true =>
      cases hoffered : c.offered? f m with
      | none =>
        rw [compile_of_declined hver hon hoffered hcode] at h
        cases h
        exact Or.inl ⟨code, hlowered, rfl⟩
      | some offered =>
        rw [compile_of_offered hver hon hoffered] at h
        cases htake : offered.takeArtifact f.shownName with
        | error e => simp [htake] at h
        | ok p =>
          obtain ⟨a, rest⟩ := p
          simp only [htake] at h
          split_ifs at h with hnull
          · cases h
          · cases h
            exact Or.inr ⟨a, supplies_of_offered hoffered htake, by simpa using hnull, rfl⟩

end Compiler

/-! ## Two ways to the same answer -/

/-- the kernel takes as many arguments as the routine, and computes from them what its stack code means -/
structure Kernel.Computes (k : Kernel) (f : Routine) : Prop where
  arity : k.arity = f.arity.toNat
  meaning : ∀ args v, k.value? args = some v → f.meaning args = .returned v

/-- the body that is there for the routine, if there is one, computes what the routine's stack code means -/
def Precompiled.Honest (p : Precompiled) (image : Image) (f : Routine) : Prop :=
  ∀ address, p.find? f.name = some (address, f.arity) →
    address.isNull = false ∧ ∃ k, image address = some k ∧ k.Computes f

/-- a body is given exactly when there is one for the name and the arity, and it goes by the routine's own symbol -/
theorem Precompiled.value_provide_eq_some_iff {p : Precompiled} {f : Routine} {a : Artifact} :
    (p.provide f).value = some a ↔ p.find? f.name = some (a.address, f.arity) ∧ a.symbol = f.symbol := by
  rw [provide]
  cases hp : p.find? f.name with
  | none => simp
  | some entry =>
    obtain ⟨address, arity⟩ := entry
    obtain ⟨address', symbol⟩ := a
    by_cases harity : arity = f.arity
    · simp [harity, eq_comm]
    · simp [harity]

/-- native code that computes what the routine means answers every call as the lowered code does: with the same value,
or with the same complaint about the number of arguments -/
theorem Kernel.Computes.value_call {image : Image} {k : Kernel} {f : Routine} {address : Address} {code : List Instr}
    (h : k.Computes f) (hnull : address.isNull = false) (hk : image address = some k)
    (hmax : f.arity.toNat ≤ maxNativeArity) (hlen : f.body.length < 2 ^ 32) (hlowered : f.lowered = .ok code)
    (args : List Int64) :
    ((Entry.native f.symbol address f.arity).call image args).value =
      ((Entry.lowered (f.bodyOf code)).call image args).value := by
  by_cases hargs : args.length = f.arity.toNat
  · obtain ⟨v, hv, hjump⟩ := Entry.jump_of_kernel hnull hk (hargs.trans h.arity.symm) (by omega) f.symbol
    have hsame : Simulation.SameEnd f.symbol (f.meaning args) (Body.value (f.bodyOf code) args) :=
      Simulation.meaning_value hlen hargs hlowered
    rw [Entry.value_call_native image f.symbol address hargs, hjump, Entry.value_call_lowered image _ args hargs]
    exact ((hsame.mapError_eq_ok_iff _ v).2 (h.meaning args v hv)).symm
  · -- the entries have the same symbol and the same arity, and that is all the complaint is made of
    rw [Entry.value_call_of_length_ne hargs, Entry.value_call_of_length_ne hargs]
    rfl

namespace Compiler

/-- the compiler that adopts the bodies of a provider -/
def adopting (p : Precompiled) : Compiler := ⟨{ adoptArtifacts := true, lowerOnly := false }, some p.provider⟩

/-- the compiler that lowers all stack code, whatever its provider -/
def hosting (provider? : Option Provider) : Compiler := ⟨{ adoptArtifacts := false, lowerOnly := false }, provider?⟩

theorem compile_hosting {f : Routine} {code : List Instr} (hver : f.verify.value = .ok ()) (hcode : f.code = .ok code)
    (provider? : Option Provider) (m : Metadata) (t : SymbolTable) :
    ∃ done after, ((hosting provider?).compile f m).result t = (.ok done, after) ∧ done.result = f.hosted false code :=
  ⟨_, _, compile_of_off hver rfl hcode t, rfl⟩

/-- what becomes of a right body without an artifact of its own: it is adopted from the provider, or else lowered -/
theorem compile_adopting {p : Precompiled} {f : Routine} {m : Metadata} {code : List Instr}
    (hver : f.verify.value = .ok ()) (hcode : f.code = .ok code) (hm : m.hasArtifact = false)
    (hnull : ∀ address, p.find? f.name = some (address, f.arity) → address.isNull = false) (t : SymbolTable) :
    ∃ done after, ((adopting p).compile f m).result t = (.ok done, after) ∧
      ((∃ address, p.find? f.name = some (address, f.arity) ∧ done.result = f.grafted false ⟨address, f.symbol⟩) ∨
        (∀ address, p.find? f.name ≠ some (address, f.arity)) ∧ done.result = f.hosted false code) := by
  cases hprovided : (p.provide f).value with
  | none =>
    have hdeclined : (adopting p).offered? f m = none := by
      simp [offered?, adopting, Precompiled.provider, hm, hprovided]
    refine ⟨_, _, compile_of_declined hver rfl hdeclined hcode t, Or.inr ⟨?_, rfl⟩⟩
    intro address hfind
    have hsome : (p.provide f).value = some ⟨address, f.symbol⟩ :=
      Precompiled.value_provide_eq_some_iff.2 ⟨hfind, rfl⟩
    rw [hprovided] at hsome
    cases hsome
  | some a =>
    obtain ⟨hfind, hsymbol⟩ := Precompiled.value_provide_eq_some_iff.1 hprovided
    have hoffered : (adopting p).offered? f m = some (m.insertArtifact a) := by
      simp [offered?, adopting, Precompiled.provider, hm, hprovided]
    obtain ⟨rest, htake⟩ := Metadata.takeArtifact_insertArtifact m a f.shownName
    have hall := compile_of_offered hver rfl hoffered t
    simp only [htake, hnull a.address hfind, Bool.false_eq_true, if_false] at hall
    refine ⟨_, _, hall, Or.inl ⟨a.address, hfind, ?_⟩⟩
    rw [← hsymbol]
    rfl

/-- a right body is adopted from a provider that has one for it at an address that is not null -/
theorem compile_adopting_of_find? {p : Precompiled} {f : Routine} {m : Metadata} {code : List Instr} {address : Address}
    (hver : f.verify.value = .ok ()) (hcode : f.code = .ok code) (hm : m.hasArtifact = false)
    (hfind : p.find? f.name = some (address, f.arity)) (hnull : address.isNull = false) (t : SymbolTable) :
    ∃ done after, ((adopting p).compile f m).result t = (.ok done, after) ∧
      done.result = f.grafted false ⟨address, f.symbol⟩ := by
  have hothers : ∀ other, p.find? f.name = some (other, f.arity) → other.isNull = false := by
    intro other hother
    cases hother.symm.trans hfind
    exact hnull
  obtain ⟨done, after, hdone, ⟨other, hother, hgrafted⟩ | ⟨hnone, -⟩⟩ := compile_adopting hver hcode hm hothers t
  · cases hother.symm.trans hfind
    exact ⟨done, after, hdone, hgrafted⟩
  · exact absurd hfind (hnone address)

/-- **Both ways agree.** Take a verified routine of fewer than 2^32 operations, with no more parameters than a native
call can pass, and a provider whose body for it, if it has one, computes what the stack code means. Without an artifact
in the metadata, and over any two tables, the routine compiles both with the provider and with adoption off. All calls
of the two, with any number of arguments, have the same value or the same error; with as many arguments as the routine
takes they return what the stack machine returns. -/
theorem compile_agree (image : Image) (f : Routine) (p : Precompiled) (m : Metadata) (hver : f.verify.value = .ok ())
    (harity : f.signature.params.length ≤ maxNativeArity) (hlen : f.body.length < 2 ^ 32) (hhonest : p.Honest image f)
    (hm : m.hasArtifact = false) (provider? : Option Provider) (t t' : SymbolTable) :
    ∃ native host, (((adopting p).compile f m).result t).1 = .ok native ∧
      (((hosting provider?).compile f m).result t').1 = .ok host ∧
      (∀ args, (native.call image args).value = (host.call image args).value) ∧
      ∀ args v, args.length = f.signature.params.length →
        ((host.call image args).value = .ok v ↔ f.meaning args = .returned v) := by
  obtain ⟨code, hlowered, hcode⟩ := Routine.code_of_verify hver
  have hnat : f.arity.toNat = f.signature.params.length := f.signature.toNat_arity
  obtain ⟨native, _, hnative, hmade⟩ := compile_adopting hver hcode hm (fun a ha => (hhonest a ha).1) t
  obtain ⟨host, _, hhost, hhosted⟩ := compile_hosting hver hcode provider? m t'
  refine ⟨native, host, by rw [hnative], by rw [hhost], ?_, ?_⟩
  · intro args
    rw [Compiled.call_of_hosted hhosted]
    obtain ⟨address, hfind, hgrafted⟩ | ⟨-, hsame⟩ := hmade
    · obtain ⟨hnull, k, hk, hcomputes⟩ := hhonest address hfind
      rw [Compiled.call_of_grafted hgrafted]
      exact hcomputes.value_call hnull hk (by omega) hlen hlowered args
    · rw [Compiled.call_of_hosted hsame]
  · intro args v hargs
    rw [Compiled.call_of_hosted hhosted, Entry.value_call_lowered image _ args (hargs.trans hnat.symm)]
    exact (Simulation.meaning_value hlen (hargs.trans hnat.symm) hlowered).mapError_eq_ok_iff _ v

/-- the kernels that come with the program compute what its demonstrations mean; one of them has no kernel -/
theorem honest_of_mem_demos {demo : Routine × List Int64} (h : demo ∈ Builtin.demos) :
    Builtin.precompiled.Honest Builtin.image demo.1 := by
  intro address hfind
  simp only [Builtin.demos, List.mem_cons, List.not_mem_nil, or_false] at h
  rcases h with rfl | rfl | rfl
  · cases hfind.symm.trans (show Builtin.precompiled.find? "madd" = some (⟨0x6f3b2d81a480⟩, 3) by decide)
    refine ⟨rfl, .ternary fun a b c => a * b + c, rfl, rfl, ?_⟩
    rintro (_ | ⟨a, _ | ⟨b, _ | ⟨c, _ | ⟨d, rest⟩⟩⟩⟩) v hv <;> cases hv
    rfl
  · cases hfind.symm.trans (show Builtin.precompiled.find? "square" = some (⟨0x6f3b2d81a460⟩, 1) by decide)
    refine ⟨rfl, .unary fun a => a * a, rfl, rfl, ?_⟩
    rintro (_ | ⟨a, _ | ⟨b, rest⟩⟩) v hv <;> cases hv
    rfl
  · cases hfind.symm.trans (show Builtin.precompiled.find? "negdiff" = none by decide)

/-- 6 times 7 is 42 by the kernel and by the stack code, and both refuse a call without arguments in the same words -/
theorem compile_agree_madd :
    Builtin.demos[0].1.verify.value = .ok () ∧ Builtin.precompiled.Honest Builtin.image Builtin.demos[0].1 ∧
    ∃ native host, (((adopting Builtin.precompiled).compile Builtin.demos[0].1 NameMap.empty).result NameMap.empty).1 =
        .ok native ∧
      (((hosting none).compile Builtin.demos[0].1 NameMap.empty).result NameMap.empty).1 = .ok host ∧
      (native.call Builtin.image [6, 7, 0]).value = .ok 42 ∧ (host.call Builtin.image [6, 7, 0]).value = .ok 42 ∧
      (native.call Builtin.image []).value = (host.call Builtin.image []).value := by
  have hhonest : Builtin.precompiled.Honest Builtin.image Builtin.demos[0].1 :=
    honest_of_mem_demos (List.getElem_mem _)
  obtain ⟨native, host, hnative, hhost, hsame, hmeaning⟩ := compile_agree Builtin.image Builtin.demos[0].1
    Builtin.precompiled NameMap.empty rfl (by decide) (by decide) hhonest rfl none NameMap.empty NameMap.empty
  have hvalue : (host.call Builtin.image [6, 7, 0]).value = .ok 42 := (hmeaning [6, 7, 0] 42 rfl).2 (by decide)
  exact ⟨rfl, hhonest, native, host, hnative, hhost, (hsame _).trans hvalue, hvalue, hsame []⟩

end Compiler

/-! ## Whatever compiles can be called -/

/-- a call of lowered code with the right number of arguments fails for want of a value only -/
theorem Routine.value_call_bodyOf (f : Routine) (image : Image) {code : List Instr} {args : List Int64}
    (hlen : f.body.length < 2 ^ 32) (hlowered : f.lowered = .ok code) (hargs : args.length = f.arity.toNat) :
    (∃ v, ((Entry.lowered (f.bodyOf code)).call image args).value = .ok v) ∨
      ∃ op, ((Entry.lowered (f.bodyOf code)).call image args).value =
        .error (.error (.execution (.undefinedResult op f.symbol))) := by
  have hsame : Simulation.SameEnd f.symbol (f.meaning args) (Body.value (f.bodyOf code) args) :=
    Simulation.meaning_value hlen hargs hlowered
  rw [Entry.value_call_lowered image _ args hargs]
  cases hvalue : Body.value (f.bodyOf code) args with
  | ok v => exact Or.inl ⟨v, rfl⟩
  | error e =>
    rw [hvalue] at hsame
    obtain ⟨op, rfl⟩ := hsame.eq_undefinedResult
    exact Or.inr ⟨op, rfl⟩

namespace Compiler

/-- **Calls of what was compiled.** Where entries are resolved, a compilation of a routine of fewer than 2^32 operations
that ends has an entry of the routine's arity. Suppose that a kernel of that arity lies at every address that was
supplied, if a native call can pass so many arguments. Then a call with as many arguments as the routine takes returns a
value or, for lowered code, fails with the division error. The one exception is native code with more parameters than a
native call can pass, which refuses the call for this reason. -/
theorem compiled_callable (image : Image) (c : Compiler) (f : Routine) (m : Metadata) (t after : SymbolTable)
    (done : Compiled) (hresolve : c.settings.lowerOnly = false) (hlen : f.body.length < 2 ^ 32)
    (hsupplied : ∀ address, c.Supplies f m address → address.isNull = false →
      f.signature.params.length ≤ maxNativeArity → ∃ k, image address = some k ∧ k.arity = f.signature.params.length)
    (hdone : (c.compile f m).result t = (.ok done, after)) :
    ∃ e, done.result.entry = some e ∧ e.arity = f.arity ∧
      ∀ args, args.length = f.signature.params.length →
        (e.isNative = false →
          (∃ v, (done.call image args).value = .ok v) ∨
            ∃ op, (done.call image args).value = .error (.error (.execution (.undefinedResult op e.symbol))) ∧
              (Error.execution (.undefinedResult op e.symbol)).message =
                "Execution error: " ++ op.name ++ " by zero in '" ++ e.symbol ++ "'") ∧
        (e.isNative = true → args.length ≤ maxNativeArity → ∃ v, (done.call image args).value = .ok v) ∧
        (e.isNative = true → maxNativeArity < args.length →
          (done.call image args).value = .error (.error (.execution (.tooManyArguments e.symbol)))) := by
  have hnat : f.arity.toNat = f.signature.params.length := f.signature.toNat_arity
  obtain ⟨-, ⟨code, hlowered, hresult⟩ | ⟨a, hsupply, hnull, hresult⟩⟩ := result_of_compile_ok hdone
  · rw [hresolve] at hresult
    refine ⟨.lowered (f.bodyOf code), by rw [hresult]; rfl, rfl, ?_⟩
    intro args hargs
    rw [Compiled.call_of_hosted hresult]
    refine ⟨fun _ => ?_, (nomatch ·), (nomatch ·)⟩
    obtain hvalue | ⟨op, hstuck⟩ := f.value_call_bodyOf image hlen hlowered (hargs.trans hnat.symm)
    · exact Or.inl hvalue
    · exact Or.inr ⟨op, hstuck, ExecutionFault.message_undefinedResult f.symbol op⟩
  · rw [hresolve] at hresult
    refine ⟨.native a.symbol a.address f.arity, by rw [hresult]; rfl, rfl, ?_⟩
    intro args hargs
    rw [Compiled.call_of_grafted hresult, Entry.value_call_native image _ _ (hargs.trans hnat.symm)]
    refine ⟨(nomatch ·), fun _ hmax => ?_, fun _ hmax => Entry.jump_of_lt hnull hmax image a.symbol⟩
    obtain ⟨k, hk, harity⟩ := hsupplied a.address hsupply hnull (by omega)
    obtain ⟨v, -, hv⟩ := Entry.jump_of_kernel hnull hk (hargs.trans harity.symm) hmax a.symbol
    exact ⟨v, hv⟩

/-- the kernel for the first demonstration is adopted, and returns a value for three arguments -/
theorem compiled_callable_madd :
    ∃ done after, ((adopting Builtin.precompiled).compile Builtin.demos[0].1 NameMap.empty).result NameMap.empty =
        (.ok done, after) ∧
      ∃ e, done.result.entry = some e ∧ e.isNative = true ∧ e.arity = 3 ∧
        ∃ v, (done.call Builtin.image [6, 7, 0]).value = .ok v := by
  have hhonest : Builtin.precompiled.Honest Builtin.image Builtin.demos[0].1 :=
    honest_of_mem_demos (List.getElem_mem _)
  have hsupplied (address : Address)
      (h : (adopting Builtin.precompiled).Supplies Builtin.demos[0].1 NameMap.empty address) :
      ∃ k, Builtin.image address = some k ∧ k.arity = 3 := by
    rcases h with hpointer | ⟨p, a, hp, ha, rfl⟩
    · cases hpointer
    · cases hp
      obtain ⟨-, k, hk, hcomputes⟩ := hhonest a.address (Precompiled.value_provide_eq_some_iff.1 ha).1
      exact ⟨k, hk, hcomputes.arity⟩
  have hkernel : Builtin.precompiled.find? "madd" = some (⟨0x6f3b2d81a480⟩, 3) := by decide
  obtain ⟨done, after, hdone, hgrafted⟩ :=
    compile_adopting_of_find? (f := Builtin.demos[0].1) (m := NameMap.empty) rfl rfl rfl hkernel rfl NameMap.empty
  obtain ⟨e, hentry, harity, hcalls⟩ := compiled_callable Builtin.image _ _ _ _ _ done rfl (by decide)
    (fun address h _ _ => hsupplied address h) hdone
  obtain rfl : Entry.native Builtin.demos[0].1.symbol ⟨0x6f3b2d81a480⟩ 3 = e := by
    rw [hgrafted] at hentry
    exact Option.some.inj hentry
  obtain ⟨-, hnative, -⟩ := hcalls [6, 7, 0] rfl
  exact ⟨done, after, hdone, _, hentry, rfl, harity, hnative rfl (by decide)⟩

/-- the last of five arguments -/
def fifth : Routine where
  name := "fifth"
  qualifiedName := ""
  signature := { params := ["a", "b", "c", "d", "e"] }
  body := [.arg 4, .ret]

/-- a provider with a body of five parameters -/
def wide : Precompiled := Precompiled.register NameMap.empty "fifth" ⟨16⟩ 5

/-- **Too wide to be called.** A body of five parameters is adopted, and its entry refuses every call with five
arguments, whatever lies at its address. -/
theorem wide_refuses_calls :
    (adopting wide).settings.lowerOnly = false ∧ fifth.body.length < 2 ^ 32 ∧
    ∃ done after, ((adopting wide).compile fifth NameMap.empty).result NameMap.empty = (.ok done, after) ∧
      done.result.entry = some (.native fifth.symbol ⟨16⟩ 5) ∧
      ∀ image, (done.call image [1, 2, 3, 4, 5]).value =
        .error (.error (.execution (.tooManyArguments fifth.symbol))) := by
  have hbody : wide.find? fifth.name = some (⟨16⟩, fifth.arity) := by decide
  obtain ⟨done, after, hdone, hgrafted⟩ :=
    compile_adopting_of_find? (m := NameMap.empty) rfl rfl rfl hbody rfl NameMap.empty
  refine ⟨rfl, by decide, done, after, hdone, by rw [hgrafted]; rfl, ?_⟩
  intro image
  rw [Compiled.call_of_grafted hgrafted]
  rfl

end Compiler

end Graft
