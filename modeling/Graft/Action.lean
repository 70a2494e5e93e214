/-
Actions: work on a state that logs as it goes and can stop before it ends.

An action takes a state and gives its outcome together with the state it reached, whether it ended or stopped: what was
changed before a stop stays changed. `result` leaves the log aside, and each combinator has an equation for it.

`embed` runs an action on a part of the state, or on a bench set up for it, and writes back what should remain.
-/
import Graft.Trace

namespace Graft

def Action (ε σ α : Type) : Type := σ → Traced (Except ε α × σ)

namespace Action

variable {ε ε' σ τ α β : Type}

/-- outcome and state reached, without the log -/
def result (x : Action ε σ α) (s : σ) : Except ε α × σ := (x s).value

protected def pure (a : α) : Action ε σ α := fun s => ⟨(.ok a, s), []⟩

protected def bind (x : Action ε σ α) (f : α → Action ε σ β) : Action ε σ β := fun s =>
  match x s with
  | ⟨(.ok a, t), events⟩ =>
    let y := f a t
    ⟨y.value, events ++ y.events⟩
  | ⟨(.error e, t), events⟩ => ⟨(.error e, t), events⟩

instance : Monad (Action ε σ) where
  pure := Action.pure
  bind := Action.bind

/-- stop -/
def stop (e : ε) : Action ε σ α := fun s => ⟨(.error e, s), []⟩

def read : Action ε σ σ := fun s => ⟨(.ok s, s), []⟩

def write (s : σ) : Action ε σ Unit := fun _ => ⟨(.ok (), s), []⟩

def update (f : σ → σ) : Action ε σ Unit := fun s => ⟨(.ok (), f s), []⟩

/-- log one event -/
def note (level : Level) (text : String) : Action ε σ Unit := fun s => ⟨(.ok (), s), [⟨level, text⟩]⟩

/-- take a traced outcome over, with its log -/
def ofTraced (x : Traced (Except ε α)) : Action ε σ α := fun s => ⟨(x.value, s), x.events⟩

/-- take a traced value over, with its log -/
def lift (x : Traced α) : Action ε σ α := fun s => ⟨(.ok x.value, s), x.events⟩

def ofExcept (x : Except ε α) : Action ε σ α := fun s => ⟨(x, s), []⟩

/-- go on after a stop, with what it stopped with -/
def attempt (x : Action ε σ α) : Action ε' σ (Except ε α) := fun s =>
  match x s with
  | ⟨(r, t), events⟩ => ⟨(.ok r, t), events⟩

def mapError (f : ε → ε') (x : Action ε σ α) : Action ε' σ α := fun s =>
  match x s with
  | ⟨(.ok a, t), events⟩ => ⟨(.ok a, t), events⟩
  | ⟨(.error e, t), events⟩ => ⟨(.error (f e), t), events⟩

/-- run on a state made from the present one; the outcome comes with the state reached there, and `back` says what
remains of it here, also after a stop -/
def embed (into : σ → τ) (back : σ → τ → σ) (x : Action ε τ α) : Action ε σ (α × τ) := fun s =>
  match x (into s) with
  | ⟨(.ok a, t), events⟩ => ⟨(.ok (a, t), back s t), events⟩
  | ⟨(.error e, t), events⟩ => ⟨(.error e, back s t), events⟩

/-- run on a part of the state -/
def focus (part : σ → τ) (put : σ → τ → σ) (x : Action ε τ α) : Action ε σ α := do
  let r ← embed part put x
  return r.1

@[simp] theorem result_pure (a : α) (s : σ) : (pure a : Action ε σ α).result s = (.ok a, s) := rfl

@[simp] theorem result_bind (x : Action ε σ α) (f : α → Action ε σ β) (s : σ) :
    (x >>= f).result s = match x.result s with
      | (.ok a, t) => (f a).result t
      | (.error e, t) => (.error e, t) := by
  simp only [result, bind, Action.bind]
  split <;> rename_i h <;> simp [h]

@[simp] theorem result_stop (e : ε) (s : σ) : (stop e : Action ε σ α).result s = (.error e, s) := rfl

@[simp] theorem result_read (s : σ) : (read : Action ε σ σ).result s = (.ok s, s) := rfl

@[simp] theorem result_write (t s : σ) : (write t : Action ε σ Unit).result s = (.ok (), t) := rfl

@[simp] theorem result_update (f : σ → σ) (s : σ) : (update f : Action ε σ Unit).result s = (.ok (), f s) := rfl

@[simp] theorem result_note (level : Level) (text : String) (s : σ) :
    (note level text : Action ε σ Unit).result s = (.ok (), s) := rfl

@[simp] theorem result_ofTraced (x : Traced (Except ε α)) (s : σ) : (ofTraced x).result s = (x.value, s) := rfl

@[simp] theorem result_lift (x : Traced α) (s : σ) : (lift x : Action ε σ α).result s = (.ok x.value, s) := rfl

@[simp] theorem result_ofExcept (x : Except ε α) (s : σ) : (ofExcept x).result s = (x, s) := rfl

@[simp] theorem result_attempt (x : Action ε σ α) (s : σ) :
    (attempt x : Action ε' σ (Except ε α)).result s = (.ok (x.result s).1, (x.result s).2) := rfl

@[simp] theorem result_mapError (f : ε → ε') (x : Action ε σ α) (s : σ) :
    (mapError f x).result s = ((x.result s).1.mapError f, (x.result s).2) := by
  simp only [result, mapError]
  split <;> rename_i h <;> rw [h] <;> rfl

@[simp] theorem result_embed (into : σ → τ) (back : σ → τ → σ) (x : Action ε τ α) (s : σ) :
    (embed into back x).result s =
      ((x.result (into s)).1.map fun a => (a, (x.result (into s)).2), back s (x.result (into s)).2) := by
  simp only [result, embed]
  split <;> rename_i h <;> simp [h, Except.map]

@[simp] theorem result_focus (part : σ → τ) (put : σ → τ → σ) (x : Action ε τ α) (s : σ) :
    (focus part put x).result s = ((x.result (part s)).1, put s (x.result (part s)).2) := by
  simp only [focus, result_bind, result_embed]
  cases (x.result (part s)).1 <;> rfl

end Action

end Graft
