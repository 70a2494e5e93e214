/-
Actions that follow each other.

An action follows another along a map of states and a map of values when it does, from the image of any state, what the
other does from the state itself: it logs the same, stops with the same error or gives the image of the value, and
reaches the image of the state. An action that follows itself overlooks the map: the map changes a part of the state
that the action neither reads nor writes, or that makes no difference to it.

There is one lemma for each way of putting actions together, so an action follows another as soon as its parts do. What
`Follows.read` hands on is the state itself, so the part after it has to follow for every state; what is overlooked is
handed on as it is (`Overlooks.bind`).
-/
import Mathlib.Tactic
import Graft.Action

namespace Graft.Action

variable {ε ε' σ σ' τ τ' α α' β β' : Type}

/-- `y` does from the image of a state what `x` does from the state, up to the images of value and state -/
def Follows (g : σ → σ') (h : α → α') (x : Action ε σ α) (y : Action ε σ' α') : Prop :=
  ∀ s, y (g s) = ⟨((x s).value.1.map h, g (x s).value.2), (x s).events⟩

/-- the change `g` of the state makes no difference to what the action logs and gives, and is still there after it -/
abbrev Overlooks (x : Action ε σ α) (g : σ → σ) : Prop := Follows g id x x

namespace Follows

variable {g : σ → σ'} {h : α → α'} {x : Action ε σ α} {y : Action ε σ' α'}

theorem result (hxy : Follows g h x y) (s : σ) : y.result (g s) = ((x.result s).1.map h, g (x.result s).2) := by
  rw [Action.result, hxy s]
  rfl

theorem events (hxy : Follows g h x y) (s : σ) : (y (g s)).events = (x s).events := by rw [hxy s]

theorem refl (x : Action ε σ α) : Follows id id x x := by
  intro s
  rw [id]
  rcases x s with ⟨⟨_ | a, t⟩, events⟩ <;> rfl

/-! ## Single actions -/

theorem pure (a : α) : Follows g h (Pure.pure a : Action ε σ α) (Pure.pure (h a)) := fun _ => rfl

theorem stop (e : ε) : Follows g h (stop e) (stop e) := fun _ => rfl

theorem read : Follows g g (read : Action ε σ σ) read := fun _ => rfl

theorem write (s : σ) : Follows g id (write s : Action ε σ Unit) (write (g s)) := fun _ => rfl

/-! ## Actions put together -/

theorem bind {k : β → β'} {f : α → Action ε σ β} {f' : α' → Action ε σ' β'} (hxy : Follows g h x y)
    (hf : ∀ a, Follows g k (f a) (f' (h a))) : Follows g k (x >>= f) (y >>= f') := by
  intro s
  have hy := hxy s
  simp only [Bind.bind, Action.bind, hy]
  rcases x s with ⟨⟨e | a, t⟩, events⟩
  · rfl
  · simp only [Except.map, hf a t]

theorem attempt (hxy : Follows g h x y) :
    Follows g (Except.map h) (attempt x : Action ε' σ (Except ε α)) (attempt y) := by
  intro s
  simp only [Action.attempt, hxy s]
  rfl

theorem mapError (hxy : Follows g h x y) (f : ε → ε') : Follows g h (mapError f x) (mapError f y) := by
  intro s
  simp only [Action.mapError, hxy s]
  rcases x s with ⟨⟨_ | a, t⟩, events⟩ <;> rfl

/-- actions on another state that follow each other there, set up and written back alike -/
theorem embed {k : τ → τ'} {into : σ → τ} {into' : σ' → τ'} {back : σ → τ → σ} {back' : σ' → τ' → σ'}
    {x : Action ε τ α} {y : Action ε τ' α'} (hxy : Follows k h x y) (hinto : ∀ s, into' (g s) = k (into s))
    (hback : ∀ s t, back' (g s) (k t) = g (back s t)) :
    Follows g (Prod.map h k) (embed into back x) (embed into' back' y) := by
  intro s
  simp only [Action.embed, hinto s, hxy (into s)]
  rcases x (into s) with ⟨⟨e | a, t⟩, events⟩
  · simp only [Except.map, hback s t]
  · simp only [Except.map, hback s t]
    rfl

end Follows

/-! ## Changes that are overlooked -/

namespace Overlooks

variable {g : σ → σ} {x : Action ε σ α}

theorem update {u : σ → σ} (hu : ∀ s, u (g s) = g (u s)) : Overlooks (update u : Action ε σ Unit) g := by
  intro s
  simp only [Action.update, hu s]
  rfl

theorem note {level : Level} {text : String} : Overlooks (note level text : Action ε σ Unit) g := fun _ => rfl

theorem lift (r : Traced α) : Overlooks (lift r : Action ε σ α) g := fun _ => rfl

theorem ofTraced (r : Traced (Except ε α)) : Overlooks (ofTraced r : Action ε σ α) g := by
  intro s
  rcases r with ⟨_ | a, events⟩ <;> rfl

theorem ofExcept (r : Except ε α) : Overlooks (ofExcept r : Action ε σ α) g := by
  intro s
  cases r <;> rfl

/-- what is overlooked does not reach the part after it -/
theorem bind {k : β → β'} {f : α → Action ε σ β} {f' : α → Action ε σ β'} (hx : Overlooks x g)
    (hf : ∀ a, Follows g k (f a) (f' a)) : Follows g k (x >>= f) (x >>= f') := Follows.bind hx hf

/-- a note that is made under a condition, and what comes after it in both cases -/
theorem noteIf {c : Prop} [Decidable c] {level : Level} {text : String} {k : β → β'} {f : Unit → Action ε σ β}
    {f' : Unit → Action ε σ β'} (hf : Follows g k (f ()) (f' ())) :
    Follows g k (if c then Action.note level text >>= f else f ())
      (if c then Action.note level text >>= f' else f' ()) := by
  split_ifs
  · exact note.bind fun _ => hf
  · exact hf

theorem attempt (hx : Overlooks x g) : Overlooks (attempt x : Action ε' σ (Except ε α)) g := by
  have hattempt : Follows g (Except.map id) (Action.attempt x : Action ε' σ (Except ε α)) (Action.attempt x) :=
    Follows.attempt hx
  rwa [Except.map_id] at hattempt

/-- an action on another state overlooks what makes no difference to its setting up -/
theorem embed {into : σ → τ} {back : σ → τ → σ} (x : Action ε τ α) (hinto : ∀ s, into (g s) = into s)
    (hback : ∀ s t, back (g s) t = g (back s t)) : Overlooks (embed into back x) g := by
  have hembed := (Follows.refl x).embed hinto hback
  rwa [Prod.map_id] at hembed

theorem focus {part : σ → τ} {put : σ → τ → σ} (x : Action ε τ α) (hpart : ∀ s, part (g s) = part s)
    (hput : ∀ s t, put (g s) t = g (put s t)) : Overlooks (focus part put x) g :=
  (embed x hpart hput).bind fun r => Follows.pure r.1

end Overlooks

end Graft.Action
