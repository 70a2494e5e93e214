/-
Maps from names to values, kept in the order of the names.

`NameMap α` is the list of its entries in strictly ascending order of name (by code points), with the order in the type.
So there is one map for each set of bindings: `NameMap.ext_find?` says that maps which answer alike are equal, and
`names` needs no sorting. `NameSet` is the map to the one-point type.

`find?_insert` and `find?_erase` say what the two updates do to every name.
-/

namespace Graft

/-- entries in strictly ascending order of name -/
def Ascending {α : Type} (entries : List (String × α)) : Prop := entries.Pairwise fun a b => a.1 < b.1

structure NameMap (α : Type) where
  entries : List (String × α)
  ascending : Ascending entries

namespace NameMap

variable {α : Type}

instance [DecidableEq α] : DecidableEq (NameMap α) := fun a b =>
  decidable_of_iff (a.entries = b.entries) (by cases a; cases b; simp)

def empty : NameMap α := ⟨[], List.Pairwise.nil⟩

instance : EmptyCollection (NameMap α) := ⟨empty⟩
instance : Inhabited (NameMap α) := ⟨empty⟩

/-- the value bound to a name -/
def find? (m : NameMap α) (name : String) : Option α := m.entries.lookup name

def contains (m : NameMap α) (name : String) : Bool := (m.find? name).isSome

def size (m : NameMap α) : Nat := m.entries.length

def isEmpty (m : NameMap α) : Bool := m.entries.isEmpty

/-- the bound names, in ascending order -/
def names (m : NameMap α) : List String := m.entries.map Prod.fst

/-- put an entry at its place, in the place of an entry with the same name -/
def insertEntry (name : String) (value : α) : List (String × α) → List (String × α)
  | [] => [(name, value)]
  | e :: rest =>
    if name < e.1 then (name, value) :: e :: rest
    else if name = e.1 then (name, value) :: rest
    else e :: insertEntry name value rest

theorem mem_insertEntry {name : String} {value : α} {entries : List (String × α)} {e : String × α}
    (h : e ∈ insertEntry name value entries) : e = (name, value) ∨ e ∈ entries := by
  induction entries with
  | nil => simpa [insertEntry] using h
  | cons head rest ih =>
    simp only [insertEntry] at h
    split at h
    · simpa using h
    · split at h
      · rcases List.mem_cons.1 h with h | h
        · exact Or.inl h
        · exact Or.inr (List.mem_cons_of_mem _ h)
      · rcases List.mem_cons.1 h with h | h
        · exact Or.inr (h ▸ List.mem_cons_self)
        · exact (ih h).imp_right (List.mem_cons_of_mem _)

/-- of two different names, the one that is not smaller is greater -/
theorem lt_of_not_lt_of_ne {a b : String} (hlt : ¬ a < b) (hne : a ≠ b) : b < a := by
  rcases Decidable.em (b < a) with h | h
  · exact h
  · exact absurd (String.le_antisymm (String.not_lt.1 h) (String.not_lt.1 hlt)) hne

theorem ascending_insertEntry (name : String) (value : α) {entries : List (String × α)} (h : Ascending entries) :
    Ascending (insertEntry name value entries) := by
  induction entries with
  | nil => simp [insertEntry, Ascending]
  | cons head rest ih =>
    obtain ⟨hhead, hrest⟩ := List.pairwise_cons.1 h
    simp only [insertEntry]
    split
    · rename_i hlt
      refine List.pairwise_cons.2 ⟨fun e he => ?_, h⟩
      rcases List.mem_cons.1 he with rfl | he
      · exact hlt
      · exact String.lt_trans hlt (hhead e he)
    · rename_i hlt
      split
      · rename_i heq
        exact List.pairwise_cons.2 ⟨fun e he => heq ▸ hhead e he, hrest⟩
      · rename_i hne
        refine List.pairwise_cons.2 ⟨fun e he => ?_, ih hrest⟩
        rcases mem_insertEntry he with rfl | he
        · exact lt_of_not_lt_of_ne hlt hne
        · exact hhead e he

/-- bind a name, in the place of what it was bound to -/
def insert (m : NameMap α) (name : String) (value : α) : NameMap α :=
  ⟨insertEntry name value m.entries, ascending_insertEntry name value m.ascending⟩

/-- unbind a name -/
def erase (m : NameMap α) (name : String) : NameMap α :=
  ⟨m.entries.filter (·.1 ≠ name), m.ascending.filter _⟩

/-- bind each name in turn: a later entry replaces an earlier one -/
def ofList (entries : List (String × α)) : NameMap α := entries.foldl (fun m e => m.insert e.1 e.2) empty

/-! ## What the operations do to every name -/

theorem lookup_cons (key : String) (value : α) (entries : List (String × α)) (name : String) :
    ((key, value) :: entries).lookup name = if name = key then some value else entries.lookup name := by
  rw [List.lookup_cons]
  by_cases h : name = key
  · simp [h]
  · simp [beq_eq_false_iff_ne.2 h, h]

theorem lookup_insertEntry (name : String) (value : α) (entries : List (String × α)) (other : String) :
    (insertEntry name value entries).lookup other = if other = name then some value else entries.lookup other := by
  induction entries with
  | nil => simp [insertEntry, lookup_cons]
  | cons head rest ih =>
    obtain ⟨key, old⟩ := head
    simp only [insertEntry]
    split
    · rw [lookup_cons]
    · split <;> simp only [lookup_cons, ih] <;> grind

theorem find?_empty (name : String) : (empty : NameMap α).find? name = none := rfl

theorem find?_insert (m : NameMap α) (name : String) (value : α) (other : String) :
    (m.insert name value).find? other = if other = name then some value else m.find? other :=
  lookup_insertEntry name value m.entries other

theorem lookup_filter_ne (entries : List (String × α)) (name other : String) :
    (entries.filter (·.1 ≠ name)).lookup other = if other = name then none else entries.lookup other := by
  induction entries with
  | nil => simp
  | cons head rest ih =>
    obtain ⟨key, old⟩ := head
    by_cases hn : key = name
    · rw [List.filter_cons_of_neg (by simpa using hn), ih, lookup_cons]
      split <;> simp_all
    · rw [List.filter_cons_of_pos (by simpa using hn), lookup_cons, lookup_cons, ih]
      split <;> simp_all

theorem find?_erase (m : NameMap α) (name other : String) :
    (m.erase name).find? other = if other = name then none else m.find? other :=
  lookup_filter_ne m.entries name other

theorem lookup_eq_none {entries : List (String × α)} {name : String} (h : ∀ e ∈ entries, name < e.1) :
    entries.lookup name = none := by
  induction entries with
  | nil => rfl
  | cons head rest ih =>
    obtain ⟨key, value⟩ := head
    rw [lookup_cons, if_neg, ih fun e he => h e (List.mem_cons_of_mem _ he)]
    rintro rfl
    exact String.lt_irrefl _ (h _ List.mem_cons_self)

theorem mem_of_lookup {entries : List (String × α)} {name : String} {value : α}
    (h : entries.lookup name = some value) : (name, value) ∈ entries := by
  induction entries with
  | nil => simp at h
  | cons head rest ih =>
    obtain ⟨key, old⟩ := head
    rw [lookup_cons] at h
    split at h
    · simp_all
    · exact List.mem_cons_of_mem _ (ih h)

theorem eq_of_lookup {a b : List (String × α)} (ha : Ascending a) (hb : Ascending b)
    (h : ∀ name, a.lookup name = b.lookup name) : a = b := by
  induction a generalizing b with
  | nil =>
    cases b with
    | nil => rfl
    | cons e rest =>
      obtain ⟨k, v⟩ := e
      simpa [lookup_cons] using h k
  | cons x xs ih =>
    obtain ⟨k, v⟩ := x
    cases b with
    | nil => simpa [lookup_cons] using h k
    | cons y ys =>
      obtain ⟨l, w⟩ := y
      obtain ⟨hx, hxs⟩ := List.pairwise_cons.1 ha
      obtain ⟨hy, hys⟩ := List.pairwise_cons.1 hb
      -- the first name of either list is bound by the other, so neither is smaller
      have hkl : k = l := by
        by_cases hne : k = l
        · exact hne
        have hk := h k
        have hl := h l
        rw [lookup_cons, lookup_cons, if_pos rfl, if_neg hne] at hk
        rw [lookup_cons, lookup_cons, if_pos rfl, if_neg (Ne.symm hne)] at hl
        exact absurd (hx _ (mem_of_lookup hl)) (String.lt_asymm (hy _ (mem_of_lookup hk.symm)))
      subst hkl
      have hvw : v = w := by simpa [lookup_cons] using h k
      subst hvw
      rw [ih hxs hys fun name => ?_]
      by_cases hname : name = k
      · subst hname; rw [lookup_eq_none hx, lookup_eq_none hy]
      · simpa [lookup_cons, hname] using h name

/-- maps that bind every name alike are equal -/
theorem ext_find? {a b : NameMap α} (h : ∀ name, a.find? name = b.find? name) : a = b := by
  cases a; cases b; simpa using eq_of_lookup (by assumption) (by assumption) h

end NameMap

/-- sets of names -/
abbrev NameSet := NameMap Unit

namespace NameSet

def add (s : NameSet) (name : String) : NameSet := s.insert name ()

def ofNames (names : List String) : NameSet := names.foldl add NameMap.empty

end NameSet

end Graft
