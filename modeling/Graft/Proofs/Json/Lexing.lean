/-
The lexer reads back what is written for tokens.

A word or a numeral is a token only once a character comes that cannot belong to it. So texts are looked at together
with what follows them: `EndsToken rest` says that `rest` cannot go on with a token, and `Spells cs ts` that the lexer,
wherever it stands between two tokens, takes the tokens `ts` out of `cs`, whatever such text follows.

Each kind of token is spelled by what is written for it: words by evaluation, integers by their digits (`spells_int`),
strings piece by piece (`spells_str`), where a character is read as itself or as the unit of a `\u` escape
(`Piece.Stands`). Longer texts are put together by `Spells.append`, `Spells.mark` and `Spells.blank`.
-/
import Mathlib.Tactic
import Mathlib.Data.List.TakeWhile
import Graft.Json.Lexer
import Graft.Json.Writer

namespace Graft.Json

namespace Lexer

/-- the tokens of the text that is still to come, and of what was read so far -/
def run (l : Lexer) (cs : List Char) : Option (List Token) := do
  let last ← cs.foldlM step l
  last.finish

theorem run_nil (l : Lexer) : l.run [] = l.finish := rfl

theorem run_cons (l : Lexer) (c : Char) (cs : List Char) : l.run (c :: cs) = (l.step c).bind (·.run cs) := by
  simp only [run, List.foldlM_cons, Option.bind_eq_bind, Option.bind_assoc]

/-- one character, where the lexer's next state is known -/
theorem run_cons_of_step {l k : Lexer} {c : Char} (h : l.step c = some k) (cs : List Char) :
    l.run (c :: cs) = k.run cs := by
  rw [run_cons, h]
  rfl

end Lexer

open Lexer

/-- no word and no numeral goes on with this text -/
def EndsToken (rest : List Char) : Prop := ∀ c ∈ rest.head?, c.isAlpha = false ∧ isNumeralChar c = false

theorem endsToken_nil : EndsToken [] := by
  intro c hc
  cases hc

theorem endsToken_cons {c : Char} (halpha : c.isAlpha = false) (hnumeral : isNumeralChar c = false) (rest : List Char) :
    EndsToken (c :: rest) := by
  intro d hd
  obtain rfl : c = d := Option.some.inj hd
  exact ⟨halpha, hnumeral⟩

/-- between any two tokens the lexer takes `ts` out of `cs`, if what follows cannot go on with the last of them -/
def Spells (cs : List Char) (ts : List Token) : Prop :=
  ∀ before rest, EndsToken rest → (Lexer.mk .between before).run (cs ++ rest) =
    (Lexer.mk .between (ts.reverse ++ before)).run rest

/-- a text that spells tokens has them -/
theorem lex_of_spells {cs : List Char} {ts : List Token} (h : Spells cs ts) : lex cs = some ts := by
  have hrun := h [] [] endsToken_nil
  rw [List.append_nil, List.append_nil, run_nil] at hrun
  exact hrun.trans (by simp [finish])

/-! ## Words and numerals -/

/-- the characters of a word make it a token as soon as something else comes -/
theorem run_word (letters : List Char) {t : Token} (h : wordToken letters.reverse = some t) (before : List Token)
    {rest : List Char} (hrest : EndsToken rest) :
    (Lexer.mk (.word letters) before).run rest = (Lexer.mk .between (t :: before)).run rest := by
  cases rest with
  | nil => simp [run_nil, finish, h]
  | cons c rest =>
    have halpha := (hrest c rfl).1
    simp [run_cons, step, halpha, h]

/-- the characters of a numeral make it a token as soon as something else comes -/
theorem run_numeral {chars : List Char} {t : Token} (h : numeralToken chars.reverse = some t) (before : List Token)
    {rest : List Char} (hrest : EndsToken rest) :
    (Lexer.mk (.numeral chars) before).run rest = (Lexer.mk .between (t :: before)).run rest := by
  cases rest with
  | nil => simp [run_nil, finish, h]
  | cons c rest =>
    have hnumeral := (hrest c rfl).2
    simp [run_cons, step, hnumeral, h]

theorem spells_null : Spells Token.null.write [.null] := by
  intro before rest hrest
  exact run_word ['l', 'l', 'u', 'n'] rfl before hrest

theorem spells_bool (b : Bool) : Spells (Token.bool b).write [.bool b] := by
  intro before rest hrest
  cases b with
  | true => exact run_word ['e', 'u', 'r', 't'] rfl before hrest
  | false => exact run_word ['e', 's', 'l', 'a', 'f'] rfl before hrest

/-! ### Digits -/

theorem isNumeralChar_of_isDigit {c : Char} (h : c.isDigit = true) : isNumeralChar c = true := by
  simp [isNumeralChar, h]

/-- a digit begins a numeral -/
theorem step_between_of_isDigit {c : Char} (h : c.isDigit = true) (before : List Token) :
    (Lexer.mk .between before).step c = some ⟨.numeral [c], before⟩ := by
  have hne (d : Char) (hd : d.isDigit = false) : c ≠ d := by
    rintro rfl
    rw [h] at hd
    cases hd
  simp [step, fresh, h, hne ' ' rfl, hne '\t' rfl, hne '\n' rfl, hne '\r' rfl, hne '[' rfl, hne ']' rfl, hne '\x7b' rfl,
    hne '\x7d' rfl, hne ':' rfl, hne ',' rfl, hne '"' rfl]

/-- a numeral takes all the characters that can belong to it -/
theorem run_numeral_append {cs : List Char} (h : ∀ c ∈ cs, isNumeralChar c = true) (got : List Char)
    (before : List Token) (rest : List Char) :
    (Lexer.mk (.numeral got) before).run (cs ++ rest) = (Lexer.mk (.numeral (cs.reverse ++ got)) before).run rest := by
  induction cs generalizing got with
  | nil => rfl
  | cons c cs ih =>
    have hstep : (Lexer.mk (.numeral got) before).step c = some ⟨.numeral (c :: got), before⟩ := by
      simp [step, h c List.mem_cons_self]
    rw [List.cons_append, run_cons_of_step hstep, ih fun d hd => h d (List.mem_cons_of_mem c hd)]
    simp

/-- digits, and nothing after them -/
theorem digits?_of_isDigit {ds : List Char} (hne : ds ≠ []) (h : ∀ c ∈ ds, c.isDigit = true) :
    digits? ds = some (ds, []) := by
  have htake : ds.takeWhile Char.isDigit = ds := List.takeWhile_eq_self_iff.2 h
  have hdrop : ds.dropWhile Char.isDigit = [] := List.dropWhile_eq_nil_iff.2 h
  cases ds with
  | nil => exact absurd rfl hne
  | cons d ds => simp only [digits?, htake, hdrop]

/-- a number that is not zero is not written with a leading zero -/
theorem head?_toDigits_ne_zero {n : Nat} (h : n ≠ 0) : (Nat.toDigits 10 n).head? ≠ some '0' := by
  induction n using Nat.strongRecOn with
  | _ n ih =>
    by_cases hlt : n < 10
    · interval_cases n <;> first | exact absurd rfl h | decide
    · rw [Nat.toDigits_of_base_le (by decide) (by omega), List.head?_append_of_ne_nil _ Nat.toDigits_ne_nil]
      exact ih (n / 10) (by omega) (by omega)

/-- the digits of a number, as the lexer judges them -/
theorem unsignedToken_toDigits (negative : Bool) (spelling : String) (n : Nat) :
    unsignedToken negative spelling (Nat.toDigits 10 n) =
      some (if negative then if n = 0 then .real spelling else .int (-n) else .int n) := by
  have hdigits : digits? (Nat.toDigits 10 n) = some (Nat.toDigits 10 n, []) :=
    digits?_of_isDigit Nat.toDigits_ne_nil fun c hc => Nat.isDigit_of_mem_toDigits (by decide) (by decide) hc
  have hvalue : Nat.ofDigitChars 10 (Nat.toDigits 10 n) 0 = n := Nat.ofDigitChars_ten_toDigits
  simp only [unsignedToken, hdigits]
  split
  · rename_i h
    cases h
  · rename_i zero d ds rest h
    -- two digits of which the first is zero: the number is zero, and has one digit
    obtain ⟨h, -⟩ := Prod.mk.inj (Option.some.inj h)
    by_cases hn : n = 0
    · subst hn
      cases h
    · exact absurd (by rw [h]; rfl) (head?_toDigits_ne_zero hn)
  · rename_i ds _ h
    obtain ⟨rfl, -⟩ := Prod.mk.inj (Option.some.inj h)
    rw [hvalue]
    cases negative <;> split_ifs <;> simp_all
  · rename_i ds rest _ hrest h
    obtain ⟨rfl, rfl⟩ := Prod.mk.inj (Option.some.inj h)
    exact absurd rfl hrest

/-- an integer is read back from its digits and sign -/
theorem numeralToken_writeInt (n : Int) : numeralToken (writeInt n) = some (.int n) := by
  cases n with
  | ofNat n =>
    obtain ⟨d, ds, hds⟩ := List.exists_cons_of_ne_nil (Nat.toDigits_ne_nil (b := 10) (n := n))
    have hdigit : d.isDigit = true := Nat.isDigit_of_mem_toDigits (b := 10) (n := n) (by decide) (by decide)
      (by rw [hds]; exact List.mem_cons_self)
    have hunsigned := unsignedToken_toDigits false (String.ofList (Nat.toDigits 10 n)) n
    simp only [writeInt, numeralToken]
    split
    · rename_i rest h
      rw [hds] at h
      obtain ⟨rfl, -⟩ := List.cons.inj h
      cases hdigit
    · simpa using hunsigned
  | negSucc n =>
    have hunsigned := unsignedToken_toDigits true (String.ofList ('-' :: Nat.toDigits 10 (n + 1))) (n + 1)
    simp only [writeInt, numeralToken, hunsigned]
    simp [Int.negSucc_eq]

theorem isNumeralChar_of_mem_writeInt {n : Int} {c : Char} (h : c ∈ writeInt n) : isNumeralChar c = true := by
  have hdigit {k : Nat} (hc : c ∈ Nat.toDigits 10 k) : isNumeralChar c = true :=
    isNumeralChar_of_isDigit (Nat.isDigit_of_mem_toDigits (by decide) (by decide) hc)
  cases n with
  | ofNat n => exact hdigit h
  | negSucc n =>
    rcases List.mem_cons.1 h with rfl | h
    · rfl
    · exact hdigit h

/-- what is written for an integer begins a numeral -/
theorem exists_writeInt_eq_cons (n : Int) :
    ∃ c cs, writeInt n = c :: cs ∧ ∀ before, (Lexer.mk .between before).step c = some ⟨.numeral [c], before⟩ := by
  cases n with
  | ofNat n =>
    obtain ⟨d, ds, hds⟩ := List.exists_cons_of_ne_nil (Nat.toDigits_ne_nil (b := 10) (n := n))
    have hdigit : d.isDigit = true := Nat.isDigit_of_mem_toDigits (b := 10) (n := n) (by decide) (by decide)
      (by rw [hds]; exact List.mem_cons_self)
    exact ⟨d, ds, hds, step_between_of_isDigit hdigit⟩
  | negSucc n => exact ⟨'-', _, rfl, fun _ => rfl⟩

theorem spells_int (n : Int) : Spells (Token.int n).write [.int n] := by
  intro before rest hrest
  obtain ⟨c, cs, hwrite, hstep⟩ := exists_writeInt_eq_cons n
  have hchars : ∀ d ∈ cs, isNumeralChar d = true := by
    intro d hd
    apply isNumeralChar_of_mem_writeInt (n := n)
    rw [hwrite]
    exact List.mem_cons_of_mem c hd
  have htoken : numeralToken (cs.reverse ++ [c]).reverse = some (.int n) := by
    rw [List.reverse_append, List.reverse_reverse, List.reverse_singleton, List.singleton_append, ← hwrite]
    exact numeralToken_writeInt n
  have htext : (Token.int n).write = c :: cs := hwrite
  rw [htext, List.cons_append, run_cons_of_step (hstep before), run_numeral_append hchars]
  exact run_numeral htoken before hrest

/-! ## Strings -/

/-- the piece stands for the character: it is the character, or the unit of an escape that writes a control character -/
inductive Piece.Stands : Piece → Char → Prop
  | char (c : Char) : Stands (.char c) c
  | unit (c : Char) (h : c.toNat < 0x20) : Stands (.unit c.toNat) c

/-- a unit that is no half of a pair is a character, whatever follows -/
theorem assemble_unit {u : Nat} (h : u < 0xD800) (rest : List Piece) :
    assemble (.unit u :: rest) = (assemble rest).map (Char.ofNat u :: ·) := by
  have hhigh : isHighHalf u = false := by simp [isHighHalf]; omega
  have hlow : isLowHalf u = false := by simp [isLowHalf]; omega
  rcases rest with - | ⟨- | -, rest⟩
  · simp [assemble, hhigh, hlow]
  · simp [assemble, hhigh, hlow]
  · simp [assemble, hhigh, hlow]

theorem assemble_of_stands {ps : List Piece} {cs : List Char} (h : List.Forall₂ Piece.Stands ps cs) :
    assemble ps = some cs := by
  induction h with
  | nil => rfl
  | cons hstands _ ih =>
    cases hstands with
    | char c => simp [assemble, ih]
    | unit c hlt => simp [assemble_unit (Nat.lt_trans hlt (by decide)), ih]

theorem hexValue?_hexDigit {n : Nat} (h : n < 16) : hexValue? (hexDigit n) = some n := by
  interval_cases n <;> rfl

/-- four digits after `\u` are a unit -/
theorem run_unit (high low : Nat) (hhigh : high < 16) (hlow : low < 16) (pieces : List Piece) (before : List Token)
    (rest : List Char) :
    (Lexer.mk (.string pieces) before).run ('\\' :: 'u' :: '0' :: '0' :: hexDigit high :: hexDigit low :: rest) =
      (Lexer.mk (.string (.unit (16 * high + low) :: pieces)) before).run rest := by
  have hopen :
      (Lexer.mk (.string pieces) before).run ('\\' :: 'u' :: '0' :: '0' :: hexDigit high :: hexDigit low :: rest) =
        (Lexer.mk (.unit pieces 0 2) before).run (hexDigit high :: hexDigit low :: rest) := rfl
  rw [hopen, run_cons_of_step (k := ⟨.unit pieces high 1, before⟩) (by simp [step, hexValue?_hexDigit hhigh]),
    run_cons_of_step (k := ⟨.string (.unit (16 * high + low) :: pieces), before⟩)
      (by simp [step, hexValue?_hexDigit hlow])]

/-- inside a string, what is written for a character is one piece, which stands for it -/
theorem run_escape (c : Char) :
    ∃ p, Piece.Stands p c ∧ ∀ pieces before rest,
      (Lexer.mk (.string pieces) before).run (escape c ++ rest) =
        (Lexer.mk (.string (p :: pieces)) before).run rest := by
  unfold escape
  split
  · exact ⟨_, .char _, fun _ _ _ => rfl⟩
  · exact ⟨_, .char _, fun _ _ _ => rfl⟩
  · exact ⟨_, .char _, fun _ _ _ => rfl⟩
  · exact ⟨_, .char _, fun _ _ _ => rfl⟩
  · exact ⟨_, .char _, fun _ _ _ => rfl⟩
  · exact ⟨_, .char _, fun _ _ _ => rfl⟩
  · exact ⟨_, .char _, fun _ _ _ => rfl⟩
  · rename_i hquote hslash _ _ _ _ _
    split_ifs with hlt
    · have hcode : c.toNat < 0x20 := hlt
      refine ⟨_, .unit c hcode, fun pieces before rest => ?_⟩
      have hunit := run_unit (c.toNat / 16) (c.toNat % 16) (by omega) (by omega) pieces before rest
      rw [Nat.div_add_mod] at hunit
      exact hunit
    · refine ⟨_, .char c, fun pieces before rest => run_cons_of_step ?_ rest⟩
      have hq : c ≠ '"' := fun h => hquote h
      have hs : c ≠ '\\' := fun h => hslash h
      simp [step, hq, hs, hlt]

/-- inside a string, what is written for characters is pieces, which stand for them -/
theorem run_flatMap_escape (cs : List Char) :
    ∃ ps, List.Forall₂ Piece.Stands ps cs ∧ ∀ pieces before rest,
      (Lexer.mk (.string pieces) before).run (cs.flatMap escape ++ rest) =
        (Lexer.mk (.string (ps.reverse ++ pieces)) before).run rest := by
  induction cs with
  | nil => exact ⟨[], .nil, fun _ _ _ => rfl⟩
  | cons c cs ih =>
    obtain ⟨p, hp, hrun⟩ := run_escape c
    obtain ⟨ps, hps, hruns⟩ := ih
    refine ⟨p :: ps, .cons hp hps, fun pieces before rest => ?_⟩
    rw [List.flatMap_cons, List.append_assoc, hrun, hruns]
    simp

theorem writeContent_some (s : String) : writeContent (some s) = '"' :: (s.toList.flatMap escape ++ ['"']) := rfl

/-- a string is read back, and needs nothing to end it -/
theorem run_str (content : Content) (before : List Token) (rest : List Char) :
    (Lexer.mk .between before).run (writeContent content ++ rest) =
      (Lexer.mk .between (.str content :: before)).run rest := by
  cases content with
  | none => rfl
  | some s =>
    obtain ⟨ps, hps, hrun⟩ := run_flatMap_escape s.toList
    have hwrite : writeContent (some s) ++ rest = '"' :: (s.toList.flatMap escape ++ '"' :: rest) := by
      simp [writeContent_some]
    have hclose : (Lexer.mk (.string (ps.reverse ++ [])) before).step '"' =
        some ⟨.between, .str (some s) :: before⟩ := by
      simp [step, assemble_of_stands hps]
    rw [hwrite, run_cons_of_step (k := ⟨.string [], before⟩) rfl, hrun, run_cons_of_step hclose]

theorem spells_str (content : Content) : Spells (Token.str content).write [.str content] :=
  fun before rest _ => run_str content before rest

/-! ## Longer texts -/

/-- the tokens that are one character each -/
def Token.IsMark (t : Token) : Prop :=
  t = .openArr ∨ t = .closeArr ∨ t = .openObj ∨ t = .closeObj ∨ t = .colon ∨ t = .comma

theorem endsToken_mark {t : Token} (ht : t.IsMark) (cs rest : List Char) : EndsToken (t.write ++ cs ++ rest) := by
  rcases ht with rfl | rfl | rfl | rfl | rfl | rfl <;> exact endsToken_cons rfl rfl _

theorem spells_nil : Spells [] [] := fun _ _ _ => rfl

/-- a mark needs nothing to end it -/
theorem Spells.mark {t : Token} (ht : t.IsMark) {cs : List Char} {ts : List Token} (h : Spells cs ts) :
    Spells (t.write ++ cs) (t :: ts) := by
  intro before rest hrest
  have hmark : (Lexer.mk .between before).run (t.write ++ (cs ++ rest)) =
      (Lexer.mk .between (t :: before)).run (cs ++ rest) := by
    rcases ht with rfl | rfl | rfl | rfl | rfl | rfl <;> rfl
  rw [List.append_assoc, hmark, h _ _ hrest]
  simp

/-- white space before a text goes unnoticed -/
theorem Spells.blank {c : Char} (hc : c = ' ' ∨ c = '\n') {cs : List Char} {ts : List Token} (h : Spells cs ts) :
    Spells (c :: cs) ts := by
  intro before rest hrest
  rw [← h before rest hrest]
  rcases hc with rfl | rfl <;> rfl

/-- two texts one after the other, where the second cannot go on with a token of the first -/
theorem Spells.append {cs ds : List Char} {ts us : List Token} (h : Spells cs ts) (h' : Spells ds us)
    (hends : ∀ rest, EndsToken (ds ++ rest)) : Spells (cs ++ ds) (ts ++ us) := by
  intro before rest hrest
  rw [List.append_assoc, h _ _ (hends rest), h' _ _ hrest]
  simp

end Graft.Json
