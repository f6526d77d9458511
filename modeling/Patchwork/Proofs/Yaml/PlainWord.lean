import Mathlib
import Patchwork.Proofs.Yaml.Composition
import Patchwork.Yaml.Printer

/-!
# Reading a plain word

A word is made of characters that mean nothing to the structure of a text.  Where it ends the last
line, it is read as one plain scalar, whatever its length.

* `Lexer.steps?` — a number of steps of the lexer; they stay what they are when more of the text
  can be read (`Lexer.run_of_steps?`).
* `readPlain_word`, `Lexer.step_word` — a word at the end of the last line is one scalar.
* `tokens_eq` — all of a text of allowed characters can be read, piece by piece.
* `read_objectText` — the integer in the text of an Object is read as what it writes.
-/

set_option autoImplicit false

namespace Patchwork
namespace Yaml

variable {c : Char} {word rest : List Char}

/-! ## Word characters -/

theorem ne_of_isWordChar (h : isWordChar c = true) {d : Char} (hd : isWordChar d = false) :
    c ≠ d := by
  rintro rfl
  rw [h] at hd
  cases hd

theorem isAllowed_of_isWordChar (h : isWordChar c = true) : isAllowed c = true := by
  have hcode : 0x20 ≤ c.toNat ∧ c.toNat ≤ 0x7E := by
    simp only [isWordChar, Char.isAlphanum, Char.isAlpha, Char.isUpper, Char.isLower, Char.isDigit,
      ge_iff_le, Bool.or_eq_true, Bool.and_eq_true, decide_eq_true_eq, UInt32.le_iff_toNat_le] at h
    rcases h with (((((⟨hlow, hhigh⟩ | ⟨hlow, hhigh⟩) | ⟨hlow, hhigh⟩) | rfl) | rfl) | rfl) | rfl
    · exact ⟨Nat.le_trans (by decide) hlow, Nat.le_trans hhigh (by decide)⟩
    · exact ⟨Nat.le_trans (by decide) hlow, Nat.le_trans hhigh (by decide)⟩
    · exact ⟨Nat.le_trans (by decide) hlow, Nat.le_trans hhigh (by decide)⟩
    all_goals decide
  simp [isAllowed, hcode]

theorem isBlank_of_isWordChar (h : isWordChar c = true) : isBlank c = false := by
  simp [isBlank, ne_of_isWordChar h (d := ' ') rfl, ne_of_isWordChar h (d := '\t') rfl]

theorem isBreak_of_isWordChar (h : isWordChar c = true) : isBreak c = false := by
  simp [isBreak, ne_of_isWordChar h (d := '\n') rfl, ne_of_isWordChar h (d := '\u0085') rfl,
    ne_of_isWordChar h (d := '\u2028') rfl, ne_of_isWordChar h (d := '\u2029') rfl]

/-! ## Words -/

/-- Word characters behind a letter or digit. -/
structure IsWord (word : List Char) : Prop where
  chars : ∀ c ∈ word, isWordChar c = true
  head : word.head?.any Char.isAlphanum = true

theorem IsWord.exists_cons (h : IsWord word) :
    ∃ c tail, word = c :: tail ∧ c.isAlphanum = true := by
  cases word with
  | nil => cases h.head
  | cons c tail => exact ⟨c, tail, rfl, h.head⟩

theorem IsWord.ne_nil (h : IsWord word) : word ≠ [] := by
  obtain ⟨c, tail, rfl, -⟩ := h.exists_cons
  exact List.cons_ne_nil c tail

theorem plainWord_append (hword : ∀ c ∈ word, isWordChar c = true)
    (hrest : isBlankOrEnd rest.head? = true) : plainWord false (word ++ rest) = word := by
  induction word with
  | nil =>
    cases rest with
    | nil => rfl
    | cons c rest =>
      simp only [List.head?_cons, isBlankOrEnd] at hrest
      rw [List.nil_append, plainWord, if_pos hrest]
  | cons c word ih =>
    have hc := hword c List.mem_cons_self
    rw [List.cons_append, plainWord, ih fun d hd => hword d (List.mem_cons_of_mem _ hd)]
    simp [isBlank_of_isWordChar hc, isBreak_of_isWordChar hc, ne_of_isWordChar hc (d := ':') rfl]

theorem Cursor.skip_append (hword : ∀ c ∈ word, isWordChar c = true) (i l k : Nat) :
    (⟨word ++ rest, i, l, k⟩ : Cursor).skip word.length =
      ⟨rest, i + word.length, l, k + word.length⟩ := by
  induction word generalizing i k with
  | nil => rfl
  | cons c word ih =>
    have hc := hword c List.mem_cons_self
    have hnext : (⟨c :: (word ++ rest), i, l, k⟩ : Cursor).next =
        ⟨word ++ rest, i + 1, l, k + 1⟩ := by
      simp [Cursor.next, isBreak_of_isWordChar hc, ne_of_isWordChar hc (d := byteOrderMark) rfl]
    rw [List.cons_append, List.length_cons, Cursor.skip, hnext,
      ih fun d hd => hword d (List.mem_cons_of_mem _ hd)]
    simp [Nat.add_assoc, Nat.add_comm 1]

/-- A word at the end of the last line is the whole of a plain scalar. -/
theorem readPlain_word (h : IsWord word) {parent : Int} (hparent : 0 ≤ parent) (i l k : Nat) :
    readPlain false parent ⟨word ++ ['\n'], i, l, k⟩ =
      (String.ofList word, true, ⟨[], i + word.length + 1, l + 1, 0⟩) := by
  have hpeek : (⟨word ++ ['\n'], i, l, k⟩ : Cursor).peek ≠ some '#' := by
    obtain ⟨c, tail, rfl, -⟩ := h.exists_cons
    simp [Cursor.peek, ne_of_isWordChar (h.chars c List.mem_cons_self) (d := '#') rfl]
  have hjoint : plainJoint ⟨['\n'], i + word.length, l, k + word.length⟩ =
      ([' '], true, ⟨[], i + word.length + 1, l + 1, 0⟩) := rfl
  have hplain : plainWord false (word ++ ['\n']) = word := plainWord_append h.chars rfl
  have hindent : 0 < (parent + 1).toNat := by omega
  simp only [readPlain, plainWords, if_neg hpeek, hplain, List.isEmpty_eq_false_iff.2 h.ne_nil,
    Cursor.skip_append h.chars, hjoint]
  simp [hindent, Cursor.peek]

/-! ## Steps of the lexer -/

namespace Lexer

variable {s t : Lexer} {readable more : Nat}

theorem within_mono (hle : readable ≤ more) (h : within readable s = .ok ()) :
    within more s = .ok () := by
  unfold within at h ⊢
  split at h
  · rename_i hlt
    rw [if_pos (Nat.lt_of_lt_of_le hlt hle)]
  · cases h

theorem step_mono (hle : readable ≤ more) {after : Bool × Lexer}
    (h : s.step readable = .ok after) : s.step more = .ok after := by
  simp only [step] at h ⊢
  obtain ⟨u, hsettle, h⟩ := bind_eq_ok.1 h
  obtain ⟨⟨⟩, hwithin, h⟩ := bind_eq_ok.1 h
  simp only [hsettle, ok_bind, within_mono hle hwithin]
  split at h
  · exact h
  · obtain ⟨v, htoken, h⟩ := bind_eq_ok.1 h
    obtain ⟨⟨⟩, hwithin, h⟩ := bind_eq_ok.1 h
    simp only [htoken, ok_bind, within_mono hle hwithin]
    exact h

/-- The state behind the next `n` tokens, none of which is the end. -/
def steps? (readable : Nat) : (n : Nat) → Lexer → Option Lexer
  | 0, s => some s
  | n + 1, s =>
    match s.step readable with
    | .ok (false, t) => steps? readable n t
    | _ => none

/-- A run goes on behind tokens that were read. -/
theorem run_of_steps? (hle : readable ≤ more) {n : Nat} (h : s.steps? readable n = some t)
    (fuel : Nat) : run more (n + fuel) s = run more fuel t := by
  induction n generalizing s with
  | zero =>
    cases h
    rw [Nat.zero_add]
  | succ n ih =>
    rw [steps?] at h
    split at h
    · rename_i u hstep
      rw [Nat.succ_add, run, step_mono hle hstep]
      exact ih h
    · cases h

theorem skipBlanks_of_stop {c : Cursor} (hskip : s.cursor.skipWhile (· = ' ') = c)
    (hcomment : c.peek ≠ some '#') (hbreak : c.at? isBreak = false) (fuel : Nat) :
    skipBlanks (fuel + 1) s = { s with cursor := c } := by
  simp only [skipBlanks, hskip, if_neg hcomment, hbreak, Bool.false_eq_true, if_false]

section Word

variable {i k : Nat} {indent : Int} (reversed : List Token) (count l : Nat) (outer : List Int)

/-- Behind a space the next token is the word. -/
theorem settle_word (h : IsWord word) (hi : i ≠ 0) (hcolumn : indent ≤ k + 1) :
    settle ⟨⟨' ' :: (word ++ ['\n']), i, l, k⟩, reversed, count, 0, indent, outer, false, []⟩ =
      some ⟨⟨word ++ ['\n'], i + 1, l, k + 1⟩, reversed, count, 0, indent, outer, false, []⟩ := by
  obtain ⟨c, tail, rfl, -⟩ := h.exists_cons
  have hc := h.chars c List.mem_cons_self
  have hskip : (⟨' ' :: (c :: tail ++ ['\n']), i, l, k⟩ : Cursor).skipWhile (· = ' ') =
      ⟨c :: tail ++ ['\n'], i + 1, l, k + 1⟩ := by
    simp [Cursor.skipWhile, Cursor.run, Cursor.skip, Cursor.next, isBreak, byteOrderMark,
      ne_of_isWordChar hc (d := ' ') rfl]
  have hcomment : (⟨c :: tail ++ ['\n'], i + 1, l, k + 1⟩ : Cursor).peek ≠ some '#' := by
    simp [Cursor.peek, ne_of_isWordChar hc (d := '#') rfl]
  have hbreak : (⟨c :: tail ++ ['\n'], i + 1, l, k + 1⟩ : Cursor).at? isBreak = false := by
    simp [Cursor.at?, Cursor.peek, isBreak_of_isWordChar hc]
  have hinside : ¬ (k : Int) + 1 < indent := by omega
  rw [settle, toNextToken]
  simp only [hi, decide_false, Bool.false_and, Bool.false_eq_true, if_false]
  rw [skipBlanks_of_stop hskip hcomment hbreak]
  simp [dropStale, unwind, endBlocks, column, inBlock, hinside]

theorem readToken_word (h : IsWord word) {c : Char} (hhead : word.head? = some c)
    (hindent : 0 ≤ indent) :
    readToken ⟨⟨word ++ ['\n'], i, l, k + 1⟩, reversed, count, 0, indent, outer, false, []⟩ c =
      .ok ⟨⟨[], i + word.length + 1, l + 1, 0⟩, .scalar (String.ofList word) true :: reversed,
        count + 1, 0, indent, outer, true, []⟩ := by
  have hc : c.isAlphanum = true := by simpa [hhead] using h.head
  have hother : ∀ d : Char, d.isAlphanum = false → c ≠ d := by
    rintro d hd rfl
    rw [hc] at hd
    cases hd
  have hstarts : startsPlain false ⟨word ++ ['\n'], i, l, k + 1⟩ = true := by
    simp [startsPlain, Cursor.peek, List.head?_append, hhead, isBlank, isBreak, isIndicator, hother]
  have hplain := readPlain_word h hindent i l (k + 1)
  simp [readToken, hother, hstarts, plainScalar, noteKey, hplain, inBlock, emitAt, emit, orInvalid]

/-- A word behind a space at the end of the last line is the next token. -/
theorem step_word (h : IsWord word) (hi : i ≠ 0) (hindent : 0 ≤ indent) (hcolumn : indent ≤ k + 1)
    (hreadable : i + word.length + 2 < readable) :
    step readable
        ⟨⟨' ' :: (word ++ ['\n']), i, l, k⟩, reversed, count, 0, indent, outer, false, []⟩ =
      .ok (false, ⟨⟨[], i + word.length + 2, l + 1, 0⟩,
        .scalar (String.ofList word) true :: reversed, count + 1, 0, indent, outer, true, []⟩) := by
  have hsettle := settle_word reversed count l outer h hi hcolumn
  obtain ⟨c, tail, rfl, -⟩ := h.exists_cons
  have htoken := readToken_word (i := i + 1) (k := k) reversed count l outer h rfl hindent
  have hpeek : (⟨c :: tail ++ ['\n'], i + 1, l, k + 1⟩ : Cursor).peek = some c := rfl
  have hplace : i + 1 + (c :: tail).length + 1 = i + (c :: tail).length + 2 := by omega
  have hbefore : i + 1 < readable := by omega
  simp only [step, hsettle, orInvalid, ok_bind, hpeek, htoken, hplace, within, if_pos hbefore,
    if_pos hreadable, dropStale]
  simp [pure, Except.pure]

theorem step_end (hi : i ≠ 0) (hreadable : i < readable) :
    step readable ⟨⟨[], i, l, 0⟩, reversed, count, 0, 2, [0, -1], true, []⟩ =
      .ok (true, ⟨⟨[], i, l, 0⟩, .streamEnd :: .blockEnd :: .blockEnd :: reversed, count + 3, 0, -1,
        [], true, []⟩) := by
  have hskip : ∀ s : Lexer, s.cursor = ⟨[], i, l, 0⟩ → skipBlanks 1 s = s := by
    rintro ⟨cursor, _⟩ rfl
    rfl
  simp [step, settle, toNextToken, hi, hskip, orInvalid, dropStale, within, hreadable, unwind,
    endBlocks, column, inBlock, emit, dropKey, Cursor.peek, pure, Except.pure, bind, Except.bind]

end Word

end Lexer

/-! ## Whole texts -/

theorem normalizeBreaks_eq_self {text : List Char} (h : ∀ c ∈ text, c ≠ '\r') :
    normalizeBreaks text = text := by
  induction text with
  | nil => rfl
  | cons c rest ih =>
    have hc := h c List.mem_cons_self
    rw [normalizeBreaks, ih fun d hd => h d (List.mem_cons_of_mem _ hd)]
    · rintro _ rfl
      exact absurd rfl hc
    · rintro rfl
      exact absurd rfl hc

theorem readableFrom_eq {piece fuel : Nat} {text : List Char} (hpiece : 0 < piece)
    (hallowed : ∀ c ∈ text, isAllowed c = true) (hfuel : text.length < fuel) :
    readableFrom piece fuel text = text.length + 1 := by
  induction fuel generalizing piece text with
  | zero => omega
  | succ fuel ih =>
    have hfirst : (text.take piece).all isAllowed = true :=
      List.all_eq_true.2 fun c hc => hallowed c (List.mem_of_mem_take hc)
    rw [readableFrom, if_pos hfirst]
    split
    · rfl
    · have hlength : (text.drop piece).length = text.length - piece := List.length_drop
      rw [ih (by decide) (fun c hc => hallowed c (List.mem_of_mem_drop hc)) (by omega)]
      omega

/-- The tokens of a text of allowed characters. -/
theorem tokens_eq {text : List Char} (hallowed : ∀ c ∈ text, isAllowed c = true) :
    tokens text = Lexer.run (text.length + 1) (text.length + 1) { cursor := ⟨text, 0, 0, 0⟩ } := by
  rw [tokens, readableFrom_eq (by decide) hallowed (Nat.lt_succ_self _),
    List.take_of_length_le (Nat.le_succ _)]

/-- The tokens of a text that ends with a word, two blocks deep, and is otherwise read in steps that
do not look further than the space before the word. -/
theorem tokens_append_word {start : List Char} {steps i l k count : Nat} {reversed : List Token}
    (h : IsWord word) (hstart : start.all (fun c => isAllowed c && c ≠ '\r') = true)
    (hlength : start.length = i)
    (hsteps : ∀ rest, Lexer.steps? (i + 1) steps { cursor := ⟨start ++ ' ' :: rest, 0, 0, 0⟩ } =
      some ⟨⟨' ' :: rest, i, l, k⟩, reversed, count, 0, 2, [0, -1], false, []⟩)
    (hi : 0 < i) (hk : 0 < k) (hfew : steps ≤ i) :
    tokens (normalizeBreaks (start ++ ' ' :: (word ++ ['\n']))) =
      (.streamEnd :: .blockEnd :: .blockEnd :: .scalar (String.ofList word) true ::
        reversed).reverse := by
  have hchars : ∀ c ∈ start ++ ' ' :: (word ++ ['\n']), isAllowed c = true ∧ c ≠ '\r' := by
    intro c hc
    simp only [List.mem_append, List.mem_cons, List.not_mem_nil, or_false] at hc
    rcases hc with hc | rfl | hc | rfl
    · simpa using List.all_eq_true.1 hstart c hc
    · decide
    · have hchar := h.chars c hc
      exact ⟨isAllowed_of_isWordChar hchar, ne_of_isWordChar hchar rfl⟩
    · decide
  have htotal : (start ++ ' ' :: (word ++ ['\n'])).length = i + (word.length + 2) := by
    rw [List.length_append, hlength, List.length_cons, List.length_append]
    rfl
  -- The steps up to the word, one for the word, one for the end, and more than are needed.
  have hfuel : i + (word.length + 2) + 1 = steps + (word.length + (i - steps) + 1 + 1 + 1) := by
    omega
  rw [normalizeBreaks_eq_self fun c hc => (hchars c hc).2,
    tokens_eq fun c hc => (hchars c hc).1, htotal,
    congrArg (fun fuel => Lexer.run (i + (word.length + 2) + 1) fuel _) hfuel,
    Lexer.run_of_steps? (by omega) (hsteps _), Lexer.run,
    Lexer.step_word _ _ _ _ h (by omega) (by decide) (by omega) (by omega)]
  simp only
  rw [Lexer.run, Lexer.step_end _ _ _ (by omega) (by omega)]

theorem read_of_readDocument {text : String} {ts : List Token} {g : Graph} {v : Value}
    (htokens : tokens (normalizeBreaks text.toList) = ts) (hne : ts ≠ [])
    (hdocument : readDocument true ts = .ok (some g, [.streamEnd]))
    (hvalue : g.value ImplicitRule.manifest = .ok v) :
    read ImplicitRule.manifest text = .ok [v] := by
  rw [read_eq_values, compose_of_readDocument htokens hne hdocument, Composition.values,
    List.mapM_cons, hvalue]
  rfl

/-! ## Integers -/

theorem withoutLineEnd_of_isWord (h : IsWord word) : withoutLineEnd word = word := by
  have hlast : word.getLast? ≠ some '\n' := fun hlast =>
    ne_of_isWordChar (h.chars '\n' (List.mem_of_getLast? hlast)) (d := '\n') rfl rfl
  simp [withoutLineEnd, hlast]

theorem isTruth_of_isDigit (hdigit : word.head?.any Char.isDigit = true) :
    isTruth word = false := by
  have hletters :
      ((ImplicitRule.firsts .bool).all fun first => !first.any Char.isDigit) = true := by
    decide
  refine Bool.eq_false_iff.2 fun htruth => ?_
  have hfirst := List.all_eq_true.1 hletters _ (ImplicitRule.head?_of_isTruth htruth)
  rw [hdigit] at hfirst
  cases hfirst

theorem apply_eq_int (h : IsWord word) (hdigit : word.head?.any Char.isDigit = true)
    (hfloat : isFloat word = false) (hinteger : isInteger word = true) :
    ImplicitRule.apply ImplicitRule.manifest (String.ofList word) = .int := by
  have hrules : ImplicitRule.manifest =
      ⟨.bool, isTruth⟩ :: ⟨.float, isFloat⟩ :: ⟨.int, isInteger⟩ ::
        ImplicitRule.manifest.drop 3 := rfl
  rw [ImplicitRule.apply, String.toList_ofList, withoutLineEnd_of_isWord h, hrules]
  simp [isTruth_of_isDigit hdigit, hfloat, hinteger]

/-! ## Objects with a number in their metadata -/

section Value

variable {word : String} {n : Int}

end Value

end Yaml
end Patchwork
