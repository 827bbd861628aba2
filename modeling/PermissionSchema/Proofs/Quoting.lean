import PermissionSchema.Proofs.Grammar
import PermissionSchema.Text.Numeral
import PermissionSchema.Text.Quoted
import Mathlib.Data.List.Nodup

/-!
# Quoted texts can be read back

Quoting never writes a line break, and loses nothing: in what is quoted, the escapes can be told
apart (`Escaped.append_inj`), and so can the text and what stands behind its closing quote
(`text_append_inj`). Which characters are escaped for being invisible plays no part in it.
-/

namespace PermissionSchema.Quoted

/-- The two marks that texts and characters are quoted with. -/
def IsMark (quote : Char) : Prop := quote = '"' ∨ quote = '\''

/-- The characters that have a letter of their own behind a backslash. -/
def letters (quote : Char) : List (Char × Char) :=
  [('\x00', '0'), ('\t', 't'), ('\r', 'r'), ('\n', 'n'), ('\\', '\\'), (quote, quote)]

/-- The forms that a character may have inside quotes. -/
inductive Escaped (quote c : Char) : Text → Prop
  | letter {letter : Char} : (c, letter) ∈ letters quote → Escaped quote c ['\\', letter]
  | codePoint : Escaped quote c (codePoint c)
  | plain : c ≠ '\\' → c ≠ quote → c ≠ '\n' → Escaped quote c [c]

theorem escaped (quote c : Char) : Escaped quote c (escape quote c) := by
  unfold escape
  split_ifs with hzero htab hreturn hnewline hself hinvisible
  · exact .letter (by simp [letters, hzero])
  · exact .letter (by simp [letters, htab])
  · exact .letter (by simp [letters, hreturn])
  · exact .letter (by simp [letters, hnewline])
  · rcases Bool.or_eq_true_iff.1 hself with hself | hself
    · exact .letter (by simp [letters, of_decide_eq_true hself])
    · exact .letter (by simp [letters, of_decide_eq_true hself])
  · exact .codePoint
  · simp only [Bool.or_eq_true, decide_eq_true_eq, not_or] at hself
    exact .plain hself.1 hself.2 hnewline

/-! ### Hexadecimal digits -/

theorem isSome_digit?_of_mem_hexDigits {n : Nat} {c : Char} (hmem : c ∈ hexDigits n) :
    (Numeral.digit? c).isSome = true :=
  Numeral.isSome_digit?_of_mem_toDigits (by decide) (by decide) hmem

/-- The brace behind a code point tells where its digits end. -/
theorem hexDigits_append_inj {n m : Nat} {behind behind' : Text}
    (h : hexDigits n ++ '\x7d' :: behind = hexDigits m ++ '\x7d' :: behind') :
    n = m ∧ behind = behind' := by
  have hbrace : ∀ n : Nat, '\x7d' ∉ hexDigits n := by
    intro n hmem
    exact absurd (isSome_digit?_of_mem_hexDigits hmem) (by decide)
  obtain ⟨hdigits, hbehind⟩ := delimited_append_inj (hbrace n) (hbrace m) h
  exact ⟨Numeral.toDigits_inj (by decide) (by decide) hdigits, hbehind⟩

/-! ### One character -/

theorem letters_inj {quote c c' letter : Char} (hquote : IsMark quote)
    (hmem : (c, letter) ∈ letters quote) (hmem' : (c', letter) ∈ letters quote) : c = c' := by
  have hnodup : ((letters quote).map Prod.snd).Nodup := by
    rcases hquote with rfl | rfl <;> decide
  exact congrArg Prod.fst (List.inj_on_of_nodup_map hnodup hmem hmem' rfl)

/-- No letter is the one that opens a code point, and none breaks the line. -/
theorem letter_ne {quote c letter : Char} (hquote : IsMark quote)
    (hmem : (c, letter) ∈ letters quote) : letter ≠ 'u' ∧ letter ≠ '\n' := by
  have hplain : 'u' ∉ (letters quote).map Prod.snd ∧ '\n' ∉ (letters quote).map Prod.snd := by
    rcases hquote with rfl | rfl <;> decide
  have hletter : letter ∈ (letters quote).map Prod.snd := List.mem_map_of_mem hmem
  constructor
  · rintro rfl
    exact hplain.1 hletter
  · rintro rfl
    exact hplain.2 hletter

namespace Escaped

variable {quote c c' : Char} {form form' behind behind' : Text}

/-- What is escaped does not start with the mark that closes the quotation. -/
theorem exists_cons (hquote : IsMark quote) (hform : Escaped quote c form) :
    ∃ first rest, form = first :: rest ∧ first ≠ quote := by
  have hbackslash : '\\' ≠ quote := by
    rcases hquote with rfl | rfl <;> decide
  cases hform with
  | letter _ => exact ⟨'\\', _, rfl, hbackslash⟩
  | codePoint => exact ⟨'\\', _, rfl, hbackslash⟩
  | plain _ hne _ => exact ⟨c, [], rfl, hne⟩

theorem newline_not_mem (hquote : IsMark quote) (hform : Escaped quote c form) :
    '\n' ∉ form := by
  cases hform with
  | letter hmem => simp [(letter_ne hquote hmem).2.symm]
  | codePoint =>
    have hdigits : '\n' ∉ hexDigits c.toNat := by
      intro hmem
      have hdigit := isSome_digit?_of_mem_hexDigits hmem
      exact absurd hdigit (by decide)
    simp [Quoted.codePoint, hdigits]
  | plain _ _ hne => simp [hne.symm]

/-- A character and what stands behind its form are read off the two together. -/
theorem append_inj (hquote : IsMark quote) (hform : Escaped quote c form)
    (hform' : Escaped quote c' form') (h : form ++ behind = form' ++ behind') :
    c = c' ∧ behind = behind' := by
  cases hform with
  | letter hmem =>
    cases hform' with
    | letter hmem' =>
      obtain ⟨-, hletters⟩ := List.cons.inj h
      obtain ⟨rfl, hbehind⟩ := List.cons.inj hletters
      exact ⟨letters_inj hquote hmem hmem', hbehind⟩
    | codePoint =>
      obtain ⟨-, hletters⟩ := List.cons.inj h
      exact absurd (List.cons.inj hletters).1 (letter_ne hquote hmem).1
    | plain hne _ _ => exact absurd (List.cons.inj h).1.symm hne
  | codePoint =>
    cases hform' with
    | letter hmem' =>
      obtain ⟨-, hletters⟩ := List.cons.inj h
      exact absurd (List.cons.inj hletters).1.symm (letter_ne hquote hmem').1
    | codePoint =>
      simp only [Quoted.codePoint, List.append_assoc, List.append_cancel_left_eq,
        List.singleton_append] at h
      obtain ⟨hvalue, hbehind⟩ := hexDigits_append_inj h
      exact ⟨Char.toNat_inj.1 hvalue, hbehind⟩
    | plain hne _ _ => exact absurd (List.cons.inj h).1.symm hne
  | plain hne _ _ =>
    cases hform' with
    | letter _ => exact absurd (List.cons.inj h).1 hne
    | codePoint => exact absurd (List.cons.inj h).1 hne
    | plain _ _ _ => exact List.cons.inj h

end Escaped

/-! ### Whole texts -/

theorem newline_not_mem_body (content : Text) : '\n' ∉ content.flatMap (escape '"') := by
  intro hmem
  obtain ⟨c, -, hc⟩ := List.mem_flatMap.1 hmem
  exact (escaped '"' c).newline_not_mem (Or.inl rfl) hc

theorem body_append_inj {left right behind behind' : Text}
    (h : left.flatMap (escape '"') ++ '"' :: behind =
      right.flatMap (escape '"') ++ '"' :: behind') : left = right ∧ behind = behind' := by
  have hquote : IsMark '"' := Or.inl rfl
  induction left generalizing right with
  | nil =>
    cases right with
    | nil => exact ⟨rfl, (List.cons.inj h).2⟩
    | cons c right =>
      obtain ⟨first, rest, hform, hne⟩ := (escaped '"' c).exists_cons hquote
      rw [List.flatMap_cons, hform] at h
      exact absurd (List.cons.inj h).1.symm hne
  | cons c left ih =>
    cases right with
    | nil =>
      obtain ⟨first, rest, hform, hne⟩ := (escaped '"' c).exists_cons hquote
      rw [List.flatMap_cons, hform] at h
      exact absurd (List.cons.inj h).1 hne
    | cons c' right =>
      rw [List.flatMap_cons, List.flatMap_cons, List.append_assoc, List.append_assoc] at h
      obtain ⟨rfl, hrest⟩ := (escaped '"' c).append_inj hquote (escaped '"' c') h
      obtain ⟨rfl, hbehind⟩ := ih hrest
      exact ⟨rfl, hbehind⟩

/-- A text and what stands behind its quotation are read off the two together. -/
theorem text_append_inj {left right behind behind' : Text}
    (h : text left ++ behind = text right ++ behind') : left = right ∧ behind = behind' := by
  simp only [text, List.cons_append, List.append_assoc, List.cons.injEq, true_and] at h
  exact body_append_inj h

theorem newline_not_mem_text (content : Text) : '\n' ∉ text content := by
  unfold text
  simp only [List.mem_append, List.mem_cons, List.not_mem_nil, or_false, not_or]
  exact ⟨⟨by decide, newline_not_mem_body content⟩, by decide⟩

theorem newline_not_mem_char (c : Char) : '\n' ∉ char c := by
  simp [char, (escaped '\'' c).newline_not_mem (Or.inr rfl)]

theorem char_inj {c c' : Char} (h : char c = char c') : c = c' := by
  have hforms : escape '\'' c ++ ['\''] = escape '\'' c' ++ ['\''] := (List.cons.inj h).2
  exact ((escaped '\'' c).append_inj (Or.inr rfl) (escaped '\'' c') hforms).1

/-! ### Cut texts -/

theorem newline_not_mem_cut (limit : Nat) (content : Text) : '\n' ∉ cut limit content := by
  unfold cut
  split <;> simp [newline_not_mem_text]

/-- Cut texts look the same when the texts are the same, or when all that tells them apart has been
    cut off both. -/
theorem cut_eq_iff {limit : Nat} {left right : Text} :
    cut limit left = cut limit right ↔ left = right ∨
      (limit < left.length ∧ limit < right.length ∧ left.take limit = right.take limit) := by
  constructor
  · intro h
    unfold cut at h
    split_ifs at h with hleft hright hright
    · exact Or.inl (text_append_inj (congrArg (· ++ []) h)).1
    -- the dots stand behind the quotation, where a whole text has nothing
    · rw [← List.append_nil (text left)] at h
      exact absurd (text_append_inj h).2 (by simp)
    · rw [← List.append_nil (text right)] at h
      exact absurd (text_append_inj h).2 (by simp)
    · exact Or.inr ⟨Nat.lt_of_not_le hleft, Nat.lt_of_not_le hright, (text_append_inj h).1⟩
  · rintro (rfl | ⟨hleft, hright, hkept⟩)
    · rfl
    · rw [cut, cut, if_neg (Nat.not_le_of_lt hleft), if_neg (Nat.not_le_of_lt hright), hkept]

end PermissionSchema.Quoted
