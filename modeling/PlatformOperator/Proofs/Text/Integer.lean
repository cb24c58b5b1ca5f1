import PlatformOperator.Text.Integer

/-! The decimal text of an integer reads back as the integer, unless that has more than 64 bits. -/

namespace PlatformOperator

namespace Text

/-- A text is cut in one way only where a property of characters ends. -/
theorem append_inj_of_boundary {p : Char → Bool} {l₁ l₂ r₁ r₂ : List Char} (hl₁ : ∀ c ∈ l₁, p c = true)
    (hl₂ : ∀ c ∈ l₂, p c = true) (hr₁ : ∀ c ∈ r₁.head?, p c = false) (hr₂ : ∀ c ∈ r₂.head?, p c = false)
    (h : l₁ ++ r₁ = l₂ ++ r₂) : l₁ = l₂ ∧ r₁ = r₂ := by
  have takeWhile_eq {l r : List Char} (hl : ∀ c ∈ l, p c = true) (hr : ∀ c ∈ r.head?, p c = false) :
      (l ++ r).takeWhile p = l := by
    rw [List.takeWhile_append_of_pos hl]
    cases r with
    | nil => exact List.append_nil l
    | cons c r =>
      rw [List.takeWhile_cons_of_neg (by rw [hr c rfl]; exact Bool.false_ne_true), List.append_nil]
  have heq : l₁ = l₂ := by rw [← takeWhile_eq hl₁ hr₁, h, takeWhile_eq hl₂ hr₂]
  subst heq
  exact ⟨rfl, List.append_cancel_left h⟩

end Text

namespace Integer

theorem le_ofDigitChars (cs : List Char) (acc : Nat) : acc ≤ Nat.ofDigitChars 10 cs acc := by
  rw [Nat.ofDigitChars_eq_ofDigitChars_zero]
  exact Nat.le_add_right_of_le (Nat.le_mul_of_pos_left acc (Nat.pow_pos (by decide)))

theorem readDigits_eq {limit : Nat} {excess : Flaw} : ∀ {cs : List Char} {acc : Nat},
    (∀ c ∈ cs, c.isDigit = true) → acc ≤ limit →
    readDigits limit excess acc cs =
      if Nat.ofDigitChars 10 cs acc ≤ limit then .ok (Nat.ofDigitChars 10 cs acc) else .error excess
  | [], acc, _, hacc => by
    rw [readDigits, Nat.ofDigitChars_nil, if_pos hacc]
  | c :: cs, acc, hdigits, hacc => by
    obtain ⟨hc, hcs⟩ := List.forall_mem_cons.mp hdigits
    rw [readDigits, digit?, if_pos hc, Nat.ofDigitChars_cons, Nat.mul_comm 10 acc]
    dsimp only
    split
    · next hle => exact readDigits_eq hcs hle
    · next hgt =>
      rw [if_neg]
      exact fun h => hgt (Nat.le_trans (le_ofDigitChars _ _) h)

theorem readMagnitude_toDigits (limit : Nat) (excess : Flaw) (n : Nat) :
    readMagnitude limit excess (Nat.toDigits 10 n) = if n ≤ limit then .ok n else .error excess := by
  have hread : readMagnitude limit excess (Nat.toDigits 10 n) = readDigits limit excess 0 (Nat.toDigits 10 n) := by
    cases h : Nat.toDigits 10 n with
    | nil => exact absurd h Nat.toDigits_ne_nil
    | cons c cs => rfl
  rw [hread, readDigits_eq (fun c hc => Nat.isDigit_of_mem_toDigits (by decide) (by decide) hc) (Nat.zero_le _),
    Nat.ofDigitChars_ten_toDigits]

theorem readSigned_text (n : Int) :
    readSigned (text n) =
      if n < -(wordSize 63 : Int) then .error .tooSmall
      else if (wordSize 63 : Int) ≤ n then .error .tooLarge
      else .ok n := by
  have hsize : 0 < wordSize 63 := by decide
  rw [readSigned, text, Int.toString_eq_repr, Int.repr_eq_if]
  by_cases hn : 0 ≤ n
  · rw [if_pos hn, Nat.toList_repr, if_neg (by omega)]
    have hdigit {c : Char} {cs : List Char} (h : Nat.toDigits 10 n.toNat = c :: cs) : c.isDigit = true :=
      Nat.isDigit_of_mem_toDigits (by decide) (by decide) (h ▸ List.mem_cons_self)
    split
    · next h => exact absurd h Nat.toDigits_ne_nil
    · next h => exact absurd (hdigit h) (by decide)
    · next h => exact absurd (hdigit h) (by decide)
    · rw [readMagnitude_toDigits]
      by_cases hle : n.toNat ≤ wordSize 63 - 1
      · rw [if_pos hle, if_neg (by omega)]
        exact congrArg Except.ok (Int.toNat_of_nonneg hn)
      · rw [if_neg hle, if_pos (by omega)]
        rfl
  · rw [if_neg hn, String.toList_append, Nat.toList_repr]
    show (readMagnitude _ _ (Nat.toDigits 10 (-n).toNat)).map _ = _
    rw [readMagnitude_toDigits]
    by_cases hle : (-n).toNat ≤ wordSize 63
    · rw [if_pos hle, if_neg (by omega), if_neg (by omega)]
      refine congrArg Except.ok (?_ : -((-n).toNat : Int) = n)
      omega
    · rw [if_neg hle, if_pos (by omega)]
      rfl

theorem eq_of_readSigned_text {m n : Int} (h : readSigned (text n) = .ok m) : m = n := by
  rw [readSigned_text] at h
  split at h
  · cases h
  · split at h <;> cases h
    rfl

end Integer
end PlatformOperator
