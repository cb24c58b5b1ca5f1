import PlatformOperator.Cluster.Selector

/-! A selector written for labels, each as `key=value` and with commas between them, reads back as asking for those
    labels, as long as keys and values keep to characters that mean nothing in a selector. -/

namespace PlatformOperator.Selector

/-- The characters of label keys and values. -/
def isNameChar (c : Char) : Bool := c.isAlphanum || c == '-' || c == '_' || c == '.' || c == '/'

/-- The character is not blank and none of those that a selector is read by. -/
def IsLiteral (c : Char) : Prop := c ≠ ',' ∧ c ≠ '=' ∧ c ≠ '!' ∧ Text.isBlank c = false

def Literal (s : String) : Prop := ∀ c ∈ s.toList, IsLiteral c

instance : DecidablePred IsLiteral := fun _ => inferInstanceAs (Decidable (_ ∧ _))

instance : DecidablePred Literal := fun s => List.decidableBAll IsLiteral s.toList

/-! ### Texts a selector keeps -/

/-- A name lies between the comma and the braces, and the equals sign is not in it. -/
theorem isNameChar_range {c : Char} (h : isNameChar c = true) : 45 ≤ c.toNat ∧ c.toNat ≤ 122 ∧ c.toNat ≠ 61 := by
  change (decide (65 ≤ c.toNat ∧ c.toNat ≤ 90) || decide (97 ≤ c.toNat) && decide (c.toNat ≤ 122) ||
    decide (48 ≤ c.toNat) && decide (c.toNat ≤ 57) || c == '-' || c == '_' || c == '.' || c == '/') = true at h
  simp only [Bool.or_eq_true, Bool.and_eq_true, decide_eq_true_eq, beq_iff_eq] at h
  rcases h with (((h | rfl) | rfl) | rfl) | rfl
  · omega
  all_goals decide

theorem not_isBlank_of_range {c : Char} (hlow : 45 ≤ c.toNat) (hhigh : c.toNat ≤ 122) : Text.isBlank c = false := by
  simp only [Text.isBlank, List.mem_cons, List.not_mem_nil, or_false, Bool.or_eq_false_iff, Bool.and_eq_false_iff,
    decide_eq_false_iff_not]
  omega

theorem isLiteral_of_range {c : Char} (hlow : 45 ≤ c.toNat) (hhigh : c.toNat ≤ 122) (hequals : c.toNat ≠ 61) :
    IsLiteral c := by
  refine ⟨?_, fun heq => hequals (heq ▸ rfl), ?_, not_isBlank_of_range hlow hhigh⟩ <;>
  · rintro rfl
    revert hlow
    decide

theorem literal_of_isNameChar {s : String} (h : ∀ c ∈ s.toList, isNameChar c = true) : Literal s := fun c hc =>
  have hrange := isNameChar_range (h c hc)
  isLiteral_of_range hrange.1 hrange.2.1 hrange.2.2

/-- What is literal is so in lower case. -/
theorem Literal.toLower {s : String} (h : Literal s) : Literal s.toLower := by
  intro c hc
  have hmap : c ∈ s.toList.map Char.toLower := by
    rw [← String.toList_map]
    exact hc
  obtain ⟨d, hd, rfl⟩ := List.mem_map.mp hmap
  unfold Char.toLower
  split
  · rename_i hupper
    have hlow : 65 ≤ d.val.toNat := UInt32.le_iff_toNat_le.mp hupper.1
    have hhigh : d.val.toNat ≤ 90 := UInt32.le_iff_toNat_le.mp hupper.2
    have hlower : (d.val + 32).toNat = d.val.toNat + 32 := by
      rw [UInt32.toNat_add]
      exact Nat.mod_eq_of_lt (Nat.lt_of_le_of_lt (Nat.add_le_add_right hhigh 32) (by decide))
    have hrange : 97 ≤ (d.val + 32).toNat ∧ (d.val + 32).toNat ≤ 122 := by omega
    exact isLiteral_of_range (Nat.le_trans (by decide) hrange.1) hrange.2
      (Nat.ne_of_gt (Nat.lt_of_lt_of_le (by decide) hrange.1))
  · exact h d hd

/-- Nothing is trimmed from a text without blanks. -/
theorem trimmed_eq_self {cs : List Char} (h : ∀ c ∈ cs, Text.isBlank c = false) : Text.trimmed cs = cs := by
  have dropWhile_eq {cs : List Char} (h : ∀ c ∈ cs, Text.isBlank c = false) : cs.dropWhile Text.isBlank = cs := by
    cases cs with
    | nil => rfl
    | cons c cs => exact List.dropWhile_cons_of_neg (by rw [h c List.mem_cons_self]; exact Bool.false_ne_true)
  rw [Text.trimmed, dropWhile_eq h, dropWhile_eq fun c hc => h c (List.mem_reverse.mp hc), List.reverse_reverse]

theorem Literal.trimmedText {s : String} (h : Literal s) : Term.trimmedText s.toList = s := by
  rw [Term.trimmedText, trimmed_eq_self fun c hc => (h c hc).2.2.2, String.ofList_toList]

theorem splitDiffers?_eq_none : ∀ {cs : List Char}, '!' ∉ cs → Term.splitDiffers? cs = none
  | [], _ => rfl
  | c :: cs, h => by
    obtain ⟨hc, hcs⟩ := not_or.mp (mt List.mem_cons.mpr h)
    rw [Term.splitDiffers?, splitDiffers?_eq_none hcs]
    · rfl
    · rintro cs' rfl
      exact absurd rfl hc

/-! ### Written terms -/

/-- The characters of the term `key=value`. -/
def written (p : String × String) : List Char := p.1.toList ++ '=' :: p.2.toList

theorem toList_term (p : String × String) : (p.1 ++ "=" ++ p.2).toList = written p := by
  rw [String.toList_append, String.toList_append, List.append_assoc]
  rfl

section
variable {p : String × String} {ps : List (String × String)}

theorem mem_written (hkey : Literal p.1) (hvalue : Literal p.2) {c : Char} (h : c ∈ written p) :
    c ≠ ',' ∧ c ≠ '!' ∧ Text.isBlank c = false := by
  rcases List.mem_append.mp h with hc | hc
  · exact ⟨(hkey c hc).1, (hkey c hc).2.2⟩
  · rcases List.mem_cons.mp hc with rfl | hc
    · decide
    · exact ⟨(hvalue c hc).1, (hvalue c hc).2.2⟩

theorem ofChars_written (hkey : Literal p.1) (hvalue : Literal p.2) : Term.ofChars (written p) = .equals p.1 p.2 := by
  have noEquals {s : String} (h : Literal s) : ∀ c ∈ s.toList, (c != '=') = true :=
    fun c hc => bne_iff_ne.mpr (h c hc).2.1
  have hfront : (written p).takeWhile (· != '=') = p.1.toList := by
    rw [written, List.takeWhile_append_of_pos (noEquals hkey), List.takeWhile_cons_of_neg (by decide), List.append_nil]
  have hback : ((written p).dropWhile (· != '=')).dropWhile (· == '=') = p.2.toList := by
    rw [written, List.dropWhile_append_of_pos (noEquals hkey), List.dropWhile_cons_of_neg (by decide),
      List.dropWhile_cons_of_pos (by decide)]
    have hvalue := noEquals hvalue
    cases h : p.2.toList with
    | nil => rfl
    | cons c cs =>
      rw [h] at hvalue
      have hc : (c == '=') = false := by simpa using hvalue c List.mem_cons_self
      exact List.dropWhile_cons_of_neg (by rw [hc]; exact Bool.false_ne_true)
  have hmem : '=' ∈ written p := List.mem_append_right _ List.mem_cons_self
  rw [Term.ofChars, splitDiffers?_eq_none fun h => (mem_written hkey hvalue h).2.1 rfl]
  dsimp only
  rw [if_pos hmem, hfront, hback, hkey.trimmedText, hvalue.trimmedText]

/-! ### Written selectors -/

/-- The terms that were joined are the terms that are read. -/
theorem terms_intercalate (hne : ps ≠ []) (h : ∀ p ∈ ps, Literal p.1 ∧ Literal p.2) :
    terms (String.intercalate "," (ps.map fun p => p.1 ++ "=" ++ p.2)) = ps.map fun p => .equals p.1 p.2 := by
  have hsplit : (String.intercalate "," (ps.map fun p => p.1 ++ "=" ++ p.2)).toList.splitOn ',' = ps.map written := by
    rw [String.toList_intercalate, List.map_map]
    have hwritten : (String.toList ∘ fun p : String × String => p.1 ++ "=" ++ p.2) = written := funext toList_term
    rw [hwritten]
    refine List.splitOn_intercalate ',' (fun cs hcs => ?_) (by simpa using hne)
    obtain ⟨p, hp, rfl⟩ := List.mem_map.mp hcs
    exact fun hcomma => (mem_written (h p hp).1 (h p hp).2 hcomma).1 rfl
  have htrim : (ps.map written).map Text.trimmed = ps.map written := by
    rw [List.map_map]
    exact List.map_congr_left fun p hp => trimmed_eq_self fun c hc => (mem_written (h p hp).1 (h p hp).2 hc).2.2
  have hfilter : (ps.map written).filter (· != []) = ps.map written := by
    refine List.filter_eq_self.mpr fun cs hcs => ?_
    obtain ⟨p, -, rfl⟩ := List.mem_map.mp hcs
    simp [written]
  rw [terms, hsplit, htrim, hfilter, List.map_map]
  exact List.map_congr_left fun p hp => ofChars_written (h p hp).1 (h p hp).2

/-- A selector written for labels selects what carries all of them. -/
theorem selects_intercalate (hne : ps ≠ []) (h : ∀ p ∈ ps, Literal p.1 ∧ Literal p.2) (labels : Dict String) :
    selects (String.intercalate "," (ps.map fun p => p.1 ++ "=" ++ p.2)) labels = true ↔
      ∀ p ∈ ps, labels.get? p.1 = some p.2 := by
  rw [selects, terms_intercalate hne h, List.all_map, List.all_eq_true]
  exact ⟨fun h p hp => beq_iff_eq.mp (h p hp), fun h p hp => beq_iff_eq.mpr (h p hp)⟩

theorem selects_equals {key value : String} (hkey : Literal key) (hvalue : Literal value) (labels : Dict String) :
    selects (key ++ "=" ++ value) labels = true ↔ labels.get? key = some value := by
  have h := selects_intercalate (List.cons_ne_nil (key, value) []) (by simpa using ⟨hkey, hvalue⟩) labels
  simpa using h

end
end PlatformOperator.Selector
