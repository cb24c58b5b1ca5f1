import PlatformOperator.Event

/-! Notes of events within a limit of bytes: of a longer text the longest front stays that ends between two characters
    and leaves room for the ellipsis. -/

namespace PlatformOperator.Event
variable {budget : Nat} {cs front : List Char}

/-! ### Bytes of characters -/

/-- The number of bytes that characters take. -/
def size (cs : List Char) : Nat := (String.ofList cs).utf8ByteSize

theorem size_toList (s : String) : size s.toList = s.utf8ByteSize := by
  rw [size, String.ofList_toList]

theorem size_cons (c : Char) (cs : List Char) : size (c :: cs) = c.utf8Size + size cs := by
  rw [size, String.ofList_cons, String.utf8ByteSize_append, String.utf8ByteSize_singleton, size]

theorem size_le_of_prefix (h : front <+: cs) : size front ≤ size cs := by
  obtain ⟨rest, rfl⟩ := h
  rw [size, size, String.ofList_append, String.utf8ByteSize_append]
  exact Nat.le_add_right _ _

/-! ### The front within a budget -/

theorem frontWithin_prefix (budget : Nat) (cs : List Char) : frontWithin budget cs <+: cs := by
  induction cs generalizing budget with
  | nil => exact List.nil_prefix
  | cons c cs ih =>
    unfold frontWithin
    split
    · exact List.cons_prefix_cons.mpr ⟨rfl, ih _⟩
    · exact List.nil_prefix

theorem size_frontWithin_le (budget : Nat) (cs : List Char) : size (frontWithin budget cs) ≤ budget := by
  induction cs generalizing budget with
  | nil => exact Nat.zero_le _
  | cons c cs ih =>
    unfold frontWithin
    split
    · rename_i hfits
      have hrest := ih (budget - c.utf8Size)
      rw [size_cons]
      omega
    · exact Nat.zero_le _

/-- Every front of the characters that keeps to the budget is part of it. -/
theorem prefix_frontWithin (h : front <+: cs) (hsize : size front ≤ budget) : front <+: frontWithin budget cs := by
  induction front generalizing budget cs with
  | nil => exact List.nil_prefix
  | cons c front ih =>
    obtain ⟨rest, rfl⟩ := h
    rw [size_cons] at hsize
    have hfits : c.utf8Size ≤ budget := Nat.le_of_add_right_le hsize
    rw [List.cons_append, frontWithin, if_pos hfits]
    exact List.cons_prefix_cons.mpr ⟨rfl, ih (List.prefix_append _ _) (Nat.le_sub_of_add_le' hsize)⟩

/-- The longest front of a text that ends on the boundary of a character and has no more bytes than the budget. -/
structure LongestFront (budget : Nat) (s front : String) : Prop where
  starts : ∃ rest, s = front ++ rest
  within : front.utf8ByteSize ≤ budget
  longest : ∀ boundary : String.Pos.Raw, boundary.IsValid s → boundary.byteIdx ≤ budget →
    boundary.byteIdx ≤ front.utf8ByteSize

theorem longestFront_frontWithin (budget : Nat) (s : String) :
    LongestFront budget s (String.ofList (frontWithin budget s.toList)) where
  starts := by
    obtain ⟨rest, hrest⟩ := frontWithin_prefix budget s.toList
    refine ⟨String.ofList rest, ?_⟩
    rw [← String.ofList_append, hrest, String.ofList_toList]
  within := size_frontWithin_le budget s.toList
  longest := by
    intro boundary hvalid hbudget
    obtain ⟨t, rest, rfl, rfl⟩ := String.Pos.Raw.isValid_iff_exists_append.mp hvalid
    have hsize : size t.toList ≤ budget := by rwa [size_toList]
    have hprefix : t.toList <+: (t ++ rest).toList := by
      rw [String.toList_append]
      exact List.prefix_append _ _
    have hle := size_le_of_prefix (prefix_frontWithin hprefix hsize)
    rwa [size_toList] at hle

/-! ### Notes -/

variable {limit : Nat} {s : String}

theorem truncated_of_le (h : s.utf8ByteSize ≤ limit) : truncated limit s = s := if_pos h

theorem truncated_of_lt (h : limit < s.utf8ByteSize) : truncated limit s = String.ofList
    (if 3 ≤ limit then frontWithin (limit - 3) s.toList ++ ['…'] else frontWithin (limit - 3) s.toList) :=
  if_neg (Nat.not_le_of_lt h)

theorem truncated_of_room (h : limit < s.utf8ByteSize) (hroom : 3 ≤ limit) :
    truncated limit s = String.ofList (frontWithin (limit - 3) s.toList) ++ "…" := by
  rw [truncated_of_lt h, if_pos hroom, String.ofList_append]

theorem truncated_of_no_room (h : limit < s.utf8ByteSize) (hroom : limit < 3) : truncated limit s = "" := by
  have hempty : frontWithin 0 s.toList = [] := by
    cases s.toList with
    | nil => rfl
    | cons c cs => exact if_neg (Nat.not_le_of_lt c.utf8Size_pos)
  rw [truncated_of_lt h, if_neg (Nat.not_le_of_lt hroom), Nat.sub_eq_zero_of_le (Nat.le_of_lt hroom), hempty]

theorem utf8ByteSize_truncated_le (limit : Nat) (s : String) : (truncated limit s).utf8ByteSize ≤ limit := by
  rcases Nat.lt_or_ge limit s.utf8ByteSize with h | h
  · rcases Nat.lt_or_ge limit 3 with hroom | hroom
    · rw [truncated_of_no_room h hroom]
      exact Nat.zero_le _
    · have hfront := (longestFront_frontWithin (limit - 3) s).within
      have hellipsis : "…".utf8ByteSize = 3 := by decide
      rw [truncated_of_room h hroom, String.utf8ByteSize_append, hellipsis]
      exact Nat.add_le_of_le_sub hroom hfront
  · rwa [truncated_of_le h]

/-- A text within the limit stays as it is. Of a longer one the longest front stays that leaves room for the three bytes
    of an ellipsis, and nothing if these alone are too many. So the limit is kept, and a second cut changes nothing. -/
theorem truncated_cuts (limit : Nat) (s : String) :
    (s.utf8ByteSize ≤ limit → truncated limit s = s) ∧
    (limit < s.utf8ByteSize → 3 ≤ limit → ∃ front, LongestFront (limit - 3) s front ∧
      truncated limit s = front ++ "…" ∧ (truncated limit s).utf8ByteSize = front.utf8ByteSize + 3) ∧
    (limit < s.utf8ByteSize → limit < 3 → truncated limit s = "") ∧
    (truncated limit s).utf8ByteSize ≤ limit ∧ truncated limit (truncated limit s) = truncated limit s := by
  refine ⟨truncated_of_le, fun h hroom => ?_, truncated_of_no_room, utf8ByteSize_truncated_le limit s,
    truncated_of_le (utf8ByteSize_truncated_le limit s)⟩
  refine ⟨_, longestFront_frontWithin (limit - 3) s, truncated_of_room h hroom, ?_⟩
  rw [truncated_of_room h hroom, String.utf8ByteSize_append]
  rfl

/-- The character of four bytes behind the word would leave no room for the ellipsis. -/
example : truncated 8 "hello🙋" = "hello…" := by decide

end PlatformOperator.Event
