import PlatformOperator.Cause

/-! Reports of failures lose no cause: the report of a tree of causes spells the own text of every one of them out, each
    once and before what the cause rests on or collects, with separators in between. -/

namespace PlatformOperator.Cause

/-! ### Trees of causes -/

mutual

/-- All causes of a tree, each before those it rests on or collects, these in their order. -/
def nodes : Cause → List Cause
  | .plain text => [.plain text]
  | .context text source => .context text source :: source.nodes
  | .stopped source => .stopped source :: source.nodes
  | .retryable source => .retryable source :: source.nodes
  | .api error => .api error :: (error.detail?.map .plain).toList
  | .collection members => .collection members :: nodesOfAll members

def nodesOfAll : List Cause → List Cause
  | [] => []
  | c :: cs => c.nodes ++ nodesOfAll cs

end

/-- The heading over the members of a collection. -/
def heading (members : List Cause) : String := toString members.length ++ " errors occurred:"

/-- What a cause adds to a report: its text, or the heading of a collection. One that collects a single cause adds
    nothing. -/
def ownText? : Cause → Option String
  | .plain text | .context text _ => some text
  | .stopped _ => some "reconciliation stopped"
  | .retryable _ => some "reconciliation action failed"
  | .api error => some error.text
  | .collection [_] => none
  | .collection members => some (heading members)

/-- The own texts of all causes of a tree. -/
def ownTexts (c : Cause) : List String := c.nodes.filterMap ownText?

/-! ### Texts with separators -/

/-- The message is made of these texts in their order, and of a separator between every two of them. -/
inductive Spelled : List String → String → Prop
  | last (text : String) : Spelled [text] text
  | next {texts : List String} {message separator : String} (text : String)
    (separates : separator = ": " ∨ separator = "\n\t* ") (rest : Spelled texts message) :
    Spelled (text :: texts) (text ++ separator ++ message)

variable {texts texts' : List String} {message message' separator : String}

theorem Spelled.append (h : Spelled texts message) (separates : separator = ": " ∨ separator = "\n\t* ")
    (h' : Spelled texts' message') : Spelled (texts ++ texts') (message ++ separator ++ message') := by
  induction h with
  | last text => exact .next text separates h'
  | @next texts message separator₁ text separates₁ _ ih =>
    have hmessage : text ++ separator₁ ++ message ++ separator ++ message' =
        text ++ separator₁ ++ (message ++ separator ++ message') := by
      simp only [String.append_assoc]
    rw [hmessage]
    exact .next text separates₁ ih

/-! ### Collections -/

theorem length_fullMessages (cs : List Cause) : (fullMessages cs).length = cs.length := by
  induction cs with
  | nil => rfl
  | cons c cs ih => rw [fullMessages, List.length_cons, List.length_cons, ih]

/-- The reports of members, each behind a mark. -/
def itemized (members : List Cause) : String :=
  String.join ((fullMessages members).map fun report => "\n\t* " ++ report)

variable {members : List Cause}

theorem listed_of_ne_one : ∀ {reports : List String}, reports.length ≠ 1 → listed reports =
    toString reports.length ++ " errors occurred:" ++ String.join (reports.map fun report => "\n\t* " ++ report)
  | [], _ => rfl
  | [_], h => absurd rfl h
  | _ :: _ :: _, _ => rfl

theorem fullMessage_collection (h : members.length ≠ 1) :
    (collection members).fullMessage = heading members ++ itemized members := by
  have hlength : (fullMessages members).length ≠ 1 := length_fullMessages members ▸ h
  show listed (fullMessages members) = _
  rw [listed_of_ne_one hlength, length_fullMessages, heading, itemized]

theorem ownText?_collection : ∀ {members : List Cause}, members.length ≠ 1 →
    ownText? (collection members) = some (heading members)
  | [], _ => rfl
  | [_], h => absurd rfl h
  | _ :: _ :: _, _ => rfl

theorem ownTexts_collection (h : members.length ≠ 1) :
    (collection members).ownTexts = heading members :: (nodesOfAll members).filterMap ownText? := by
  rw [ownTexts, nodes, List.filterMap_cons_some (ownText?_collection h)]

/-! ### Reports -/

theorem fullMessage_api (error : ApiError) : (api error).fullMessage =
    error.detail?.elim error.text fun detail => error.text ++ ": " ++ detail := by
  cases error <;> rfl

theorem api_spelled (error : ApiError) : Spelled (api error).ownTexts (api error).fullMessage := by
  rw [fullMessage_api]
  show Spelled (error.text :: (error.detail?.map plain).toList.filterMap ownText?) _
  cases error.detail? with
  | none => exact .last error.text
  | some detail => exact .next error.text (.inl rfl) (.last detail)

mutual

theorem fullMessage_spelled : ∀ c : Cause, Spelled c.ownTexts c.fullMessage
  | .plain text => .last text
  | .context text source => .next text (.inl rfl) source.fullMessage_spelled
  | .stopped source => .next "reconciliation stopped" (.inl rfl) source.fullMessage_spelled
  | .retryable source => .next "reconciliation action failed" (.inl rfl) source.fullMessage_spelled
  | .api error => api_spelled error
  | .collection [] => by
    rw [ownTexts_collection (by decide), fullMessage_collection (by decide)]
    exact itemized_spelled [] (.last (heading []))
  | .collection [member] => by
    rw [ownTexts, nodes, nodesOfAll, nodesOfAll, List.append_nil]
    exact member.fullMessage_spelled
  | .collection (c :: c' :: cs) => by
    have hlength : (c :: c' :: cs).length ≠ 1 := by simp
    rw [ownTexts_collection hlength, fullMessage_collection hlength]
    exact itemized_spelled (c :: c' :: cs) (.last (heading (c :: c' :: cs)))

/-- The reports of members, listed behind other texts. -/
theorem itemized_spelled : ∀ (members : List Cause) {texts : List String} {message : String}, Spelled texts message →
    Spelled (texts ++ (nodesOfAll members).filterMap ownText?) (message ++ itemized members)
  | [], texts, message, h => by
    rw [nodesOfAll, List.filterMap_nil, List.append_nil, itemized, fullMessages, List.map_nil, String.join_nil,
      String.append_empty]
    exact h
  | c :: cs, texts, message, h => by
    have hfirst := h.append (.inr rfl) c.fullMessage_spelled
    have hitems : message ++ itemized (c :: cs) = message ++ "\n\t* " ++ c.fullMessage ++ itemized cs := by
      rw [itemized, fullMessages, List.map_cons, String.join_cons, itemized]
      simp only [String.append_assoc]
    rw [nodesOfAll, List.filterMap_append, ← List.append_assoc, hitems]
    exact itemized_spelled cs hfirst

end

/-- These texts stand in the message, each from its offset on, and none reaches into the next. -/
structure Stand (message : String) (placed : List (Nat × String)) : Prop where
  present : ∀ p ∈ placed, p.2.toList <+: message.toList.drop p.1
  apart : placed.Pairwise fun p q => p.1 + p.2.length ≤ q.1

theorem Spelled.stand (h : Spelled texts message) : ∃ placed, placed.map Prod.snd = texts ∧ Stand message placed := by
  induction h with
  | last text =>
    refine ⟨[(0, text)], rfl, ?_, List.pairwise_singleton _ _⟩
    intro p hp
    rw [List.mem_singleton.mp hp]
    exact List.prefix_rfl
  | @next texts message separator text _ _ ih =>
    obtain ⟨placed, htexts, hpresent, hapart⟩ := ih
    -- The places of the other texts move behind this one and its separator.
    let shift (p : Nat × String) : Nat × String := ((text ++ separator).toList.length + p.1, p.2)
    refine ⟨(0, text) :: placed.map shift, ?_, fun p hp => ?_, List.pairwise_cons.mpr ⟨fun p hp => ?_, ?_⟩⟩
    · rw [List.map_cons, List.map_map, ← htexts]
      rfl
    · rw [String.toList_append]
      rcases List.mem_cons.mp hp with rfl | hp
      · rw [String.toList_append, List.append_assoc]
        exact List.prefix_append _ _
      · obtain ⟨q, hq, rfl⟩ := List.mem_map.mp hp
        rw [List.drop_length_add_append]
        exact hpresent q hq
    · obtain ⟨q, -, rfl⟩ := List.mem_map.mp hp
      have hbehind : text.length ≤ (text ++ separator).toList.length := by
        rw [String.toList_append, List.length_append, String.length_toList]
        exact Nat.le_add_right _ _
      show 0 + text.length ≤ _ + q.1
      rw [Nat.zero_add]
      exact Nat.le_add_right_of_le hbehind
    · refine List.pairwise_map.mpr (hapart.imp fun {p q} hpq => ?_)
      show _ + p.1 + p.2.length ≤ _ + q.1
      rw [Nat.add_assoc]
      exact Nat.add_le_add_left hpq _

/-- The report of a tree of causes is made of the own texts of all of them and of separators: no text is left out, and
    none is there twice. So each has a place of its own, in the order of the tree. -/
theorem fullMessage_keeps_causes (c : Cause) :
    Spelled c.ownTexts c.fullMessage ∧ ∃ placed, placed.map Prod.snd = c.ownTexts ∧ Stand c.fullMessage placed :=
  ⟨c.fullMessage_spelled, c.fullMessage_spelled.stand⟩

example : ownTexts (.stopped (.collection [.context "a" (.plain "b"), .collection [.plain "c"]])) =
    ["reconciliation stopped", "2 errors occurred:", "a", "b", "c"] := by decide

end PlatformOperator.Cause
