import PlatformOperator.Proofs.Condition.Timely

/-! The conditions that a run leaves behind are settled: a manager that starts from them finds nothing missing, and
    asking the same of it again changes nothing, neither the transition times nor the order. -/

namespace PlatformOperator

namespace Manager
variable {m m' : Manager} {c d : Condition} {now : Timestamp} {clock clock' : Clock} {t : String} {ts : List String}
  {asked : List Condition}

/-! ### Marks -/

/-- A mark on the conditions. -/
structure Mark where
  type : String
  status : ConditionStatus
  details : ConditionDetails
  deriving DecidableEq, Repr

/-- What a mark sets. -/
def Mark.condition (k : Mark) : Condition where
  type := k.type
  status := k.status
  reason := k.details.reason
  message := k.details.message
  observedGeneration := k.details.observedGeneration
  severity := k.details.severity.getD .error

theorem mark_eq (k : Mark) (m : Manager) : m.mark k.type k.status k.details = m.set k.condition := rfl

/-- These marks are made one after the other, and nothing else changes the conditions. Time may pass in between. -/
inductive Marked : List Mark → Manager → Clock → Manager → Clock → Prop
  | none {m : Manager} {clock clock' : Clock} (later : clock.readings ≤ clock'.readings) : Marked [] m clock m clock'
  | mark {k : Mark} {ks : List Mark} {m m' : Manager} {clock clock₁ clock' : Clock}
    (later : clock.readings ≤ clock₁.readings)
    (rest : Marked ks (m.mark k.type k.status k.details clock₁).1 (m.mark k.type k.status k.details clock₁).2
      m' clock') :
    Marked (k :: ks) m clock m' clock'

variable {ks : List Mark}

/-- What every single mark keeps, all of them keep. -/
theorem Marked.keeps {P : Manager → Prop} (h : Marked ks m clock m' clock')
    (hmark : ∀ k ∈ ks, ∀ m clock, P m → P (m.set k.condition clock).1) (hm : P m) : P m' := by
  induction h with
  | none => exact hm
  | mark _ _ ih =>
    exact ih (fun k hk => hmark k (List.mem_cons_of_mem _ hk)) (hmark _ List.mem_cons_self _ _ hm)

theorem Marked.sameTypes (h : Marked ks m clock m' clock') : SameTypes m m' :=
  h.keeps (P := SameTypes m) (fun k _ m₁ clock hm => hm.trans (sameTypes_set k.condition m₁ clock)) ⟨rfl, rfl⟩

theorem Marked.proceeds (h : Marked ks m clock m' clock') (hunstamped : ∀ k ∈ ks, k.condition.Unstamped) :
    Proceeds m clock (m', clock') := by
  induction h with
  | none later => exact .wait later _
  | @mark k ks m m' clock clock₁ clock' later _ ih =>
    have hmark : Proceeds m clock₁ (m.set k.condition clock₁) := set_proceeds (hunstamped k List.mem_cons_self) m _
    exact (Proceeds.wait later m).trans (hmark.trans (ih fun k hk => hunstamped k (List.mem_cons_of_mem _ hk)))

/-! ### Types -/

theorem mem_types_storeIn {cs : List Condition} :
    t ∈ (storeIn c now cs).2.map (·.type) ↔ t ∈ cs.map (·.type) ∨ t = c.type := by
  rw [storeIn_types]
  split
  · rename_i hmem
    exact ⟨.inl, fun h => h.elim id fun heq => heq ▸ hmem⟩
  · rw [List.mem_append, List.mem_singleton]

/-- The types of the conditions. -/
def types (m : Manager) : List String := m.conditions.map (·.type)

theorem types_aligned {changed : String} (h : t ∈ (m.aligned changed now).types) : t ∈ m.types ∨ t = m.happy := by
  unfold aligned at h
  split at h
  · exact .inl h
  · rename_i top htop
    exact entailed?_type htop ▸ mem_types_storeIn.mp h

theorem types_subset_aligned (m : Manager) (changed : String) (now : Timestamp) :
    m.types ⊆ (m.aligned changed now).types := by
  intro t ht
  unfold aligned
  split
  · exact ht
  · exact mem_types_storeIn.mpr (.inl ht)

/-- Setting a condition adds its type, and that of the happy condition at most. -/
theorem types_set (h : t ∈ (m.set c clock).1.types) : t ∈ m.types ∨ t = c.type ∨ t = m.happy := by
  rw [set_fst] at h
  split at h
  · rcases types_aligned h with hstored | hhappy
    · exact (mem_types_storeIn.mp hstored).imp id .inl
    · exact .inr (.inr hhappy)
  · exact .inl h

theorem mem_types_set (h : t ∈ m.types ∨ t = c.type) (clock : Clock) : t ∈ (m.set c clock).1.types := by
  have hstored : t ∈ (m.store c clock.next).2.types := mem_types_storeIn.mpr h
  rw [set_fst]
  cases hchanged : (m.store c clock.next).1 with
  | true => exact types_subset_aligned _ _ _ hstored
  | false => exact store_snd_of_fst hchanged ▸ hstored

theorem mem_types_iff : t ∈ m.types ↔ ∃ c, m.condition? t = some c := by
  rw [← Option.isSome_iff_exists, condition?, List.find?_isSome, types, List.mem_map]
  simp only [beq_iff_eq]

/-- The happy condition and all dependents are there. -/
def Complete (m : Manager) : Prop := ∀ t, t = m.happy ∨ t ∈ m.dependents → t ∈ m.types

/-- Nothing but the happy condition and the dependents is there. -/
def Trim (m : Manager) : Prop := ∀ t ∈ m.types, t = m.happy ∨ t ∈ m.dependents

theorem Complete.set (h : m.Complete) (c : Condition) (clock : Clock) : (m.set c clock).1.Complete := by
  obtain ⟨hhappy, hdeps⟩ := sameTypes_set c m clock
  intro t ht
  rw [hhappy, hdeps] at ht
  exact mem_types_set (.inl (h t ht)) clock

theorem Complete.recompute (h : m.Complete) (changed : String) (clock : Clock) :
    (m.recompute changed clock).1.Complete := by
  obtain ⟨hhappy, hdeps⟩ := sameTypes_recompute changed m clock
  intro t ht
  rw [hhappy, hdeps] at ht
  rw [recompute_fst]
  exact types_subset_aligned m changed _ (h t ht)

theorem Trim.set (h : m.Trim) (hc : c.type = m.happy ∨ c.type ∈ m.dependents) (clock : Clock) :
    (m.set c clock).1.Trim := by
  obtain ⟨hhappy, hdeps⟩ := sameTypes_set c m clock
  intro t ht
  rw [hhappy, hdeps]
  rcases types_set ht with hmem | rfl | rfl
  · exact h t hmem
  · exact hc
  · exact .inl rfl

theorem Trim.recompute (h : m.Trim) (changed : String) (clock : Clock) : (m.recompute changed clock).1.Trim := by
  obtain ⟨hhappy, hdeps⟩ := sameTypes_recompute changed m clock
  intro t ht
  rw [hhappy, hdeps]
  rw [recompute_fst] at ht
  exact (types_aligned ht).elim (h t) .inl

theorem Trim.addMissing (h : m.Trim) (status : ConditionStatus) (hts : ∀ t ∈ ts, t ∈ m.dependents) (clock : Clock) :
    (m.addMissing status ts clock).1.Trim := by
  induction ts generalizing m clock with
  | nil => exact h
  | cons t ts ih =>
    have hrest : ∀ t ∈ ts, t ∈ m.dependents := fun u hu => hts u (List.mem_cons_of_mem _ hu)
    rw [addMissing_cons]
    split
    · exact ih h hrest clock
    · obtain ⟨-, hdeps⟩ := sameTypes_set { type := t, status } m clock
      refine ih (h.set (.inr ?_) clock) (fun u hu => hdeps ▸ hrest u hu) _
      exact hts t List.mem_cons_self

theorem trimmed_trim (m : Manager) : m.trimmed.Trim := by
  intro t ht
  obtain ⟨c, hc, rfl⟩ := List.mem_map.mp ht
  show c.type = m.happy ∨ c.type ∈ m.dependents
  simpa using (List.mem_filter.mp hc).2

/-- A reset leaves nothing else. -/
theorem reset_trim (m : Manager) (clock : Clock) : (m.reset clock).1.Trim := by
  rw [reset_eq]
  unfold complete
  cases m.trimmed.top? with
  | some top => exact m.trimmed_trim.addMissing _ (fun _ ht => ht) clock
  | none => exact (m.trimmed_trim.set (.inl rfl) clock).addMissing _ (fun _ ht => ht) _

/-- Nothing is added to complete conditions. -/
theorem Complete.complete_eq (h : m.Complete) (clock : Clock) : m.complete clock = (m, clock) := by
  have hadd (status : ConditionStatus) : ∀ ts : List String, (∀ t ∈ ts, t ∈ m.types) →
      m.addMissing status ts clock = (m, clock) := by
    intro ts hts
    induction ts with
    | nil => rfl
    | cons t ts ih =>
      obtain ⟨c, hc⟩ := mem_types_iff.mp (hts t List.mem_cons_self)
      rw [addMissing_cons, hc, Option.isSome_some, if_pos rfl]
      exact ih fun t ht => hts t (List.mem_cons_of_mem _ ht)
  obtain ⟨top, htop⟩ := mem_types_iff.mp (h m.happy (.inl rfl))
  have htop : m.top? = some top := htop
  unfold complete
  rw [htop]
  exact hadd _ _ fun t ht => h t (.inr ht)

/-- A reset finds nothing to do where all that it asks for is there and nothing else is. -/
theorem reset_eq_self (hcomplete : m.Complete) (htrim : m.Trim) (clock : Clock) : m.reset clock = (m, clock) := by
  have hkept : m.trimmed = m := by
    have hall : ∀ c ∈ m.conditions, (c.type == m.happy || m.dependents.contains c.type) = true := by
      intro c hc
      simpa using htrim c.type (List.mem_map_of_mem hc)
    unfold trimmed
    rw [List.filter_eq_self.mpr hall]
  rw [reset_eq, hkept, hcomplete.complete_eq]

theorem mem_types_addMissing (status : ConditionStatus) (ts : List String) (m : Manager) (clock : Clock)
    (h : t ∈ m.types ∨ t ∈ ts) : t ∈ (m.addMissing status ts clock).1.types := by
  induction ts generalizing m clock with
  | nil => exact h.resolve_right List.not_mem_nil
  | cons u ts ih =>
    rw [addMissing_cons, List.mem_cons] at *
    split
    · rename_i hsome
      refine ih m clock ?_
      rcases h with hmem | rfl | hrest
      · exact .inl hmem
      · exact .inl (mem_types_iff.mpr (Option.isSome_iff_exists.mp hsome))
      · exact .inr hrest
    · refine ih _ _ ?_
      rcases h with hmem | rfl | hrest
      · exact .inl (mem_types_set (.inl hmem) clock)
      · exact .inl (mem_types_set (.inr rfl) clock)
      · exact .inr hrest

theorem complete_complete (m : Manager) (clock : Clock) : (m.complete clock).1.Complete := by
  obtain ⟨hhappy, hdeps⟩ := sameTypes_complete m clock
  intro t ht
  rw [hhappy, hdeps] at ht
  unfold complete
  cases htop : m.top? with
  | some top =>
    refine mem_types_addMissing _ _ m clock (ht.imp ?_ id)
    rintro rfl
    exact mem_types_iff.mpr ⟨top, htop⟩
  | none =>
    obtain ⟨-, hdeps'⟩ := sameTypes_set { type := m.happy, status := .unknown } m clock
    refine mem_types_addMissing _ _ _ _ (ht.imp ?_ fun hdep => hdeps' ▸ hdep)
    rintro rfl
    exact mem_types_set (.inr rfl) clock

theorem Trim.sort (h : m.Trim) : m.sort.Trim := fun t ht => h t ((m.sort_perm.map _).mem_iff.mp ht)

theorem Complete.sort (h : m.Complete) : m.sort.Complete :=
  fun t ht => (m.sort_perm.map _).mem_iff.mpr (h t ht)

/-! ### Conditions that stand as asked -/

/-- The condition of the type stands as `c` asks for it, times apart. -/
def Stands (m : Manager) (c : Condition) : Prop := ∃ d, m.condition? c.type = some d ∧ d.timeless = c.timeless

theorem Stands.set_eq (h : m.Stands c) (clock : Clock) : (m.set c clock).1 = m := by
  obtain ⟨d, hd, hsame⟩ := h
  have hkept : (m.store c clock.next).1 = false := storeIn_fst_of_find? hd hsame
  rw [set_fst, hkept]
  rfl

/-- The happy condition stays as it is where it stands as the others entail it. -/
theorem recompute_eq_self (h : ∀ top, m.entailed? t = some top → m.Stands top) (clock : Clock) :
    (m.recompute t clock).1 = m := by
  cases hentailed : m.entailed? t with
  | none => exact recompute_of_none hentailed clock
  | some top =>
    unfold recompute
    rw [hentailed]
    exact (h top hentailed).set_eq clock

theorem stands_set (h : c.type ≠ m.happy) (clock : Clock) : (m.set c clock).1.Stands c := set_condition? h clock

theorem set_condition?_of_ne (hne : t ≠ c.type) (hhappy : t ≠ m.happy) (clock : Clock) :
    (m.set c clock).1.condition? t = m.condition? t := by
  obtain ⟨hsame, -⟩ := sameTypes_set c m clock
  have hstored : (m.store c clock.next).2.condition? t = m.condition? t := by
    have hfilter : (m.store c clock.next).2.conditions.filter (·.type == t) = m.conditions.filter (·.type == t) :=
      storeIn_filter (p := (· == t)) (beq_false_of_ne hne.symm)
    unfold condition?
    rw [← List.head?_filter, ← List.head?_filter]
    exact congrArg List.head? hfilter
  rw [condition?_of_ne (hsame ▸ hhappy), others_set, ← condition?_of_ne (by exact hhappy), hstored]

theorem Stands.set (h : m.Stands d) (hne : d.type ≠ c.type) (hhappy : d.type ≠ m.happy) (clock : Clock) :
    (m.set c clock).1.Stands d := by
  unfold Stands
  rw [set_condition?_of_ne hne hhappy clock]
  exact h

theorem Stands.recompute {changed : String} (h : m.Stands d) (hhappy : d.type ≠ m.happy) (clock : Clock) :
    (m.recompute changed clock).1.Stands d := by
  unfold Stands
  rw [recompute_condition? hhappy]
  exact h

theorem Stands.sort (h : m.Stands d) : m.sort.Stands d := by
  unfold Stands
  rw [sort_condition?]
  exact h

/-- Marks of distinct types all stand at the end. -/
theorem Marked.stands (h : Marked ks m clock m' clock') (hdistinct : (ks.map (·.type)).Nodup)
    (hhappy : ∀ k ∈ ks, k.type ≠ m.happy) : ∀ k ∈ ks, m'.Stands k.condition := by
  induction h with
  | none => exact fun k hk => absurd hk List.not_mem_nil
  | @mark k ks m m' clock clock₁ clock' _ rest ih =>
    obtain ⟨hnew, hrest⟩ := List.nodup_cons.mp hdistinct
    have hfirst : m.happy ≠ k.type := (hhappy k List.mem_cons_self).symm
    obtain ⟨hsame, -⟩ := sameTypes_set k.condition m clock₁
    intro k' hk'
    rcases List.mem_cons.mp hk' with rfl | hk'
    -- The later marks are of other types, so what the first one set stays.
    · refine (rest.keeps (P := fun m₁ => m₁.happy = m.happy ∧ m₁.Stands k'.condition) ?_
        ⟨hsame, stands_set hfirst.symm clock₁⟩).2
      rintro k₁ hk₁ m₁ clock ⟨hhappy₁, hstands⟩
      obtain ⟨hsame₁, -⟩ := sameTypes_set k₁.condition m₁ clock
      refine ⟨hsame₁.trans hhappy₁, hstands.set (fun heq => hnew ?_) (hhappy₁ ▸ hfirst.symm) clock⟩
      exact List.mem_map.mpr ⟨k₁, hk₁, heq.symm⟩
    · refine ih hrest (fun k₁ hk₁ => ?_) k' hk'
      rw [mark_eq, hsame]
      exact hhappy k₁ (List.mem_cons_of_mem _ hk₁)

/-! ### Settled conditions -/

/-- Nothing is missing, what was asked for stands, the happy condition is in line, and all are in their places. -/
structure Settled (m : Manager) (asked : List Condition) : Prop where
  complete : m.Complete
  asked : ∀ c ∈ asked, m.Stands c
  inLine : ∀ top, m.entailed? "" = some top → m.Stands top
  placed : m.sort = m

/-- The recomputed happy condition stands as the others entail it. -/
theorem stands_recompute (h : (m.recompute t clock).1.entailed? t = some c) : (m.recompute t clock).1.Stands c := by
  rw [recompute_fst] at *
  unfold aligned at *
  cases hentailed : m.entailed? t with
  | none =>
    rw [hentailed] at h
    cases hentailed.symm.trans h
  | some top =>
    rw [hentailed] at h
    cases hentailed.symm.trans ((entailed?_store_happy (entailed?_type hentailed)).symm.trans h)
    exact store_condition? c clock.next m

/-- A run ends with one more condition set, the happy one put in line and all of them sorted: then they are settled. -/
theorem settled_sort {m₁ : Manager} (hcomplete : m.Complete) (htimely : Timely clock m.conditions) (hc : c.Unstamped)
    (hne : c.type ≠ m.happy) (hasked : ∀ d ∈ asked, m.Stands d ∧ d.type ≠ c.type ∧ d.type ≠ m.happy)
    (hm₁ : m₁ = ((m.set c clock).1.recompute "" (m.set c clock).2).1) : m₁.sort.Settled (c :: asked) where
  complete := hm₁ ▸ ((hcomplete.set c clock).recompute "" _).sort
  asked := by
    obtain ⟨hsame, -⟩ := sameTypes_set c m clock
    subst hm₁
    intro d hd
    rcases List.mem_cons.mp hd with rfl | hd
    · exact ((stands_set hne clock).recompute (hsame ▸ hne) _).sort
    · obtain ⟨hstands, htype, hhappy⟩ := hasked d hd
      exact ((hstands.set htype hhappy clock).recompute (hsame ▸ hhappy) _).sort
  inLine := by
    have htimes : (m₁.conditions.map (·.lastTransitionTime)).Nodup := by
      rw [hm₁]
      exact (((set_proceeds hc m clock).trans (recompute_proceeds "" _ _)).timely htimely).distinct
    intro top htop
    rw [entailed?_sort htimes] at htop
    subst hm₁
    exact (stands_recompute htop).sort
  placed := sort_sort m₁

namespace Settled
variable (h : m.Settled asked)
include h

/-- A manager that starts from settled conditions has just these. -/
theorem start_eq {declared : List String} (hdeps : m.dependents = (declared.filter (· != m.happy)).eraseDups)
    (clock : Clock) : start m.conditions m.happy declared clock = (m, clock) := by
  have hsame : start m.conditions m.happy declared = m.complete := by
    obtain ⟨happy, deps, cs, hmem⟩ := m
    dsimp only at hdeps
    subst hdeps
    rfl
  rw [hsame, h.complete.complete_eq]

theorem reset_eq (htrim : m.Trim) (clock : Clock) : m.reset clock = (m, clock) := reset_eq_self h.complete htrim clock

theorem marked_eq (hks : ∀ k ∈ ks, k.condition ∈ asked) (hmarked : Marked ks m clock m' clock') : m' = m := by
  refine hmarked.keeps (P := (· = m)) ?_ rfl
  rintro k hk _ clock rfl
  exact (h.asked _ (hks k hk)).set_eq clock

theorem concluded_eq (hc : c ∈ asked) (clock clock' : Clock) : ((m.set c clock).1.recompute "" clock').1.sort = m := by
  rw [(h.asked c hc).set_eq clock, recompute_eq_self h.inLine clock', h.placed]

end Settled

/-! ### Conditions that were written and read -/

/-- The manager with all times cut to whole seconds. -/
def whole (m : Manager) : Manager := { m with conditions := m.conditions.map Condition.whole }

theorem whole_condition? (m : Manager) (t : String) : m.whole.condition? t = (m.condition? t).map Condition.whole :=
  List.find?_map

theorem Stands.whole (h : m.Stands c) : m.whole.Stands c := by
  obtain ⟨d, hd, hsame⟩ := h
  exact ⟨d.whole, by rw [whole_condition?, hd]; rfl, hsame⟩

theorem types_whole (m : Manager) : m.whole.types = m.types := List.map_map

theorem sort_whole (m : Manager) : m.whole.sort = m.sort.whole := by
  have hplaced : (m.conditions.mergeSort m.placed).map Condition.whole =
      (m.conditions.map Condition.whole).mergeSort m.placed := List.map_mergeSort fun _ _ _ _ => rfl
  show { m with conditions := (m.conditions.map Condition.whole).mergeSort m.placed } = _
  rw [← hplaced]
  rfl

/-- Where all transition times are whole seconds, they order the candidates as before. -/
theorem entailed?_whole (htimes : ∀ c ∈ m.conditions, c.whole.lastTransitionTime = c.lastTransitionTime) (t : String) :
    m.whole.entailed? t = m.entailed? t := by
  have hcandidates : m.whole.candidates = m.candidates.map Condition.whole := by
    unfold candidates
    rw [List.map_mergeSort (s := notEarlier)]
    · congr 1
      exact List.filter_map
    · intro c hc d hd
      unfold notEarlier
      rw [htimes c (List.mem_filter.mp hc).1, htimes d (List.mem_filter.mp hd).1]
  have hunhappy : m.whole.unhappy? = m.unhappy?.map Condition.whole := by
    have hfind (p : ConditionStatus → Bool) : (m.candidates.map Condition.whole).find? (fun c => p c.status) =
        (m.candidates.find? fun c => p c.status).map Condition.whole := List.find?_map
    unfold unhappy?
    rw [hcandidates, hfind (· == .false), hfind (· == .unknown)]
    cases m.candidates.find? fun c => c.status == .false <;> rfl
  unfold entailed?
  rw [hunhappy]
  cases m.unhappy? <;> rfl

theorem Settled.whole (h : m.Settled asked) (htimely : Timely clock m.conditions) : m.whole.Settled asked where
  complete := fun t ht => types_whole m ▸ h.complete t ht
  asked := fun c hc => (h.asked c hc).whole
  inLine := by
    have htimes : ∀ c ∈ m.conditions, c.whole.lastTransitionTime = c.lastTransitionTime := by
      intro c hc
      show c.lastTransitionTime.map Timestamp.whole = _
      cases ht : c.lastTransitionTime with
      | none => rfl
      | some t => exact congrArg some (htimely.passed c hc t ht).1
    intro top htop
    rw [entailed?_whole htimes] at htop
    exact (h.inLine top htop).whole
  placed := by rw [sort_whole, h.placed]

end Manager
end PlatformOperator
