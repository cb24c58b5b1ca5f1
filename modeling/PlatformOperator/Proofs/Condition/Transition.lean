import PlatformOperator.Proofs.Condition.Mirror
import PlatformOperator.Proofs.Condition.Provenance
import PlatformOperator.Proofs.Condition.Settled

/-! Transition times across one operation. A store moves the time of a condition just if it moves the status, so over
    an operation that stores once the time moves with the status. The happy condition is the one that an operation may
    store twice: where it is set to another status, or cleared, and the dependents put its status back, the status is
    the same as before and the time is not. -/

namespace PlatformOperator

/-! ### The status that follows -/

section
variable {W W' : Condition → Prop} {top top' : Condition}

/-- The same status follows where both say alike whether anything is False and whether anything is not True. -/
theorem Follows.status_eq (h : Follows W top) (h' : Follows W' top')
    (hfalse : (∃ c, W' c ∧ c.status = .false) ↔ ∃ c, W c ∧ c.status = .false)
    (htrue : (∃ c, W' c ∧ c.status ≠ .true) ↔ ∃ c, W c ∧ c.status ≠ .true) : top'.status = top.status := by
  have none_false {W : Condition → Prop} (hnone : ¬∃ c, W c ∧ c.status = .false) : ∀ c, W c → c.status ≠ .false :=
    fun c hc hs => hnone ⟨c, hc, hs⟩
  have all_true {W : Condition → Prop} (hnone : ¬∃ c, W c ∧ c.status ≠ .true) : ∀ c, W c → c.status = .true :=
    fun c hc => Decidable.byContradiction fun hs => hnone ⟨c, hc, hs⟩
  by_cases hfailed : ∃ c, W c ∧ c.status = .false
  · exact (h'.failed (hfalse.mpr hfailed)).trans (h.failed hfailed).symm
  · by_cases hpending : ∃ c, W c ∧ c.status ≠ .true
    · have hfailed' := mt hfalse.mp hfailed
      exact (h'.pending (htrue.mpr hpending) (none_false hfailed')).trans
        (h.pending hpending (none_false hfailed)).symm
    · exact (h'.content (all_true (mt htrue.mp hpending))).trans (h.content (all_true hpending)).symm

theorem Follows.ne_true (h : Follows W top) (hW : ∃ c, W c ∧ c.status ≠ .true) : top.status ≠ .true := by
  by_cases hfailed : ∃ c, W c ∧ c.status = .false
  · rw [h.failed hfailed]
    decide
  · rw [h.pending hW fun c hc hs => hfailed ⟨c, hc, hs⟩]
    decide

end

namespace Manager

variable {m m' : Manager} {c d top : Condition} {clock : Clock} {t u : String} {ts : List String}
  {status : ConditionStatus}

/-! ### One store keeps the time with the status -/

/-- If the condition of the type has the same status as before, it has the same time. -/
def KeepsTime (t : String) (m m' : Manager) : Prop :=
  ∀ c d, m.condition? t = some c → m'.condition? t = some d → d.status = c.status →
    d.lastTransitionTime = c.lastTransitionTime

theorem KeepsTime.of_eq (h : m'.condition? t = m.condition? t) : KeepsTime t m m' := by
  intro c d hc hd _
  cases (hc.symm.trans h.symm).trans hd
  rfl

theorem KeepsTime.congr {m₁ : Manager} (h : KeepsTime t m₁ m') (hm : m₁.condition? t = m.condition? t) :
    KeepsTime t m m' :=
  fun c d hc => h c d (hm.trans hc)

theorem store_keepsTime (c : Condition) (now : Timestamp) (m : Manager) (t : String) :
    KeepsTime t m (m.store c now).2 := by
  intro old d hold hd hstatus
  by_cases ht : t = c.type
  · subst ht
    cases (store_condition?_of_some hold).symm.trans hd
    exact if_pos hstatus.symm
  · rw [store_condition?_of_ne ht] at hd
    cases hold.symm.trans hd
    rfl

theorem aligned_keepsTime (changed : String) (now : Timestamp) (m : Manager) (t : String) :
    KeepsTime t m (m.aligned changed now) := by
  unfold aligned
  split
  · exact .of_eq rfl
  · exact store_keepsTime _ now m t

/-- Setting a condition stores the happy one twice only if it is the one that was set. -/
theorem set_keepsTime (h : t = m.happy → c.type ≠ m.happy) (clock : Clock) :
    KeepsTime t m (m.set c clock).1 := by
  by_cases hhappy : t = m.happy
  · subst hhappy
    rw [set_fst]
    split
    · exact (aligned_keepsTime _ _ _ _).congr (store_condition?_of_ne (h rfl).symm)
    · exact .of_eq rfl
  · obtain ⟨hsame, -⟩ := sameTypes_set c m clock
    have hset : (m.set c clock).1.condition? t = (m.store c clock.next).2.condition? t := by
      rw [condition?_of_ne (hsame ▸ hhappy), others_set, ← condition?_of_ne (by exact hhappy)]
    intro old d hold hd
    exact store_keepsTime c clock.next m t old d hold (hset ▸ hd)

/-- The happy condition keeps its time if it is asked for the status that it has. -/
theorem set_happy_keepsTime {old : Condition} (hold : m.condition? c.type = some old)
    (hstatus : c.status = old.status) (clock : Clock) : KeepsTime c.type m (m.set c clock).1 := by
  intro old' d hold' hd hsame
  cases hold.symm.trans hold'
  rw [set_fst] at hd
  split at hd
  · have hstored : (m.store c clock.next).2.condition? c.type = some (old.update c clock.next).2 :=
      store_condition?_of_some hold
    have hkept : (old.update c clock.next).2.lastTransitionTime = old.lastTransitionTime := if_pos hstatus.symm
    rw [← hkept]
    exact aligned_keepsTime _ _ _ _ _ d hstored hd (hsame.trans hstatus.symm)
  · cases hold.symm.trans hd
    rfl

theorem recompute_keepsTime (changed : String) (m : Manager) (clock : Clock) (t : String) :
    KeepsTime t m (m.recompute changed clock).1 := by
  rw [recompute_fst]
  exact aligned_keepsTime changed _ m t

theorem clear_keepsTime (h : t = u → t ≠ m.happy) (clock : Clock) : KeepsTime t m (m.clear u clock).1 := by
  unfold clear
  split
  · exact .of_eq rfl
  · have hkept : Manager.condition? { m with conditions := m.conditions.filter (·.type != u) } t =
        if t != u then m.condition? t else none := filter_condition? (· != u) m.conditions t
    by_cases ht : t = u
    · -- A cleared condition is not there any more, unless it is the happy one.
      intro c d _ hd
      rw [recompute_condition? (by exact h ht), hkept, if_neg (by simp [ht])] at hd
      cases hd
    · rw [if_pos (by simpa using ht)] at hkept
      exact (recompute_keepsTime u _ clock t).congr hkept

/-! ### A reset -/

/-- The condition that a missing type gets. -/
def added (t : String) (status : ConditionStatus) (now : Timestamp) : Condition :=
  { type := t, status, lastTransitionTime := some now }

theorem weighs_iff_others : Weighs m.happy m.dependents m.conditions c ↔
    c ∈ m.others ∧ c.severity = .error ∧ Bears m.happy m.dependents c.type := by
  unfold Weighs others
  rw [List.mem_filter, and_assoc]
  refine and_congr_right fun _ => ⟨fun h => ⟨bne_iff_ne.mpr h.2.1, h⟩, fun h => h.2⟩

/-- Adding a missing condition changes what the happy one follows by just that condition. -/
theorem weighs_add (hnone : m.condition? t = none) (ht : t ≠ m.happy) (status : ConditionStatus) (clock : Clock) :
    let m' := (m.set { type := t, status } clock).1
    Weighs m'.happy m'.dependents m'.conditions d ↔
      Weighs m.happy m.dependents m.conditions d ∨
        d = added t status clock.next ∧ Bears m.happy m.dependents t := by
  intro m'
  obtain ⟨hhappy, hdeps⟩ : SameTypes m m' := sameTypes_set _ m clock
  have hothers : m'.others = m.others ++ [added t status clock.next] := by
    have hconditions : (m.store { type := t, status } clock.next).2.conditions =
        m.conditions ++ [added t status clock.next] := store_conditions_of_none hnone
    show (m.set _ clock).1.others = _
    rw [others_set, others, hconditions, List.filter_append]
    exact congrArg (m.others ++ ·) (List.filter_cons_of_pos (bne_iff_ne.mpr ht))
  rw [weighs_iff_others, weighs_iff_others, hothers, hhappy, hdeps, List.mem_append, List.mem_singleton, or_and_right]
  refine or_congr Iff.rfl (and_congr_right ?_)
  rintro rfl
  exact and_iff_right rfl

/-- A happy condition in line stays as it is while conditions are added that are no worse. -/
theorem InLine.set_missing (h : m.InLine) (hc : m.condition? m.happy = some c) (hnone : m.condition? t = none)
    (ht : t ≠ m.happy) (hstatus : status = .true ∨ status = .unknown ∧ c.status ≠ .true) (clock : Clock) :
    ∃ d, (m.set { type := t, status } clock).1.condition? m.happy = some d ∧ d.status = c.status ∧
      d.lastTransitionTime = c.lastTransitionTime := by
  obtain ⟨hhappy, -⟩ := sameTypes_set { type := t, status } m clock
  obtain ⟨d, hd, hfollows'⟩ := h.set (c := { type := t, status }) ht clock
  obtain ⟨top, htop, hfollows⟩ := h
  cases hc.symm.trans htop
  have hd : (m.set { type := t, status } clock).1.condition? m.happy = some d := hhappy ▸ hd
  have hsame : d.status = c.status := by
    refine hfollows.status_eq hfollows' ?_ ?_
    · simp only [weighs_add hnone ht, or_and_right, exists_or]
      refine or_iff_left ?_
      rintro ⟨_, ⟨rfl, -⟩, hfalse⟩
      rcases hstatus with rfl | ⟨rfl, -⟩ <;> cases hfalse
    · simp only [weighs_add hnone ht, or_and_right, exists_or]
      refine or_iff_left_of_imp ?_
      rintro ⟨_, ⟨rfl, -⟩, hne⟩
      rcases hstatus with rfl | ⟨rfl, hpending⟩
      · exact absurd rfl hne
      · by_contra hnone
        refine hpending (hfollows.content fun e he => ?_)
        exact Decidable.byContradiction fun hs => hnone ⟨e, he, hs⟩
  exact ⟨d, hd, hsame, set_keepsTime (fun _ => ht) clock c d hc hd hsame⟩

theorem InLine.addMissing_happy (h : m.InLine) (hc : m.condition? m.happy = some c) (hts : m.happy ∉ ts)
    (hstatus : status = .true ∨ status = .unknown ∧ c.status ≠ .true) (clock : Clock) :
    ∃ d, (m.addMissing status ts clock).1.condition? m.happy = some d ∧ d.status = c.status ∧
      d.lastTransitionTime = c.lastTransitionTime := by
  induction ts generalizing m c clock with
  | nil => exact ⟨c, hc, rfl, rfl⟩
  | cons t ts ih =>
    have hrest : m.happy ∉ ts := fun hmem => hts (List.mem_cons_of_mem t hmem)
    rw [addMissing_cons]
    split
    · exact ih h hc hrest hstatus clock
    · rename_i hmissing
      have ht : t ≠ m.happy := fun heq => hts (heq ▸ List.mem_cons_self)
      obtain ⟨hhappy, -⟩ := sameTypes_set { type := t, status } m clock
      obtain ⟨d, hd, hsame, htime⟩ := h.set_missing hc (by simpa using hmissing) ht hstatus clock
      obtain ⟨e, he, hsame', htime'⟩ := ih (c := d) (h.set ht clock) (hhappy.symm ▸ hd) (hhappy.symm ▸ hrest)
        (hstatus.imp id (And.imp id (hsame ▸ ·))) _
      exact ⟨e, hhappy ▸ he, hsame'.trans hsame, htime'.trans htime⟩

/-- The first missing dependent puts the happy condition in line, and the next ones are no worse. -/
theorem addMissing_happy_keepsTime (hts : ∀ t ∈ ts, t ∈ m.dependents) (hstatus : status = .true ∨ status = .unknown)
    (clock : Clock) : KeepsTime m.happy m (m.addMissing status ts clock).1 := by
  induction ts generalizing clock with
  | nil => exact .of_eq rfl
  | cons t ts ih =>
    have hrest : ∀ u ∈ ts, u ∈ m.dependents := fun u hu => hts u (List.mem_cons_of_mem _ hu)
    rw [addMissing_cons]
    split
    · exact ih hrest clock
    · rename_i hmissing
      have hdep : t ∈ m.dependents := hts t List.mem_cons_self
      have ht : t ≠ m.happy := fun heq => m.happy_not_mem (heq ▸ hdep)
      have hnone : m.condition? t = none := by simpa using hmissing
      obtain ⟨hhappy, -⟩ := sameTypes_set { type := t, status } m clock
      have hline : (m.set { type := t, status } clock).1.InLine := by
        refine (set_inLine (by exact ht) clock).resolve_left fun hkept => ?_
        obtain ⟨d, hd, -⟩ := set_condition? (c := { type := t, status }) (by exact ht) clock
        cases hnone.symm.trans (hkept ▸ hd)
      have hmirrors := hline
      obtain ⟨top, htop, hfollows⟩ := hmirrors
      have hadded : status = .true ∨ status = .unknown ∧ top.status ≠ .true := by
        refine hstatus.imp id fun hunknown => ⟨hunknown, hfollows.ne_true ⟨added t status clock.next, ?_, ?_⟩⟩
        · exact (weighs_add hnone ht status clock).mpr (.inr ⟨rfl, ht, .inl hdep⟩)
        · simp [added, hunknown]
      have hthere : (m.set { type := t, status } clock).1.happy ∉ ts :=
        fun hmem => m.happy_not_mem (hrest _ (hhappy ▸ hmem))
      obtain ⟨d, hd, hsame, htime⟩ := hline.addMissing_happy htop hthere hadded _
      rw [hhappy] at htop hd
      intro c e hc he hstatus
      cases hd.symm.trans he
      exact htime.trans (set_keepsTime (fun _ => ht) clock c top hc htop (hsame.symm.trans hstatus))

theorem addMissing_condition? (ht : t ≠ m.happy) (hc : m.condition? t = some c) (status : ConditionStatus)
    (ts : List String) (clock : Clock) : (m.addMissing status ts clock).1.condition? t = some c := by
  induction ts generalizing m clock with
  | nil => exact hc
  | cons u ts ih =>
    rw [addMissing_cons]
    split
    · exact ih ht hc clock
    · rename_i hmissing
      obtain ⟨hhappy, -⟩ := sameTypes_set { type := u, status } m clock
      have hne : t ≠ u := by
        rintro rfl
        exact hmissing (Option.isSome_iff_exists.mpr ⟨c, hc⟩)
      exact ih (hhappy ▸ ht) ((set_condition?_of_ne (by exact hne) ht clock).trans hc) _

theorem complete_keepsTime (m : Manager) (clock : Clock) (t : String) : KeepsTime t m (m.complete clock).1 := by
  intro c d hc hd
  unfold complete at hd
  by_cases ht : t = m.happy
  · subst ht
    have htop : m.top? = some c := hc
    rw [htop] at hd
    refine addMissing_happy_keepsTime (fun _ h => h) ?_ clock c d hc hd
    split
    · exact .inl rfl
    · exact .inr rfl
  · refine (KeepsTime.of_eq (hc ▸ ?_)) c d hc hd
    cases m.top? with
    | some top => exact addMissing_condition? ht hc _ _ clock
    | none =>
      obtain ⟨hhappy, -⟩ := sameTypes_set { type := m.happy, status := .unknown } m clock
      exact addMissing_condition? (fun heq => ht (heq.trans hhappy))
        ((set_condition?_of_ne (by exact ht) ht clock).trans hc) _ _ _

theorem reset_keepsTime (m : Manager) (clock : Clock) (t : String) : KeepsTime t m (m.reset clock).1 := by
  intro c d hc hd
  obtain ⟨hhappy, hdeps⟩ := sameTypes_reset m clock
  have hkept : t = m.happy ∨ t ∈ m.dependents := hhappy ▸ hdeps ▸ reset_trim m clock t (mem_types_iff.mpr ⟨d, hd⟩)
  have htrimmed : m.trimmed.condition? t = m.condition? t :=
    (trimmed_condition? m t).trans (if_pos (by simpa using hkept))
  exact (complete_keepsTime m.trimmed clock t).congr htrimmed c d hc hd

/-! ### Any operation -/

/-- The operation takes the happy condition `c` away or gives it another status, before the dependents have their
    say. -/
def Operation.Unsettles (op : Operation) (happy : String) (c : Condition) : Prop :=
  c.type = happy ∧ (op = .clear happy ∨ ∃ status, op.asks? = some (happy, status) ∧ status ≠ c.status)

theorem type_of_condition? (h : m.condition? t = some c) : c.type = t := by simpa using List.find?_some h

theorem run_keepsTime (op : Operation) (hc : m.condition? t = some c) (hsettled : ¬op.Unsettles m.happy c)
    (clock : Clock) : KeepsTime t m (op.run m clock).1 := by
  have htype := type_of_condition? hc
  obtain ⟨new, hasks, hrun, -⟩ | ⟨u, rfl⟩ | ⟨u, rfl⟩ | rfl | rfl := op.run_cases
  · rw [hrun]
    by_cases hhappy : t = m.happy ∧ new.type = m.happy
    · obtain ⟨rfl, hnew⟩ := hhappy
      have hstatus : new.status = c.status := by
        by_contra hne
        exact hsettled ⟨htype, .inr ⟨new.status, hnew ▸ hasks, hne⟩⟩
      exact hnew ▸ set_happy_keepsTime (hnew.symm ▸ hc) hstatus clock
    · exact set_keepsTime (fun ht hnew => hhappy ⟨ht, hnew⟩) clock
  · refine clear_keepsTime (fun heq hhappy => hsettled ⟨htype.trans hhappy, .inl ?_⟩) clock
    rw [← heq, hhappy]
  · exact recompute_keepsTime u m clock t
  · exact .of_eq (sort_condition? m t)
  · exact reset_keepsTime m clock t

/-- What a set stores after its own condition. -/
theorem setWithin_of_entailed (hchanged : (m.store c clock.next).1 = true)
    (htop : (m.store c clock.next).2.entailed? c.type = some top) :
    setWithin 2 top (m.store c clock.next).2 clock.tick = some (m.set c clock) := by
  obtain ⟨clock', hrest⟩ := setWithin_entailed htop clock.tick 0
  have hset : setWithin 3 c m clock = setWithin 2 top (m.store c clock.next).2 clock.tick := by
    rw [setWithin]
    simp only [hchanged, htop, ↓reduceIte]
  rw [set, hset, hrest]
  rfl

theorem clear_happy_reads (hc : m.condition? m.happy = some c)
    (hd : (m.clear m.happy clock).1.condition? m.happy = some d) :
    ∃ time, d.lastTransitionTime = some time ∧ clock.Reads (m.clear m.happy clock).2 time := by
  have hcleared : (m.conditions.filter (·.type != m.happy)).length ≠ m.conditions.length := by
    intro hlength
    have hother := List.length_filter_eq_length_iff.mp hlength c (List.mem_of_find?_eq_some hc)
    exact bne_iff_ne.mp hother (type_of_condition? hc)
  unfold clear at *
  rw [if_neg hcleared] at *
  have htraces : Traces (fun _ _ => False) { m with conditions := m.conditions.filter (·.type != m.happy) } clock _ :=
    recompute_traces m.happy _ clock
  rcases htraces.traced m.happy d hd with ⟨e, he, -⟩ | ⟨time, htime, hread⟩
  · rw [condition?, filter_condition? (· != m.happy), if_neg (by simp)] at he
    cases he
  · exact ⟨time, htime, hread.resolve_left id⟩

theorem set_happy_reads (hc : m.condition? c.type = some d) (hne : c.status ≠ d.status) {e : Condition}
    (he : (m.set c clock).1.condition? c.type = some e) (hstatus : e.status = d.status) :
    ∃ time, e.lastTransitionTime = some time ∧ clock.Reads (m.set c clock).2 time := by
  have hstored : (m.store c clock.next).2.condition? c.type = some (d.update c clock.next).2 :=
    store_condition?_of_some hc
  have hchanged : (m.store c clock.next).1 = true := by
    by_contra hkept
    rw [store_snd_of_fst (by simpa using hkept)] at hstored
    exact hne (congrArg Condition.status (Option.some.inj (hc.symm.trans hstored))).symm
  cases htop : (m.store c clock.next).2.entailed? c.type with
  | none =>
    have hlast : (m.set c clock).1 = (m.store c clock.next).2 := by
      rw [set_fst, if_pos hchanged, aligned, htop]
    cases (hlast ▸ hstored).symm.trans he
    exact absurd hstatus hne
  | some top =>
    have htraces : Traces (fun _ _ => False) (m.store c clock.next).2 clock.tick (m.set c clock) :=
      setWithin_traces (entailed?_untimed htop) (setWithin_of_entailed hchanged htop)
    rcases htraces.traced c.type e he with ⟨e', he', hsame, -⟩ | ⟨time, htime, hread⟩
    · cases hstored.symm.trans he'
      exact absurd (hsame.symm.trans hstatus) hne
    · exact ⟨time, htime, (hread.resolve_left id).mono (Nat.le_succ _) (Nat.le_refl _)⟩

theorem run_reads {op : Operation} (hc : m.condition? t = some c) (h : op.Unsettles m.happy c)
    (hd : (op.run m clock).1.condition? t = some d) (hstatus : d.status = c.status) :
    ∃ time, d.lastTransitionTime = some time ∧ clock.Reads (op.run m clock).2 time := by
  obtain ⟨htype, rfl | ⟨status, hasks, hne⟩⟩ := h
  · obtain rfl := (type_of_condition? hc).symm.trans htype
    exact clear_happy_reads hc hd
  · obtain rfl := (type_of_condition? hc).symm.trans htype
    obtain ⟨new, hnew, hrun, -⟩ | ⟨u, rfl⟩ | ⟨u, rfl⟩ | rfl | rfl := op.run_cases
    · obtain ⟨hhappy, rfl⟩ := Prod.mk.inj (Option.some.inj (hasks.symm.trans hnew))
      rw [hrun] at hd ⊢
      rw [hhappy] at hc hd
      exact set_happy_reads hc hne hd hstatus
    all_goals cases hasks

/-- Over any operation the transition time of a condition that is there before and after moves with its status, to a
    time that was supplied with it or read meanwhile. The exception is a happy condition that the operation sets to
    another status or clears: if it ends up with the status that it had, its time is still one read meanwhile. -/
theorem transition_with_status (m : Manager) (op : Operation) (clock : Clock) (t : String) (c d : Condition)
    (hc : m.condition? t = some c) (hd : (op.run m clock).1.condition? t = some d) :
    (d.status = c.status → ¬op.Unsettles m.happy c → d.lastTransitionTime = c.lastTransitionTime) ∧
    (d.status = c.status → op.Unsettles m.happy c →
      ∃ time, d.lastTransitionTime = some time ∧ clock.Reads (op.run m clock).2 time) ∧
    (d.status ≠ c.status →
      ∃ time, d.lastTransitionTime = some time ∧ (op.Supplies t time ∨ clock.Reads (op.run m clock).2 time)) := by
  refine ⟨fun hsame hsettled => ?_, fun hsame hunsettled => run_reads hc hunsettled hd hsame, fun hmoved => ?_⟩
  · exact run_keepsTime op hc hsettled clock c d hc hd hsame
  · rcases (run_traces op m clock).traced t d hd with ⟨c', hc', hsame, -⟩ | hnew
    · cases hc.symm.trans hc'
      exact absurd hsame hmoved
    · exact hnew

namespace Sample

def failed (t : String) (second : Int) : Condition :=
  { type := t, status := .false, lastTransitionTime := some ⟨second, 0⟩ }

/-- The happy condition is False, and so is the dependent. -/
def unready : Manager where
  happy := "Ready"
  dependents := ["Backend"]
  conditions := [failed "Ready" 10, failed "Backend" 20]
  happy_not_mem := by decide

def recover : Operation := .mark "Backend" .true { reason := some "Restarted" }

def recovered : Condition where
  type := "Backend"
  status := .true
  reason := some "Restarted"
  lastTransitionTime := some (Clock.mk 0).next

end Sample

open Sample in
theorem transition_with_status_sample :
    unready.condition? "Backend" = some (failed "Backend" 20) ∧
      (recover.run unready ⟨0⟩).1.condition? "Backend" = some recovered ∧
      ∃ time, recovered.lastTransitionTime = some time ∧
        (recover.Supplies "Backend" time ∨ Clock.Reads ⟨0⟩ (recover.run unready ⟨0⟩).2 time) := by
  have hc : unready.condition? "Backend" = some (failed "Backend" 20) := by decide
  have hd : (recover.run unready ⟨0⟩).1.condition? "Backend" = some recovered := by decide +kernel
  exact ⟨hc, hd, (transition_with_status unready recover ⟨0⟩ "Backend" _ _ hc hd).2.2 (by decide)⟩

open Sample in
/-- Marked True against a False dependent, the happy condition is False as before, but as of now. -/
theorem marked_happy_renewed :
    (unready.conditions.map (·.type)).Nodup ∧ ∃ c d, unready.condition? "Ready" = some c ∧
      ((Operation.mark "Ready" .true {}).run unready ⟨0⟩).1.condition? "Ready" = some d ∧ d.status = c.status ∧
        d.lastTransitionTime ≠ c.lastTransitionTime := by
  refine ⟨by decide, failed "Ready" 10, { failed "Ready" 10 with lastTransitionTime := some (Clock.mk 1).next }, ?_⟩
  decide +kernel

end Manager
end PlatformOperator
