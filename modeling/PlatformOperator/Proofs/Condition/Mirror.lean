import PlatformOperator.Proofs.Condition.Operation

/-! The happy condition mirrors its dependents: from the first change of another condition on, and as long
    as nobody writes the happy condition itself, every operation leaves it as the dependents entail. -/

namespace PlatformOperator

/-! ### What the happy condition has to say -/

/-- What the happy condition `top` says of the conditions `W`: True if they all are, and otherwise the worst
    status of them, with the reason and message of a latest one of that status. -/
structure Follows (W : Condition → Prop) (top : Condition) : Prop where
  content : (∀ c, W c → c.status = .true) → top.status = .true
  failed : (∃ c, W c ∧ c.status = .false) → top.status = .false
  pending : (∃ c, W c ∧ c.status ≠ .true) → (∀ c, W c → c.status ≠ .false) → top.status = .unknown
  explained : (∃ c, W c ∧ c.status ≠ .true) → ∃ c, W c ∧ c.status = top.status ∧ top.reason = c.reason ∧
    top.message = c.message ∧ ∀ d, W d → d.status = top.status → d.NoLater c

/-- Whether conditions of type `t` bear on the happy one: those of the declared dependents, or of all types
    where none is declared. The happy type is no dependent of its own. -/
def Bears (happy : String) (declared : List String) (t : String) : Prop :=
  t ≠ happy ∧ (t ∈ declared ∨ ∀ d ∈ declared, d = happy)

/-- Declaring the happy type makes no difference. -/
theorem bears_congr {happy t : String} {declared declared' : List String}
    (h : ∀ d, d ∈ declared' ↔ d ∈ declared ∧ d ≠ happy) : Bears happy declared t ↔ Bears happy declared' t := by
  refine and_congr_right fun hne => or_congr ?_ ?_
  · rw [h, and_iff_left hne]
  · constructor
    · intro hall d hd
      exact hall d ((h d).mp hd).1
    · intro hall d hd
      exact Decidable.byContradiction fun hdne => hdne (hall d ((h d).mpr ⟨hd, hdne⟩))

/-- The stored conditions that the happy one follows. -/
def Weighs (happy : String) (declared : List String) (cs : List Condition) (c : Condition) : Prop :=
  c ∈ cs ∧ c.severity = .error ∧ Bears happy declared c.type

def Mirrors (happy : String) (declared : List String) (cs : List Condition) : Prop :=
  ∃ top, cs.find? (·.type == happy) = some top ∧ Follows (Weighs happy declared cs) top

section
variable {W W' : Condition → Prop} {c top top' : Condition}

theorem Follows.of_true (hall : ∀ c, W c → c.status = .true) (htop : top.status = .true) : Follows W top := by
  refine ⟨fun _ => htop, ?_, ?_, ?_⟩
  · rintro ⟨c, hc, hs⟩
    rw [hall c hc] at hs
    cases hs
  · rintro ⟨c, hc, hs⟩
    exact absurd (hall c hc) hs
  · rintro ⟨c, hc, hs⟩
    exact absurd (hall c hc) hs

theorem Follows.of_latest (hc : W c)
    (hworst : c.status = .false ∨ c.status = .unknown ∧ ∀ d, W d → d.status ≠ .false)
    (hlatest : ∀ d, W d → d.status = c.status → d.NoLater c) (hstatus : top.status = c.status)
    (hreason : top.reason = c.reason) (hmessage : top.message = c.message) : Follows W top := by
  have hne : c.status ≠ .true := by
    rcases hworst with hs | ⟨hs, -⟩ <;> simp [hs]
  refine ⟨fun hall => absurd (hall c hc) hne, ?_, ?_, fun _ => ⟨c, hc, hstatus.symm, hreason, hmessage, ?_⟩⟩
  · rintro ⟨d, hd, hds⟩
    rcases hworst with hs | ⟨-, hnone⟩
    · exact hstatus.trans hs
    · exact absurd hds (hnone d hd)
  · intro _ hnone
    rcases hworst with hs | ⟨hs, -⟩
    · exact absurd hs (hnone c hc)
    · exact hstatus.trans hs
  · rw [hstatus]
    exact hlatest

theorem Follows.congr (h : Follows W top)
    (hW : ∀ c, W' c ↔ W c) (htop : top'.timeless = top.timeless) : Follows W' top' := by
  obtain rfl : W' = W := funext fun c => propext (hW c)
  obtain ⟨hstatus, hreason, hmessage⟩ := Condition.said_of_timeless htop
  refine ⟨?_, ?_, ?_, ?_⟩
  · rw [hstatus]
    exact h.content
  · rw [hstatus]
    exact h.failed
  · rw [hstatus]
    exact h.pending
  · rw [hstatus, hreason, hmessage]
    exact h.explained

end

theorem Mirrors.congr {happy : String} {declared declared' : List String} {cs cs' : List Condition}
    (h : Mirrors happy declared cs)
    (htop : cs'.find? (·.type == happy) = cs.find? (·.type == happy))
    (hW : ∀ c, Weighs happy declared' cs' c ↔ Weighs happy declared cs c) : Mirrors happy declared' cs' := by
  obtain ⟨top, hfound, hfollows⟩ := h
  exact ⟨top, htop.trans hfound, hfollows.congr hW rfl⟩

namespace Manager
variable {m : Manager} {c top : Condition} {now : Timestamp} {clock : Clock} {t : String}

theorem isDependent_iff : m.isDependent t = true ↔ Bears m.happy m.dependents t := by
  unfold isDependent Bears
  by_cases hdeps : m.dependents = []
  · simp [hdeps]
  · rw [if_neg hdeps, List.contains_iff_mem]
    constructor
    · intro hmem
      exact ⟨fun heq => m.happy_not_mem (heq ▸ hmem), Or.inl hmem⟩
    · rintro ⟨-, hmem | hall⟩
      · exact hmem
      · obtain ⟨d, hd⟩ := List.exists_mem_of_ne_nil _ hdeps
        exact absurd (hall d hd ▸ hd) m.happy_not_mem

theorem weighs_iff : Weighs m.happy m.dependents m.conditions c ↔ c ∈ m.candidates := by
  rw [mem_candidates, isDependent_iff, Weighs]
  exact and_congr_right fun _ => and_comm

/-- The happy condition is in line with the other ones. -/
def InLine (m : Manager) : Prop := Mirrors m.happy m.dependents m.conditions

/-! ### Putting the happy condition in line -/

theorem entailed?_follows (h : m.entailed? t = some top) : Follows (· ∈ m.candidates) top := by
  unfold entailed? at h
  cases hunhappy : m.unhappy? with
  | none =>
    rw [hunhappy] at h
    have htop : top.status = .true := by
      simp only at h
      split at h
      · cases h
      · cases h
        rfl
    exact Follows.of_true (fun c hc => unhappy?_eq_none hunhappy hc) htop
  | some c =>
    rw [hunhappy] at h
    cases h
    obtain ⟨hc, hworst, hlatest⟩ := unhappy?_eq_some hunhappy
    exact Follows.of_latest hc hworst hlatest rfl rfl rfl

theorem entailed?_of_ne (h : t ≠ m.happy) : ∃ top, m.entailed? t = some top := by
  unfold entailed?
  cases m.unhappy? with
  | none => exact ⟨_, if_neg h⟩
  | some c => exact ⟨_, rfl⟩

theorem aligned_inLine (h : m.entailed? t = some top) : (m.aligned t now).InLine := by
  have haligned : m.aligned t now = (m.store top now).2 := by
    unfold aligned
    rw [h]
  obtain ⟨d, hd, hsame⟩ := store_condition? top now m
  rw [entailed?_type h] at hd
  have hfollows := (entailed?_follows h).congr (fun c => Iff.rfl) hsame
  rw [haligned]
  refine ⟨d, hd, hfollows.congr (fun c => ?_) rfl⟩
  rw [weighs_iff, candidates_congr store_happy store_dependents (store_others (entailed?_type h))]

theorem aligned_inLine_of_ne (h : t ≠ m.happy) : (m.aligned t now).InLine := by
  obtain ⟨top, htop⟩ := entailed?_of_ne h
  exact aligned_inLine htop

/-- Setting another condition changes nothing, or puts the happy condition in line. -/
theorem set_inLine (h : c.type ≠ m.happy) (clock : Clock) : (m.set c clock).1 = m ∨ (m.set c clock).1.InLine := by
  rw [set_fst]
  split
  · exact Or.inr (aligned_inLine_of_ne h)
  · exact Or.inl rfl

theorem clear_inLine (h : t ≠ m.happy) (clock : Clock) : (m.clear t clock).1 = m ∨ (m.clear t clock).1.InLine := by
  unfold clear
  split
  · exact Or.inl rfl
  · rw [recompute_fst]
    exact Or.inr (aligned_inLine_of_ne h)

theorem recompute_inLine (h : t ≠ m.happy) (clock : Clock) : (m.recompute t clock).1.InLine := by
  rw [recompute_fst]
  exact aligned_inLine_of_ne h

/-! ### Keeping it in line -/

theorem InLine.sort (h : m.InLine) : m.sort.InLine := by
  refine Mirrors.congr h (m.sort_condition? m.happy) fun c => ?_
  exact and_congr_left fun _ => m.sort_perm.mem_iff

theorem InLine.set (h : m.InLine) (hc : c.type ≠ m.happy) (clock : Clock) : (m.set c clock).1.InLine := by
  rcases set_inLine hc clock with hkept | hline
  · rw [hkept]
    exact h
  · exact hline

theorem InLine.clear (h : m.InLine) (ht : t ≠ m.happy) (clock : Clock) : (m.clear t clock).1.InLine := by
  rcases clear_inLine ht clock with hkept | hline
  · rw [hkept]
    exact h
  · exact hline

/-- A look without a change finds the happy condition in line, whatever it is told that changed. -/
theorem InLine.recompute (h : m.InLine) (t : String) (clock : Clock) : (m.recompute t clock).1.InLine := by
  rw [recompute_fst]
  cases hentailed : m.entailed? t with
  | none =>
    unfold aligned
    rw [hentailed]
    exact h
  | some top => exact aligned_inLine hentailed

theorem InLine.addMissing {ts : List String} (h : m.InLine) (hts : m.happy ∉ ts) (status : ConditionStatus)
    (clock : Clock) : (m.addMissing status ts clock).1.InLine := by
  induction ts generalizing m clock with
  | nil => exact h
  | cons t ts ih =>
    have hrest : m.happy ∉ ts := fun hmem => hts (List.mem_cons_of_mem t hmem)
    rw [addMissing_cons]
    split
    · exact ih h hrest clock
    · have hne : t ≠ m.happy := fun heq => hts (heq ▸ List.mem_cons_self)
      obtain ⟨hhappy, -⟩ := sameTypes_set { type := t, status } m clock
      exact ih (h.set hne clock) (hhappy ▸ hrest) _

/-- With the happy condition in place, only dependents are missing. -/
theorem InLine.complete (h : m.InLine) (clock : Clock) : (m.complete clock).1.InLine := by
  have hadded := h.addMissing m.happy_not_mem
  obtain ⟨top, hfound, -⟩ := h
  have htop : m.top? = some top := hfound
  unfold Manager.complete
  rw [htop]
  exact hadded _ clock

theorem trimmed_top? (m : Manager) : m.trimmed.top? = m.top? := by
  show (List.filter _ _).find? (·.type == m.happy) = m.conditions.find? _
  rw [List.find?_filter]
  congr 1
  funext c
  cases c.type == m.happy <;> simp

/-- What a reset drops is of no dependent. Without declared dependents it is all that the happy condition
    follows. -/
theorem InLine.trimmed (h : m.InLine) (hdeps : m.dependents ≠ []) : m.trimmed.InLine := by
  refine Mirrors.congr h m.trimmed_top? fun c => ?_
  constructor
  · rintro ⟨hc, hrest⟩
    exact ⟨(List.mem_filter.mp hc).1, hrest⟩
  · rintro ⟨hc, hsev, hbears⟩
    have hdep : c.type ∈ m.dependents := by
      have hdependent : m.isDependent c.type = true := isDependent_iff.mpr hbears
      rw [isDependent, if_neg hdeps] at hdependent
      exact List.contains_iff_mem.mp hdependent
    exact ⟨List.mem_filter.mpr ⟨hc, by simp [hdep]⟩, hsev, hbears⟩

theorem InLine.reset (h : m.InLine) (hdeps : m.dependents ≠ []) (clock : Clock) : (m.reset clock).1.InLine := by
  rw [reset_eq]
  exact (h.trimmed hdeps).complete clock

/-! ### Whole runs -/

variable {op : Operation}

/-- `op` makes the happy condition follow the other ones: it sets, marks or clears one of them to some
    effect, or it recomputes the happy condition after a change of one of them. -/
def Operation.Triggers (op : Operation) (m : Manager) (clock : Clock) : Prop :=
  op.target?.isSome = true ∧ (op.run m clock).1.others ≠ m.others ∨ ∃ t, op = recompute t ∧ t ≠ m.happy

theorem Operation.Triggers.inLine (h : op.Triggers m clock) : (op.run m clock).1.InLine := by
  rcases h with ⟨htarget, hothers⟩ | ⟨t, rfl, ht⟩
  · obtain ⟨t, ht⟩ := Option.isSome_iff_exists.mp htarget
    -- The other conditions changed, so the operation was not one on the happy type.
    have hne : t ≠ m.happy := fun heq => hothers (others_run (heq ▸ ht) clock)
    have hchanged : (op.run m clock).1 ≠ m := fun heq => hothers (congrArg others heq)
    rcases run_of_target ht with ⟨c, rfl, hrun⟩ | hrun
    · rw [hrun] at hchanged ⊢
      exact (set_inLine hne clock).resolve_left hchanged
    · rw [hrun] at hchanged ⊢
      exact (clear_inLine hne clock).resolve_left hchanged
  · exact recompute_inLine ht clock

theorem InLine.run (h : m.InLine) (htarget : op.target? ≠ some m.happy) (hreset : op = .reset → m.dependents ≠ [])
    (clock : Clock) : (op.run m clock).1.InLine := by
  have hne {t : String} (ht : op.target? = some t) : t ≠ m.happy := fun heq => htarget (heq ▸ ht)
  cases op with
  | set c => exact h.set (hne rfl) clock
  | clear t => exact h.clear (hne rfl) clock
  | mark t status d => exact h.set (hne rfl) clock
  | markFrom t source => exact h.set (hne rfl) clock
  | recompute changed => exact h.recompute changed clock
  | sort => exact h.sort
  | reset => exact h.reset (hreset rfl) clock

theorem InLine.after (h : m.InLine) {ops : List (Clock × Operation)}
    (hops : ∀ op ∈ ops, op.2.target? ≠ some m.happy ∧ (op.2 = .reset → m.dependents ≠ [])) :
    (m.after ops).InLine := by
  induction ops generalizing m with
  | nil => exact h
  | cons op ops ih =>
    obtain ⟨htarget, hreset⟩ := hops op List.mem_cons_self
    obtain ⟨hhappy, hdeps⟩ := sameTypes_run op.2 m op.1
    refine ih (h.run htarget hreset op.1) fun op' hop' => ?_
    rw [hhappy, hdeps]
    exact hops op' (List.mem_cons_of_mem op hop')

theorem after_append (m : Manager) (ops ops' : List (Clock × Operation)) :
    m.after (ops ++ ops') = (m.after ops).after ops' :=
  List.foldl_append

theorem InLine.mirrors {happy : String} {declared : List String} (h : m.InLine) (hhappy : m.happy = happy)
    (hdeps : ∀ t, t ∈ m.dependents ↔ t ∈ declared ∧ t ≠ happy) : Mirrors happy declared m.conditions := by
  subst hhappy
  exact Mirrors.congr h rfl fun c => and_congr_right fun _ => and_congr_right fun _ => bears_congr hdeps

/-- From the first operation that makes it follow them on, the happy condition mirrors its dependents for as
    long as it is not set, marked or cleared itself. -/
theorem happy_mirrors_dependents (cs : List Condition) (happy : String) (declared : List String) (clock : Clock)
    (before : List (Clock × Operation)) (trigger : Clock × Operation) (later : List (Clock × Operation))
    (htrigger : trigger.2.Triggers ((start cs happy declared clock).1.after before) trigger.1)
    (hlater : ∀ op ∈ later, op.2.target? ≠ some happy ∧ (op.2 = .reset → ∃ d ∈ declared, d ≠ happy)) :
    Mirrors happy declared ((start cs happy declared clock).1.after (before ++ trigger :: later)).conditions := by
  let m := (start cs happy declared clock).1.after (before ++ [trigger])
  have hm : m = (trigger.2.run ((start cs happy declared clock).1.after before) trigger.1).1 :=
    after_append _ before [trigger]
  -- Whatever happened before the trigger, it puts the happy condition in line.
  have hline : m.InLine := hm ▸ htrigger.inLine
  obtain ⟨hhappy, hdeps⟩ := types_after_start cs happy declared clock (before ++ [trigger])
  have hend : (m.after later).InLine := by
    refine hline.after fun op hop => ?_
    obtain ⟨htarget, hreset⟩ := hlater op hop
    rw [hhappy]
    refine ⟨htarget, fun hop => ?_⟩
    obtain ⟨d, hd, hne⟩ := hreset hop
    exact List.ne_nil_of_mem ((hdeps d).mpr ⟨hd, hne⟩)
  have hrun : m.after later = (start cs happy declared clock).1.after (before ++ trigger :: later) := by
    rw [← after_append, List.append_assoc, List.singleton_append]
  obtain ⟨hhappy, hdeps⟩ := types_after_start cs happy declared clock (before ++ trigger :: later)
  exact (hrun ▸ hend).mirrors hhappy hdeps

namespace Sample

def declared : List String := ["Ready", "Backend", "Frontend"]

/-- The happy condition is not in line with the stored ones, which repeat a type. -/
def stored : List Condition :=
  [{ type := "Backend", status := .true }, { type := "Backend", status := .false },
    { type := "Frontend", status := .unknown, severity := .info }, { type := "Ready", status := .true }]

def started : Manager := (start stored "Ready" declared ⟨0⟩).1

def restart : Clock × Operation := (⟨10⟩, .mark "Backend" .unknown { reason := some "Restarting" })

def later : List (Clock × Operation) :=
  [(⟨20⟩, .sort), (⟨30⟩, .markFrom "Frontend" { type := "", status := .false, severity := .error }),
    (⟨40⟩, .clear "Frontend"), (⟨50⟩, .reset), (⟨60⟩, .recompute "Ready")]

end Sample

theorem happy_mirrors_dependents_sample :
    Sample.restart.2.Triggers (Sample.started.after []) Sample.restart.1 ∧
      Mirrors "Ready" Sample.declared (Sample.started.after ([] ++ Sample.restart :: Sample.later)).conditions := by
  have htrigger : Sample.restart.2.Triggers (Sample.started.after []) Sample.restart.1 := by
    refine Or.inl ⟨rfl, ?_⟩
    show (Sample.started.set _ _).1.others ≠ _
    rw [others_set]
    decide +kernel
  refine ⟨htrigger, ?_⟩
  refine happy_mirrors_dependents Sample.stored "Ready" Sample.declared ⟨0⟩ [] Sample.restart Sample.later htrigger ?_
  decide

/-- A reset without dependents leaves nothing to follow, yet it keeps the happy condition. -/
example :
    ((start [{ type := "Ready", status := .false }, { type := "Backend", status := .false }] "Ready" [] ⟨0⟩).1.after
      [(⟨10⟩, .reset)]).conditions = [{ type := "Ready", status := .false }] := by
  decide +kernel

end Manager

end PlatformOperator
