import GuardedRules.Pattern.Extractors
import GuardedRules.Proofs.MergeResults
import GuardedRules.Proofs.PatternRuns
import GuardedRules.Value.Pattern

/-!
# Why a match declines

A match declines at one node of its pattern. An extractor or an equality test turns its subject
down there, or two environments that a constructor or an alias has to merge contradict each
other. The nodes around it pass the decline on and add nothing. So a decline leaves one event,
which names the node, and everything else leaves none, if extractors put nothing on record.
-/

namespace GuardedRules

variable {ε σ V α β : Type}

def Event.isDecline : Event → Bool
  | extractorDeclined _ => true
  | unequalBindings _ _ => true
  | aliasConflict _ _ => true
  | guardSatisfied _ => false
  | guardDeclined _ => false
  | noGuardSatisfied _ => false
  | exhausted _ => false

theorem Event.level_of_isDecline {event : Event} (h : event.isDecline = true) :
    event.level = .trace := by
  cases event with
  | exhausted => cases h
  | _ => rfl

/-- Both environments bind the variable, and to unequal values. -/
def Bindings.Clash [BEq V] (l r : Bindings V) (name : String) : Prop :=
  ∃ known value, l.get? name = some known ∧ r.get? name = some value ∧ (known == value) = false

theorem Bindings.clash_of_merge [BEq V] {l r : Bindings V} {conflict : MergeConflict}
    (h : l.merge r = .error conflict) : l.Clash r conflict.name := by
  obtain ⟨⟨name, value⟩, hfind, rfl⟩ := merge_eq_error_iff.mp h
  obtain ⟨known, hknown, hvalue⟩ := contradicts_iff.mp (List.find?_some hfind)
  have hbound : (name, value) ∈ r.entries := List.mem_of_find?_eq_some hfind
  exact ⟨known, value, hknown, get?_eq_some_iff.mpr hbound, hvalue⟩

namespace Attempt

/-- From this journal, a decline leaves one event behind, which gives a reason, and any other
outcome leaves none. -/
structure RecordsDecline (attempt : Attempt ε σ (Option α)) (journal : Journal σ)
    (reason : Event → Prop) : Prop where
  declines : (attempt.runFrom journal).1 = .ok none →
    ∃ event, (attempt.runFrom journal).2.events = journal.events.push event ∧ reason event
  silent : (attempt.runFrom journal).1 ≠ .ok none →
    (attempt.runFrom journal).2.events = journal.events

variable {journal : Journal σ} {reason inner : Event → Prop}

theorem recordsDecline_some (value : α) :
    RecordsDecline (return some value : Attempt ε σ (Option α)) journal reason := by
  refine ⟨?_, fun _ => rfl⟩
  intro h
  cases h

theorem recordsDecline_throw (error : ε) :
    RecordsDecline (throw error : Attempt ε σ (Option α)) journal reason := by
  refine ⟨?_, fun _ => rfl⟩
  intro h
  cases h

theorem recordsDecline_none {event : Event} (h : reason event) :
    RecordsDecline (record event >>= fun _ => return none : Attempt ε σ (Option α)) journal
      reason :=
  ⟨fun _ => ⟨event, rfl, h⟩, fun hsome => absurd rfl hsome⟩

/-- Only what a run comes to matters, and the events in front of it. -/
theorem RecordsDecline.of_runFrom_eq {attempt other : Attempt ε σ (Option α)}
    {start : Journal σ} (h : other.RecordsDecline start inner)
    (hinner : ∀ event, inner event → reason event)
    (hrun : attempt.runFrom journal = other.runFrom start)
    (hstart : start.events = journal.events) : attempt.RecordsDecline journal reason := by
  obtain ⟨hdeclines, hsilent⟩ := h
  rw [← hrun, hstart] at hdeclines hsilent
  refine ⟨?_, hsilent⟩
  intro hnone
  obtain ⟨event, hevent, hreason⟩ := hdeclines hnone
  exact ⟨event, hevent, hinner event hreason⟩

/-- A decline of the first part is passed on in silence. The second part runs behind a match, and
then it is the one that may decline. -/
theorem RecordsDecline.bind {attempt : Attempt ε σ (Option α)}
    {next : Option α → Attempt ε σ (Option β)} (h : attempt.RecordsDecline journal inner)
    (hinner : ∀ event, inner event → reason event) (hnone : next none = pure none)
    (hsome : ∀ found left, attempt.runFrom journal = (.ok (some found), left) →
      (next (some found)).RecordsDecline left reason) :
    (attempt >>= next).RecordsDecline journal reason := by
  obtain ⟨hdeclines, hsilent⟩ := h
  rcases hrun : attempt.runFrom journal with ⟨error | _ | found, left⟩
  · rw [hrun] at hsilent
    refine (recordsDecline_throw error).of_runFrom_eq (fun _ => id) ?_ (hsilent (by simp))
    rw [runFrom_bind, hrun, runFrom_throw]
  · rw [hrun] at hdeclines
    obtain ⟨event, hevent, hreason⟩ := hdeclines rfl
    have hruns : (attempt >>= next).runFrom journal = (.ok none, left) := by
      rw [runFrom_bind, hrun]
      simp only [hnone, runFrom_pure]
    refine ⟨fun _ => ⟨event, ?_, hinner event hreason⟩, ?_⟩
    · rw [hruns]
      exact hevent
    · rw [hruns]
      exact fun hother => absurd rfl hother
  · rw [hrun] at hsilent
    refine (hsome found left hrun).of_runFrom_eq (fun _ => id) ?_ (hsilent (by simp))
    rw [runFrom_bind, hrun]

end Attempt

namespace Pattern

variable [BEq V]

mutual

/-- The match of the subject from the journal declines at some node, and the event says at which
one and why. -/
inductive DeclinesWith : Pattern σ V → V → Journal σ → Event → Prop
  | extractor {name : String} {children : List (Pattern σ V)} {extract : Extractor σ V}
      {subject : V} {journal : Journal σ} :
      ((extract subject).run journal).1 = none →
      DeclinesWith (.constructor name children extract) subject journal (.extractorDeclined name)
  | components {name : String} {children : List (Pattern σ V)} {extract : Extractor σ V}
      {subject : V} {values : List V} {journal left : Journal σ} {event : Event} :
      (extract subject).run journal = (some values, left) → values.length = children.length →
      ComponentsDeclineWith name .empty children values left event →
      DeclinesWith (.constructor name children extract) subject journal event
  | inner {name : String} {inner : Pattern σ V} {subject : V} {journal : Journal σ}
      {event : Event} :
      DeclinesWith inner subject journal event →
      DeclinesWith (.aliased name inner) subject journal event
  /-- The subject, under the name of an alias, against what the inner pattern has bound. -/
  | conflict {name variableName : String} {inner : Pattern σ V} {subject : V}
      {found : Bindings V} {journal left : Journal σ} :
      (inner.matchSubject subject).runFrom journal = (.ok (some found), left) →
      (Bindings.singleton name subject).Clash found variableName →
      DeclinesWith (.aliased name inner) subject journal (.aliasConflict name variableName)
  | equality {value subject : V} {journal : Journal σ} :
      (subject == value) = false →
      DeclinesWith (.equality value) subject journal (.extractorDeclined "==")

/-- The components of a constructor decline, in front of which an environment has been found. -/
inductive ComponentsDeclineWith :
    String → Bindings V → List (Pattern σ V) → List V → Journal σ → Event → Prop
  | child {name : String} {found : Bindings V} {child : Pattern σ V}
      {children : List (Pattern σ V)} {value : V} {values : List V} {journal : Journal σ}
      {event : Event} :
      DeclinesWith child value journal event →
      ComponentsDeclineWith name found (child :: children) (value :: values) journal event
  /-- What has been found against what the next component binds. -/
  | conflict {name variableName : String} {found bindings : Bindings V} {child : Pattern σ V}
      {children : List (Pattern σ V)} {value : V} {values : List V} {journal left : Journal σ} :
      (child.matchSubject value).runFrom journal = (.ok (some bindings), left) →
      found.Clash bindings variableName →
      ComponentsDeclineWith name found (child :: children) (value :: values) journal
        (.unequalBindings name variableName)
  | later {name : String} {found bindings merged : Bindings V} {child : Pattern σ V}
      {children : List (Pattern σ V)} {value : V} {values : List V} {journal left : Journal σ}
      {event : Event} :
      (child.matchSubject value).runFrom journal = (.ok (some bindings), left) →
      found.merge bindings = .ok merged →
      ComponentsDeclineWith name merged children values left event →
      ComponentsDeclineWith name found (child :: children) (value :: values) journal event

end

mutual

theorem DeclinesWith.isDecline {p : Pattern σ V} {subject : V} {journal : Journal σ}
    {event : Event} : p.DeclinesWith subject journal event → event.isDecline = true
  | .extractor _ => rfl
  | .components _ _ h => h.isDecline
  | .inner h => h.isDecline
  | .conflict _ _ => rfl
  | .equality _ => rfl

theorem ComponentsDeclineWith.isDecline {name : String} {found : Bindings V}
    {children : List (Pattern σ V)} {values : List V} {journal : Journal σ} {event : Event} :
    ComponentsDeclineWith name found children values journal event → event.isDecline = true
  | .child h => h.isDecline
  | .conflict _ _ => rfl
  | .later _ _ h => h.isDecline

end

theorem components_recordsDecline {children : List (Pattern σ V)}
    (hchildren : ∀ child ∈ children, ∀ subject journal,
      (child.matchSubject subject).RecordsDecline journal (child.DeclinesWith subject journal))
    (name : String) (found : Bindings V) {values : List V}
    (hlength : values.length = children.length) (journal : Journal σ) :
    (matchComponents name found children values).RecordsDecline journal
      (ComponentsDeclineWith name found children values journal) := by
  induction children generalizing found values journal with
  | nil => exact Attempt.recordsDecline_some found
  | cons child rest ih =>
    obtain ⟨value, values, rfl⟩ := List.exists_cons_of_length_eq_add_one hlength
    have hrest := fun other hmem => hchildren other (List.mem_cons_of_mem child hmem)
    rw [matchComponents]
    refine (hchildren child List.mem_cons_self value journal).bind (fun _ => .child) rfl ?_
    intro bindings left hchild
    rcases hmerge : found.merge bindings with conflict | merged
    · simp only [hmerge]
      exact Attempt.recordsDecline_none (.conflict hchild (Bindings.clash_of_merge hmerge))
    · simp only [hmerge]
      exact (ih hrest merged (Nat.succ.inj hlength) left).of_runFrom_eq
        (fun _ => .later hchild hmerge) rfl rfl

/-- With quiet extractors, a match records its decline by one event and nothing else. -/
theorem recordsDecline (p : Pattern σ V) (hp : p.EveryExtractor Extractor.IsQuiet) (subject : V)
    (journal : Journal σ) :
    (p.matchSubject subject).RecordsDecline journal (p.DeclinesWith subject journal) := by
  induction p using Pattern.induction generalizing subject journal with
  | var name =>
    rw [matchSubject]
    exact Attempt.recordsDecline_some _
  | wildcard =>
    rw [matchSubject]
    exact Attempt.recordsDecline_some _
  | equality value =>
    rw [matchSubject]
    by_cases hequal : (subject == value) = true
    · rw [if_pos hequal]
      exact Attempt.recordsDecline_some _
    · rw [if_neg hequal]
      exact Attempt.recordsDecline_none (.equality (Bool.eq_false_iff.mpr hequal))
  | aliased name inner ih =>
    rw [matchSubject]
    refine (ih hp subject journal).bind (fun _ => .inner) rfl ?_
    intro found left hinner
    rcases hmerge : (Bindings.singleton name subject).merge found with conflict | bindings
    · simp only [hmerge]
      exact Attempt.recordsDecline_none (.conflict hinner (Bindings.clash_of_merge hmerge))
    · simp only [hmerge]
      exact Attempt.recordsDecline_some bindings
  | constructor name children extract ih =>
    have hchildren := fun child hmem => ih child hmem (everyExtractorIn_iff.mp hp.2 child hmem)
    have hruns := runFrom_constructor name children extract subject journal
    have hquiet := hp.1 subject journal
    rcases hextract : (extract subject).run journal with ⟨_ | values, left⟩
    · rw [hextract] at hruns hquiet
      have hdeclines : DeclinesWith (.constructor name children extract) subject journal
          (.extractorDeclined name) := .extractor (congrArg Prod.fst hextract)
      exact (Attempt.recordsDecline_none hdeclines).of_runFrom_eq (fun _ => id) hruns hquiet
    · rw [hextract] at hruns hquiet
      by_cases hlength : values.length = children.length
      · simp only [if_pos hlength] at hruns
        exact (components_recordsDecline hchildren name .empty hlength left).of_runFrom_eq
          (fun _ => .components hextract hlength) hruns hquiet
      · simp only [if_neg hlength] at hruns
        exact (Attempt.recordsDecline_throw _).of_runFrom_eq (fun _ => id) hruns hquiet

/-- With extractors that put nothing on record, a decline leaves exactly one event, a trace that
names the node at which the match declines and tells why, and a match or a failure leaves none. -/
theorem decline_recorded_once (p : Pattern σ V) (hp : p.EveryExtractor Extractor.IsQuiet)
    (subject : V) (journal : Journal σ) :
    let run := (p.matchSubject subject).runFrom journal
    (run.1 = .ok none → ∃ event, run.2.events = journal.events.push event ∧
      event.level = .trace ∧ p.DeclinesWith subject journal event) ∧
    (run.1 ≠ .ok none → run.2.events = journal.events) := by
  intro run
  obtain ⟨hdeclines, hsilent⟩ := p.recordsDecline hp subject journal
  refine ⟨?_, hsilent⟩
  intro hnone
  obtain ⟨event, hevent, hreason⟩ := hdeclines hnone
  exact ⟨event, hevent, Event.level_of_isDecline hreason.isDecline, hreason⟩

/-- The first component binds `x`, and the second binds it again below an alias and an extractor
that counts its calls. The tuple notices that the two differ, and it alone says so. -/
theorem decline_recorded_once_below_alias :
    let counted : Extractor Nat Value := fun value => do
      modify fun journal => { journal with state := journal.state + 1 }
      return some [value]
    let p := Value.tuplePattern
      [.var "x", .constructor "counted" [.aliased "whole" (.var "x")] counted]
    let subject := Value.tuple [.unit, .boolean true]
    p.EveryExtractor Extractor.IsQuiet ∧
      (p.matchSubject subject).runFrom ⟨0, #[]⟩ =
        (.ok none, ⟨1, #[.unequalBindings "tuple" "x"]⟩) ∧
      p.DeclinesWith subject ⟨0, #[]⟩ (.unequalBindings "tuple" "x") := by
  intro counted p subject
  have hp : p.EveryExtractor Extractor.IsQuiet :=
    ⟨fun _ _ => rfl, trivial, ⟨fun _ _ => rfl, trivial, trivial⟩, trivial⟩
  have hrun : (p.matchSubject subject).runFrom ⟨0, #[]⟩ =
      (.ok none, ⟨1, #[.unequalBindings "tuple" "x"]⟩) := rfl
  obtain ⟨event, hevent, -, hreason⟩ :=
    (decline_recorded_once p hp subject ⟨0, #[]⟩).1 (congrArg Prod.fst hrun)
  have hsame : #[].push (Event.unequalBindings "tuple" "x") = #[].push event :=
    (congrArg (fun run => run.2.events) hrun).symm.trans hevent
  obtain rfl : Event.unequalBindings "tuple" "x" = event := (Array.push_eq_push.mp hsame).1
  exact ⟨hp, hrun, hreason⟩

end Pattern

end GuardedRules
