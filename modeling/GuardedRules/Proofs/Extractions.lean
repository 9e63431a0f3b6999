import GuardedRules.Proofs.Watching

/-!
# The extractors a match asks

A match asks the extractors of its pattern in the order in which the constructors are written, and
leaves none out in front of another. It may stop between any two of them, because names conflict or
an equality test turns the subject down; an extractor that declines, or whose answer does not fit
its constructor, ends it at once. Which calls a match can make is therefore a small grammar, and
one induction over patterns shows that it makes no others. What is known about single calls
follows from it.
-/

namespace GuardedRules

variable {σ V C α : Type}

/-- The first entry of a part that stands in a table from a position on, and the rest of it. -/
theorem getElem?_of_cons_prefix {table part : List α} {entry : α} {position : Nat}
    (h : entry :: part <+: table.drop position) :
    table[position]? = some entry ∧ part <+: table.drop (position + 1) := by
  obtain ⟨rest, hrest⟩ := h
  refine ⟨?_, rest, ?_⟩
  · rw [← Nat.add_zero position, ← List.getElem?_drop, ← hrest]
    rfl
  · rw [← List.drop_drop, ← hrest]
    rfl

/-- Two parts in a row that stand in a table from a position on. -/
theorem prefix_of_append_prefix {table first second : List α} {position : Nat}
    (h : first ++ second <+: table.drop position) :
    first <+: table.drop position ∧ second <+: table.drop (position + first.length) := by
  refine ⟨(List.prefix_append first second).trans h, ?_⟩
  obtain ⟨rest, hrest⟩ := h
  refine ⟨rest, ?_⟩
  rw [← List.drop_drop, ← hrest, List.append_assoc, List.drop_left]

/-- Calls of the extractors of the constructors from `number` up to `stop`, in the order in which a
match makes them, with the outcome of the match. -/
inductive CallsInTurn (call : Nat → Option (List V) → C) (nodes : List (String × Nat)) :
    Nat → Nat → Except MatchError (Option α) → List C → Prop
  /-- None is left to be called. -/
  | done (number : Nat) (found : α) : CallsInTurn call nodes number number (.ok (some found)) []
  /-- The match declines for another reason than an extractor. -/
  | leaves {number stop : Nat} : number ≤ stop → CallsInTurn call nodes number stop (.ok none) []
  | fits {number stop : Nat} {name : String} {values : List V}
      {outcome : Except MatchError (Option α)} {calls : List C} :
      nodes[number]? = some (name, values.length) →
      CallsInTurn call nodes (number + 1) stop outcome calls →
      CallsInTurn call nodes number stop outcome (call number (some values) :: calls)
  | declines {number stop : Nat} : number < stop →
      CallsInTurn call nodes number stop (.ok none) [call number none]
  | misfits {number stop : Nat} {name : String} {expected : Nat} {values : List V} :
      number < stop → nodes[number]? = some (name, expected) → values.length ≠ expected →
      CallsInTurn call nodes number stop (.error (.arityMismatch name expected values.length))
        [call number (some values)]

namespace CallsInTurn

variable {call : Nat → Option (List V) → C} {good : C → Prop} {nodes : List (String × Nat)}
  {number middle stop : Nat} {matched outcome : Except MatchError (Option α)} {calls later : List C}

/-- Behind a part of a pattern that has matched, the next part is asked. -/
theorem append {found : α} (h : CallsInTurn call nodes number middle matched calls)
    (hmatched : matched = .ok (some found)) (hlater : CallsInTurn call nodes middle stop outcome later) :
    CallsInTurn call nodes number stop outcome (calls ++ later) := by
  induction h with
  | done => exact hlater
  | leaves => cases hmatched
  | fits hnode _ ih => exact .fits hnode (ih hmatched hlater)
  | declines => cases hmatched
  | misfits => cases hmatched

/-- Behind a part that has not matched, nothing is asked any more. -/
theorem ends (h : CallsInTurn call nodes number middle outcome calls)
    (hends : ∀ found, outcome ≠ .ok (some found)) (hle : middle ≤ stop) :
    CallsInTurn call nodes number stop outcome calls := by
  induction h with
  | done _ found => exact absurd rfl (hends found)
  | leaves hstart => exact .leaves (Nat.le_trans hstart hle)
  | fits hnode _ ih => exact .fits hnode (ih hends hle)
  | declines hlt => exact .declines (Nat.lt_of_lt_of_le hlt hle)
  | misfits hlt hnode hlength => exact .misfits (Nat.lt_of_lt_of_le hlt hle) hnode hlength

/-- No constructor in front of the first one is called. -/
theorem forall_mem (h : CallsInTurn call nodes number stop outcome calls)
    (hgood : ∀ node values, number ≤ node → good (call node values)) : ∀ made ∈ calls, good made := by
  induction h with
  | done => exact fun _ hmem => absurd hmem List.not_mem_nil
  | leaves => exact fun _ hmem => absurd hmem List.not_mem_nil
  | fits _ _ ih =>
    refine List.forall_mem_cons.mpr ⟨hgood _ _ (Nat.le_refl _), ih ?_⟩
    exact fun node values hnode => hgood node values (Nat.le_of_succ_le hnode)
  | declines => exact List.forall_mem_singleton.mpr (hgood _ _ (Nat.le_refl _))
  | misfits => exact List.forall_mem_singleton.mpr (hgood _ _ (Nat.le_refl _))

/-- Behind the first call there are only calls of later constructors. -/
theorem forall_mem_tail {first : C} (h : CallsInTurn call nodes number stop outcome (first :: later))
    (hgood : ∀ node values, number < node → good (call node values)) : ∀ made ∈ later, good made := by
  cases h with
  | fits _ hlater => exact hlater.forall_mem hgood
  | declines => exact fun _ hmem => absurd hmem List.not_mem_nil
  | misfits => exact fun _ hmem => absurd hmem List.not_mem_nil

end CallsInTurn

/-- One part of a match behind another: the second one is asked only if the first has matched. -/
theorem Attempt.Watches.bindInTurn {call : Nat → Option (List V) → C} {nodes : List (String × Nat)}
    {number middle stop : Nat} (hle : middle ≤ stop)
    {watching : Attempt MatchError (Watched σ C) (Option α)} {plain : Attempt MatchError σ (Option α)}
    {next : Option α → Attempt MatchError (Watched σ C) (Option α)}
    {plainNext : Option α → Attempt MatchError σ (Option α)}
    (h : watching.Watches plain (CallsInTurn call nodes number middle))
    (hnone : (next none).Watches (plainNext none) fun outcome calls => outcome = .ok none ∧ calls = [])
    (hsome : ∀ found, (next (some found)).Watches (plainNext (some found))
      (CallsInTurn call nodes middle stop)) :
    (watching >>= next).Watches (plain >>= plainNext) (CallsInTurn call nodes number stop) := by
  refine h.bindValue
    (fun matched outcome calls => matched.elim (outcome = .ok none ∧ calls = [])
      fun _ => CallsInTurn call nodes middle stop outcome calls) ?_ ?_ ?_
  · intro matched
    cases matched with
    | none => exact hnone
    | some found => exact hsome found
  · intro error calls hcalls
    exact hcalls.ends (fun _ heq => by cases heq) hle
  · intro matched first outcome later hfirst hlater
    cases matched with
    | none =>
      obtain ⟨rfl, rfl⟩ := hlater
      rw [List.append_nil]
      exact hfirst.ends (fun _ heq => by cases heq) hle
    | some found => exact hfirst.append rfl hlater

namespace Pattern

/-- Any position is one from which some table lists the constructors of a pattern. -/
theorem exists_prefix_drop (p : Pattern σ V) (number : Nat) :
    ∃ nodes : List (String × Nat), p.constructors <+: nodes.drop number := by
  refine ⟨List.replicate number ("", 0) ++ p.constructors, [], ?_⟩
  rw [List.append_nil, List.drop_left' List.length_replicate]

variable [BEq V]

/-- Wherever a pattern stands in one with these constructors, watching changes nothing about it and
its extractors are asked in turn. -/
def ExtractsInTurn (call : Nat → Option (List V) → C) (nodes : List (String × Nat))
    (p : Pattern σ V) : Prop :=
  ∀ number, p.constructors <+: nodes.drop number → ∀ subject,
    ((p.watch call number).matchSubject subject).Watches (p.matchSubject subject)
      (CallsInTurn call nodes number (number + p.constructors.length))

variable {call : Nat → Option (List V) → C} {nodes : List (String × Nat)}

theorem components_in_turn {children : List (Pattern σ V)}
    (hchildren : ∀ child ∈ children, child.ExtractsInTurn call nodes) (name : String) (number : Nat)
    (hnumber : constructorsIn children <+: nodes.drop number) (found : Bindings V)
    {values : List V} (hlength : values.length = children.length) :
    (matchComponents name found (watchIn call number children) values).Watches
      (matchComponents name found children values)
      (CallsInTurn call nodes number (number + (constructorsIn children).length)) := by
  induction children generalizing number found values with
  | nil => exact .of_silent (fun _ => .done number found) fun _ _ => rfl
  | cons child rest ih =>
    obtain ⟨value, values, rfl⟩ := List.exists_cons_of_length_eq_add_one hlength
    obtain ⟨hfirst, hlater⟩ := prefix_of_append_prefix hnumber
    have hchild := hchildren child List.mem_cons_self number hfirst value
    have hrest := fun other hmem => hchildren other (List.mem_cons_of_mem child hmem)
    rw [watchIn, matchComponents, matchComponents, constructorsIn, List.length_append,
      ← Nat.add_assoc]
    refine hchild.bindInTurn (Nat.le_add_right _ _) ?_ ?_
    · exact .of_silent (fun _ => ⟨rfl, rfl⟩) fun _ _ => rfl
    · intro bindings
      rcases hmerge : found.merge bindings with conflict | merged
      · simp only [hmerge]
        exact .of_silent (fun _ => .leaves (Nat.le_add_right _ _)) fun _ _ => rfl
      · simp only [hmerge]
        exact ih hrest _ hlater merged (Nat.succ.inj hlength)

/-- A constructor calls its extractor, and then those inside it. -/
theorem constructor_in_turn {children : List (Pattern σ V)}
    (hchildren : ∀ child ∈ children, child.ExtractsInTurn call nodes) (name : String)
    (extract : Extractor σ V) (number : Nat)
    (hnumber : constructors (constructor name children extract) <+: nodes.drop number) (subject : V) :
    ((watch call number (.constructor name children extract)).matchSubject subject).Watches
      (matchSubject (.constructor name children extract) subject)
      fun outcome calls => (∃ values inner, calls = call number values :: inner) ∧
        CallsInTurn call nodes number (number + 1 + (constructorsIn children).length) outcome
          calls := by
  obtain ⟨hnode, hinner⟩ := getElem?_of_cons_prefix hnumber
  have hlt : number < number + 1 + (constructorsIn children).length := by omega
  rw [watch, matchSubject, matchSubject]
  refine .liftBind ?_
  intro values
  refine (?_ : Attempt.Watches _ _ fun outcome calls =>
    CallsInTurn call nodes number _ outcome (call number values :: calls)).imp
      fun _ inner h => ⟨⟨values, inner, rfl⟩, h⟩
  rcases values with _ | values
  · exact .of_silent (fun _ => .declines hlt) fun _ _ => rfl
  · simp only [length_watchIn]
    by_cases hlength : values.length = children.length
    · rw [if_pos hlength, if_pos hlength]
      exact (components_in_turn hchildren name (number + 1) hinner .empty hlength).imp
        fun _ _ hcalls => .fits (hlength ▸ hnode) hcalls
    · rw [if_neg hlength, if_neg hlength]
      exact .of_silent (fun _ => .misfits hlt hnode hlength) fun _ _ => rfl

theorem extractsInTurn (p : Pattern σ V) : p.ExtractsInTurn call nodes := by
  induction p using Pattern.induction with
  | constructor name children extract ih =>
    intro number hnumber subject
    rw [constructors, List.length_cons, Nat.add_comm _ 1, ← Nat.add_assoc]
    exact (constructor_in_turn ih name extract number hnumber subject).imp fun _ _ h => h.2
  | var name =>
    exact fun number _ subject => .of_silent (fun _ => .done number _) fun _ _ => rfl
  | wildcard => exact fun number _ _ => .of_silent (fun _ => .done number _) fun _ _ => rfl
  | aliased name inner ih =>
    intro number hnumber subject
    rw [watch, matchSubject, matchSubject]
    refine (ih number hnumber subject).bindInTurn (Nat.le_refl _) ?_ ?_
    · exact .of_silent (fun _ => ⟨rfl, rfl⟩) fun _ _ => rfl
    · intro found
      rcases hmerge : (Bindings.singleton name subject).merge found with conflict | bindings
      · simp only [hmerge]
        exact .of_silent (fun _ => .leaves (Nat.le_refl _)) fun _ _ => rfl
      · simp only [hmerge]
        exact .of_silent (fun _ => .done _ bindings) fun _ _ => rfl
  | equality value =>
    intro number _ subject
    rw [watch, matchSubject, matchSubject]
    by_cases hequal : (subject == value) = true
    · rw [if_pos hequal, if_pos hequal]
      exact .of_silent (fun _ => .done number _) fun _ _ => rfl
    · rw [if_neg hequal, if_neg hequal]
      exact .of_silent (fun _ => .leaves (Nat.le_refl number)) fun _ _ => rfl

/-- Watching changes nothing about the pattern and adds good calls only, from whatever number
its constructors are counted, if the calls of constructors from there on are good. -/
def CallsOnly (call : Nat → Option (List V) → C) (good : C → Prop) (p : Pattern σ V) : Prop :=
  ∀ number, (∀ node values, number ≤ node → good (call node values)) → ∀ subject,
    ((p.watch call number).matchSubject subject).Watches (p.matchSubject subject)
      (eachCall good)

/-- The calls of a watched pattern are of the constructors it numbers, and of no others. -/
theorem callsOnly (call : Nat → Option (List V) → C) (good : C → Prop) (p : Pattern σ V) :
    p.CallsOnly call good := by
  intro number hgood subject
  obtain ⟨nodes, hnumber⟩ := p.exists_prefix_drop number
  exact (p.extractsInTurn number hnumber subject).imp fun _ _ h => h.forall_mem hgood

/-- A constructor calls its extractor, and then only constructors inside it. -/
theorem constructor_watches (good : C → Prop) (name : String) (children : List (Pattern σ V))
    (extract : Extractor σ V) (number : Nat)
    (hgood : ∀ node values, number < node → good (call node values)) (subject : V) :
    ((watch call number (.constructor name children extract)).matchSubject subject).Watches
      (matchSubject (.constructor name children extract) subject)
      (fun _ calls => ∃ values inner, calls = call number values :: inner ∧
        ∀ made ∈ inner, good made) := by
  obtain ⟨nodes, hnumber⟩ := exists_prefix_drop (constructor name children extract) number
  refine (constructor_in_turn (fun child _ => child.extractsInTurn) name extract number hnumber
    subject).imp ?_
  rintro _ _ ⟨⟨values, inner, rfl⟩, hturn⟩
  exact ⟨values, inner, rfl, hturn.forall_mem_tail hgood⟩

end Pattern

end GuardedRules
