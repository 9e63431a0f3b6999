import GuardedRules.Proofs.NeverFailing
import GuardedRules.Proofs.PatternRuns

/-!
# List patterns and tuple patterns

A list pattern is a chain of cells, so its sub-patterns are matched in turn like those of a
tuple, but their environments are merged from the right, and not before the whole list has
matched. Both ways of merging come to the same. The list pattern only notices later that it
has to decline, and by then a sub-pattern may have failed that the tuple pattern never ran.
-/

namespace GuardedRules

variable {σ V : Type}

namespace Pattern

variable [BEq V]

/-- Each pattern matches the value at its position, from the journal that the one before it has
left. There are as many patterns as values. -/
inductive MatchInTurn :
    List (Pattern σ V) → List V → Journal σ → List (Bindings V) → Journal σ → Prop
  | nil (journal : Journal σ) : MatchInTurn [] [] journal [] journal
  | cons {child : Pattern σ V} {children : List (Pattern σ V)} {value : V} {values : List V}
      {bindings : Bindings V} {matched : List (Bindings V)} {journal middle left : Journal σ} :
      (child.matchSubject value).runFrom journal = (.ok (some bindings), middle) →
      MatchInTurn children values middle matched left →
      MatchInTurn (child :: children) (value :: values) journal (bindings :: matched) left

/-- Patterns match the values at their positions up to one that fails. -/
inductive FailInTurn : List (Pattern σ V) → List V → Journal σ → Prop
  | here {child : Pattern σ V} {children : List (Pattern σ V)} {value : V} {values : List V}
      {error : MatchError} {journal left : Journal σ} :
      (child.matchSubject value).runFrom journal = (.error error, left) →
      FailInTurn (child :: children) (value :: values) journal
  | later {child : Pattern σ V} {children : List (Pattern σ V)} {value : V} {values : List V}
      {bindings : Bindings V} {journal middle : Journal σ} :
      (child.matchSubject value).runFrom journal = (.ok (some bindings), middle) →
      FailInTurn children values middle →
      FailInTurn (child :: children) (value :: values) journal

theorem MatchInTurn.length_eq {children : List (Pattern σ V)} {values : List V}
    {matched : List (Bindings V)} {journal left : Journal σ}
    (h : MatchInTurn children values journal matched left) : values.length = children.length := by
  induction h with
  | nil => rfl
  | cons _ _ ih => rw [List.length_cons, List.length_cons, ih]

theorem not_failInTurn {children : List (Pattern σ V)} {values : List V} {journal : Journal σ}
    (h : ∀ pair ∈ children.zip values, (pair.1.matchSubject pair.2).NeverFails) :
    ¬ FailInTurn children values journal := by
  intro hfail
  induction hfail with
  | @here child _ value _ error journal left hrun =>
    obtain ⟨matched, hmatched⟩ := h (child, value) List.mem_cons_self journal
    rw [hrun] at hmatched
    cases hmatched
  | later _ _ ih => exact ih fun pair hmem => h pair (List.mem_cons_of_mem _ hmem)

/-- Components match when the children match in turn and their environments can be merged one
by one into what has been found. -/
theorem components_match_iff {name : String} {children : List (Pattern σ V)} {values : List V}
    (hlength : values.length = children.length) {found b : Bindings V}
    {journal left : Journal σ} :
    (matchComponents name found children values).runFrom journal = (.ok (some b), left) ↔
      ∃ matched, MatchInTurn children values journal matched left ∧
        matched.foldlM Bindings.merge found = .ok b := by
  induction children generalizing values found journal with
  | nil =>
    obtain rfl := List.length_eq_zero_iff.mp hlength
    rw [matchComponents, Attempt.runFrom_pure]
    constructor
    · intro h
      cases h
      exact ⟨[], .nil _, rfl⟩
    · intro h
      obtain ⟨_, hturn, hmerge⟩ := h
      cases hturn
      cases hmerge
      rfl
  | cons child rest ih =>
    obtain ⟨value, values, rfl⟩ := List.exists_cons_of_length_eq_add_one hlength
    have hrest : values.length = rest.length := Nat.succ.inj hlength
    rw [runFrom_components_cons]
    constructor
    · intro h
      rcases hchild : (child.matchSubject value).runFrom journal with ⟨_ | _ | bindings, middle⟩
      · rw [hchild] at h
        cases h
      · rw [hchild] at h
        cases h
      · rw [hchild] at h
        rcases hmerge : found.merge bindings with conflict | merged
        · simp only [hmerge] at h
          cases h
        · simp only [hmerge] at h
          obtain ⟨matched, hturn, hlater⟩ := (ih hrest).mp h
          refine ⟨bindings :: matched, .cons hchild hturn, ?_⟩
          rw [List.foldlM_cons, hmerge]
          exact hlater
    · intro h
      obtain ⟨_, hturn, hmerge⟩ := h
      cases hturn with
      | cons hchild hturn =>
        rw [List.foldlM_cons] at hmerge
        obtain ⟨merged, hfirst, hlater⟩ := bind_eq_ok_iff.mp hmerge
        simp only [hchild, hfirst]
        exact (ih hrest).mpr ⟨_, hturn, hlater⟩

/-- Components fail only where a child does. -/
theorem failInTurn_of_components {name : String} {children : List (Pattern σ V)}
    {values : List V} {found : Bindings V} {journal left : Journal σ} {error : MatchError}
    (h : (matchComponents name found children values).runFrom journal = (.error error, left)) :
    FailInTurn children values journal := by
  induction children generalizing values found journal with
  | nil => cases h
  | cons child rest ih =>
    rcases values with _ | ⟨value, values⟩
    · cases h
    · rw [runFrom_components_cons] at h
      rcases hchild : (child.matchSubject value).runFrom journal with ⟨_ | _ | bindings, middle⟩
      · exact .here hchild
      · rw [hchild] at h
        cases h
      · rw [hchild] at h
        rcases hmerge : found.merge bindings with conflict | merged
        · simp only [hmerge] at h
          cases h
        · simp only [hmerge] at h
          exact .later hchild (ih h)

end Pattern

namespace Value

open Pattern (MatchInTurn FailInTurn matchSubject)

def listPattern (patterns : List (Pattern σ Value)) : Pattern σ Value :=
  patterns.foldr consPattern nilPattern

/-- A cell matches its head first, and merges the environment of the head in front of that of
the tail when both have matched. -/
theorem runFrom_consPattern_cons (head tail : Pattern σ Value) (first rest : Value)
    (journal : Journal σ) :
    ((consPattern head tail).matchSubject (cons first rest)).runFrom journal =
      match (head.matchSubject first).runFrom journal with
      | (.error error, left) => (.error error, left)
      | (.ok none, left) => (.ok none, left)
      | (.ok (some bindings), middle) =>
        match (tail.matchSubject rest).runFrom middle with
        | (.error error, left) => (.error error, left)
        | (.ok none, left) => (.ok none, left)
        | (.ok (some later), left) =>
          match bindings.merge later with
          | .ok merged => (.ok (some merged), left)
          | .error conflict =>
            (.ok none, left.push (.unequalBindings (Text.lowercase consTag) conflict.name)) := by
  have hextract : Variant.extract consTag (cons first rest) = some [first, rest] :=
    Variant.extract_eq_some_iff.mpr rfl
  have hcell : ((consPattern head tail).matchSubject (cons first rest)).runFrom journal =
      (Pattern.matchComponents (Text.lowercase consTag) .empty [head, tail]
        [first, rest]).runFrom journal := by
    rw [consPattern, Variant.pattern, Pattern.runFrom_constructor, hextract]
    rfl
  rw [hcell, Pattern.runFrom_components_cons]
  rcases (head.matchSubject first).runFrom journal with ⟨_ | _ | bindings, middle⟩
  · rfl
  · rfl
  · simp only [Bindings.empty_merge, Pattern.runFrom_components_cons]
    rcases (tail.matchSubject rest).runFrom middle with ⟨_ | _ | later, left⟩
    · rfl
    · rfl
    · rcases hmerge : bindings.merge later with conflict | merged
      · simp only [hmerge]
      · simp only [hmerge, Pattern.matchComponents, Attempt.runFrom_pure]

/-- A cell declines the empty list. -/
theorem runFrom_consPattern_nil (head tail : Pattern σ Value) (journal : Journal σ) :
    ((consPattern head tail).matchSubject nil).runFrom journal =
      (.ok none, journal.push (.extractorDeclined (Text.lowercase consTag))) := rfl

/-- The pattern of the empty list declines a cell. -/
theorem runFrom_nilPattern_cons (first rest : Value) (journal : Journal σ) :
    (nilPattern.matchSubject (cons first rest)).runFrom journal =
      (.ok none, journal.push (.extractorDeclined (Text.lowercase nilTag))) := rfl

theorem runFrom_nilPattern_nil (journal : Journal σ) :
    (nilPattern.matchSubject nil).runFrom journal = (.ok (some .empty), journal) := rfl

theorem consPattern_matches_iff {head tail : Pattern σ Value} {first rest : Value}
    {b : Bindings Value} {journal left : Journal σ} :
    ((consPattern head tail).matchSubject (cons first rest)).runFrom journal =
        (.ok (some b), left) ↔
      ∃ bindings middle later, (head.matchSubject first).runFrom journal =
          (.ok (some bindings), middle) ∧
        (tail.matchSubject rest).runFrom middle = (.ok (some later), left) ∧
        bindings.merge later = .ok b := by
  rw [runFrom_consPattern_cons]
  constructor
  · intro h
    rcases hhead : (head.matchSubject first).runFrom journal with ⟨_ | _ | bindings, middle⟩
    · rw [hhead] at h
      cases h
    · rw [hhead] at h
      cases h
    · rcases htail : (tail.matchSubject rest).runFrom middle with ⟨_ | _ | later, reached⟩
      · simp only [hhead, htail] at h
        cases h
      · simp only [hhead, htail] at h
        cases h
      · rcases hmerge : bindings.merge later with conflict | merged
        · simp only [hhead, htail, hmerge] at h
          cases h
        · simp only [hhead, htail, hmerge] at h
          cases h
          exact ⟨bindings, middle, later, rfl, htail, hmerge⟩
  · intro h
    obtain ⟨bindings, middle, later, hhead, htail, hmerge⟩ := h
    simp only [hhead, htail, hmerge]

/-- A list pattern matches when its sub-patterns match in turn and their environments can be
merged from the last one to the first. -/
theorem listPattern_matches_iff {patterns : List (Pattern σ Value)} {items : List Value}
    {b : Bindings Value} {journal left : Journal σ} :
    ((listPattern patterns).matchSubject (ofList items)).runFrom journal = (.ok (some b), left) ↔
      ∃ matched, MatchInTurn patterns items journal matched left ∧
        matched.foldrM Bindings.merge .empty = .ok b := by
  induction patterns generalizing items b journal with
  | nil =>
    rcases items with _ | ⟨item, items⟩
    · show (nilPattern.matchSubject nil).runFrom journal = _ ↔ _
      rw [runFrom_nilPattern_nil]
      constructor
      · intro h
        cases h
        exact ⟨[], .nil _, rfl⟩
      · intro h
        obtain ⟨_, hturn, hmerge⟩ := h
        cases hturn
        cases hmerge
        rfl
    · show (nilPattern.matchSubject (cons item (ofList items))).runFrom journal = _ ↔ _
      rw [runFrom_nilPattern_cons]
      constructor
      · intro h
        cases h
      · intro h
        obtain ⟨_, hturn, -⟩ := h
        cases hturn
  | cons pattern patterns ih =>
    rcases items with _ | ⟨item, items⟩
    · show ((consPattern pattern (listPattern patterns)).matchSubject nil).runFrom journal = _ ↔ _
      rw [runFrom_consPattern_nil]
      constructor
      · intro h
        cases h
      · intro h
        obtain ⟨_, hturn, -⟩ := h
        cases hturn
    · refine Iff.trans consPattern_matches_iff ?_
      constructor
      · intro h
        obtain ⟨bindings, middle, later, hhead, htail, hmerge⟩ := h
        obtain ⟨matched, hturn, hlater⟩ := ih.mp htail
        refine ⟨bindings :: matched, .cons hhead hturn, ?_⟩
        rw [List.foldrM_cons]
        exact bind_eq_ok_iff.mpr ⟨later, hlater, hmerge⟩
      · intro h
        obtain ⟨_, hturn, hmerge⟩ := h
        cases hturn with
        | cons hhead hturn =>
          rw [List.foldrM_cons] at hmerge
          obtain ⟨later, hlater, hfirst⟩ := bind_eq_ok_iff.mp hmerge
          exact ⟨_, _, later, hhead, ih.mpr ⟨_, hturn, hlater⟩, hfirst⟩

/-- A list pattern fails only where a sub-pattern does. -/
theorem failInTurn_of_listPattern {patterns : List (Pattern σ Value)} {items : List Value}
    {error : MatchError} {journal left : Journal σ}
    (h : ((listPattern patterns).matchSubject (ofList items)).runFrom journal =
      (.error error, left)) :
    FailInTurn patterns items journal := by
  induction patterns generalizing items journal with
  | nil =>
    rcases items with _ | ⟨item, items⟩
    · cases h
    · cases h
  | cons pattern patterns ih =>
    rcases items with _ | ⟨item, items⟩
    · cases h
    · replace h : ((consPattern pattern (listPattern patterns)).matchSubject
          (cons item (ofList items))).runFrom journal = (.error error, left) := h
      rw [runFrom_consPattern_cons] at h
      rcases hhead : (pattern.matchSubject item).runFrom journal with ⟨_ | _ | bindings, middle⟩
      · exact .here hhead
      · rw [hhead] at h
        cases h
      · rcases htail : ((listPattern patterns).matchSubject (ofList items)).runFrom middle with
          ⟨_ | _ | later, reached⟩
        · simp only [hhead, htail] at h
          cases h
          exact .later hhead (ih htail)
        · simp only [hhead, htail] at h
          cases h
        · rcases hmerge : bindings.merge later with conflict | merged
          · simp only [hhead, htail, hmerge] at h
            cases h
          · simp only [hhead, htail, hmerge] at h
            cases h

theorem runFrom_tuplePattern (patterns : List (Pattern σ Value)) (items : List Value)
    (journal : Journal σ) :
    ((tuplePattern patterns).matchSubject (.tuple items)).runFrom journal =
      if items.length = patterns.length then
        (Pattern.matchComponents "tuple" .empty patterns items).runFrom journal
      else (.ok none, journal.push (.extractorDeclined "tuple")) := by
  have hextract : (extractTuple patterns.length (.tuple items) : Option (List Value)) =
      if items.length = patterns.length then some items else none := rfl
  rw [tuplePattern, Pattern.runFrom_constructor, hextract]
  by_cases hlength : items.length = patterns.length
  · rw [if_pos hlength, if_pos hlength]
    exact if_pos hlength
  · rw [if_neg hlength, if_neg hlength]
    rfl

/-- A tuple pattern matches when its sub-patterns match in turn and their environments can be
merged from the first one to the last. -/
theorem tuplePattern_matches_iff {patterns : List (Pattern σ Value)} {items : List Value}
    {b : Bindings Value} {journal left : Journal σ} :
    ((tuplePattern patterns).matchSubject (.tuple items)).runFrom journal = (.ok (some b), left) ↔
      ∃ matched, MatchInTurn patterns items journal matched left ∧
        matched.foldlM Bindings.merge .empty = .ok b := by
  rw [runFrom_tuplePattern]
  by_cases hlength : items.length = patterns.length
  · rw [if_pos hlength]
    exact Pattern.components_match_iff hlength
  · rw [if_neg hlength]
    constructor
    · intro h
      cases h
    · intro h
      obtain ⟨_, hturn, -⟩ := h
      exact absurd hturn.length_eq hlength

theorem failInTurn_of_tuplePattern {patterns : List (Pattern σ Value)} {items : List Value}
    {error : MatchError} {journal left : Journal σ}
    (h : ((tuplePattern patterns).matchSubject (.tuple items)).runFrom journal =
      (.error error, left)) :
    FailInTurn patterns items journal := by
  rw [runFrom_tuplePattern] at h
  by_cases hlength : items.length = patterns.length
  · rw [if_pos hlength] at h
    exact Pattern.failInTurn_of_components h
  · rw [if_neg hlength] at h
    cases h

/-- A list pattern matches a list with the bindings with which the tuple pattern of the same
sub-patterns matches the tuple of the same items, and leaves the same journal. They have the same
outcome in any case if no sub-pattern fails when it is its turn, and so in particular if none ever
fails on the item at its position. -/
theorem listPattern_agrees_with_tuplePattern (patterns : List (Pattern σ Value))
    (items : List Value) (journal : Journal σ) :
    let list := ((listPattern patterns).matchSubject (ofList items)).runFrom journal
    let tuple := ((tuplePattern patterns).matchSubject (.tuple items)).runFrom journal
    (∀ b left, list = (.ok (some b), left) ↔ tuple = (.ok (some b), left)) ∧
    (¬ FailInTurn patterns items journal → list.1 = tuple.1) ∧
    ((∀ pair ∈ patterns.zip items, (pair.1.matchSubject pair.2).NeverFails) →
      list.1 = tuple.1) := by
  intro list tuple
  have hmatch (b : Bindings Value) (left : Journal σ) :
      list = (.ok (some b), left) ↔ tuple = (.ok (some b), left) := by
    refine listPattern_matches_iff.trans (Iff.trans ?_ tuplePattern_matches_iff.symm)
    simp only [Bindings.foldlM_merge_eq_ok_iff_foldrM]
  have hsame (hnever : ¬ FailInTurn patterns items journal) : list.1 = tuple.1 := by
    rcases hlist : list with ⟨_ | _ | b, left⟩
    · exact absurd (failInTurn_of_listPattern hlist) hnever
    · rcases htuple : tuple with ⟨_ | _ | b, reached⟩
      · exact absurd (failInTurn_of_tuplePattern htuple) hnever
      · rfl
      · rw [(hmatch b reached).mpr htuple] at hlist
        cases hlist
    · rw [(hmatch b left).mp hlist]
  exact ⟨hmatch, hsame, fun hchildren => hsame (Pattern.not_failInTurn hchildren)⟩

/-- Two sub-patterns share a name, and one of them has an extractor that counts its calls. Zeros
of different signs are bound alike by the list and by the tuple; unequal items are declined. -/
theorem listPattern_agrees_with_tuplePattern_shared_name :
    let zero := Value.float ⟨0⟩
    let minusZero := Value.float ⟨0x8000000000000000⟩
    let counted : Extractor Nat Value := fun value => do
      modify fun journal => { journal with state := journal.state + 1 }
      return some [value]
    let patterns := [.var "x", .constructor "counted" [.aliased "y" (.var "x")] counted]
    let list (items : List Value) :=
      ((listPattern patterns).matchSubject (ofList items)).runFrom ⟨0, #[]⟩
    let tuple (items : List Value) :=
      ((tuplePattern patterns).matchSubject (.tuple items)).runFrom ⟨0, #[]⟩
    list [zero, minusZero] = (.ok (some ⟨[("x", zero), ("y", minusZero)], by decide⟩), ⟨1, #[]⟩) ∧
      tuple [zero, minusZero] = list [zero, minusZero] ∧
      (list [zero, .unit]).1 = .ok none ∧ (tuple [zero, .unit]).1 = .ok none := by
  intro zero minusZero counted patterns list tuple
  have hlist : list [zero, minusZero] =
      (.ok (some ⟨[("x", zero), ("y", minusZero)], by decide⟩), ⟨1, #[]⟩) := rfl
  have htuple := ((listPattern_agrees_with_tuplePattern patterns [zero, minusZero] ⟨0, #[]⟩).1
    _ _).mp hlist
  have hchildren : ∀ pair ∈ patterns.zip [zero, .unit],
      (pair.1.matchSubject pair.2).NeverFails := by
    intro pair hpair
    rcases List.mem_cons.mp hpair with rfl | hlast
    · exact Attempt.neverFails_pure _
    · obtain rfl := List.mem_singleton.mp hlast
      exact fun _ => ⟨_, rfl⟩
  have hsame :=
    (listPattern_agrees_with_tuplePattern patterns [zero, .unit] ⟨0, #[]⟩).2.2 hchildren
  have hdeclined : (list [zero, .unit]).1 = .ok none := rfl
  exact ⟨hlist, htuple.trans hlist.symm, hdeclined, hsame.symm.trans hdeclined⟩

/-- Where the tuple pattern has declined, the list pattern may come to a sub-pattern that fails. -/
example :
    let broken : Extractor Unit Value := fun _ => return some []
    let patterns := [.var "x", .var "x", .constructor "broken" [.wildcard] broken]
    let items := [.unit, .boolean true, .unit]
    (((tuplePattern patterns).matchSubject (.tuple items)).runFrom ⟨(), #[]⟩).1 = .ok none ∧
      (((listPattern patterns).matchSubject (ofList items)).runFrom ⟨(), #[]⟩).1 =
        .error (.arityMismatch "broken" 1 0) := ⟨rfl, rfl⟩

end Value

end GuardedRules
