import GuardedRules.Proofs.Covering

/-!
# Walking along lists

A rule with one alternative for the empty list and one for a cell covers the data type of lists,
so every match against it takes the walk one cell further, stops it at the empty list, or fails.
The elements of a list are what such a walk collects. Where there are none, the walk comes to a
value that is no list, and the rule says what is wrong with it.
-/

namespace GuardedRules

variable {ε σ V : Type}

/-- The value of a variable, for an action that cannot go on without it. -/
def MatchResult.fetch [OfMatchError ε] (result : MatchResult V) (name : String) : Attempt ε σ V :=
  match result.get name with
  | .ok value => return value
  | .error error => throw (ofMatchError error)

theorem MatchResult.fetch_of_mem [OfMatchError ε] {result : MatchResult V} {name : String}
    {value : V} (h : (name, value) ∈ result.bindings.entries) :
    (result.fetch name : Attempt ε σ V) = pure value := by
  have hbound : result.get? name = some value := Bindings.get?_eq_some_iff.mpr h
  rw [fetch, get_eq_ok_iff.mpr hbound]

namespace Value

theorem mem_listType_iff {variant : Variant} :
    variant ∈ listType.variants ↔ variant = ⟨nilTag, 0⟩ ∨ variant = ⟨consTag, 2⟩ := by
  have hvariants : listType.variants = [⟨nilTag, 0⟩, ⟨consTag, 2⟩] := rfl
  rw [hvariants, List.mem_cons, List.mem_singleton]

theorem isList_iff {v : Value} :
    v.isList = true ↔ v = nil ∨ ∃ first rest, v = cons first rest := by
  rw [isList, DataType.isInstance_iff]
  constructor
  · intro h
    obtain ⟨variant, hmem, fields, rfl, hlength⟩ := h
    rcases mem_listType_iff.mp hmem with rfl | rfl
    · obtain rfl := List.eq_nil_of_length_eq_zero hlength
      exact .inl rfl
    · obtain ⟨first, fields, rfl⟩ := List.exists_cons_of_length_eq_add_one hlength
      obtain ⟨rest, rfl⟩ := List.length_eq_one_iff.mp (Nat.succ.inj hlength)
      exact .inr ⟨first, rest, rfl⟩
  · intro h
    rcases h with rfl | ⟨first, rest, rfl⟩
    · exact ⟨⟨nilTag, 0⟩, mem_listType_iff.mpr (.inl rfl), [], rfl, rfl⟩
    · exact ⟨⟨consTag, 2⟩, mem_listType_iff.mpr (.inr rfl), [first, rest], rfl, rfl⟩

theorem isList_of_elements? {v : Value} {items : List Value} (h : v.elements? = some items) :
    v.isList = true := by
  obtain rfl := eq_ofList_of_elements? h
  rw [isList_iff]
  cases items with
  | nil => exact .inl rfl
  | cons first rest => exact .inr ⟨first, ofList rest, rfl⟩

theorem tag?_eq_some_iff {v : Value} {tag : String} :
    v.tag? = some tag ↔ ∃ fields, v = data tag fields := by
  cases v <;> simp [tag?]

theorem elements?_eq_none {v : Value} (h : v.isList = false) : v.elements? = none := by
  refine Option.eq_none_iff_forall_ne_some.mpr ?_
  intro items hitems
  rw [isList_of_elements? hitems] at h
  cases h

def stop : Action σ Value (Option (Value × Value)) ε := fun _ => return none

def uncons [OfMatchError ε] (head tail : String) : Action σ Value (Option (Value × Value)) ε :=
  fun result => do
    let first ← result.fetch head
    let rest ← result.fetch tail
    return some (first, rest)

/-- Stops at the empty list and takes a cell apart. -/
def listRule [OfMatchError ε] (head tail : String) : Rule σ Value (Option (Value × Value)) ε :=
  (nilPattern.thenDo stop).orElse ((consPattern (.var head) (.var tail)).thenDo (uncons head tail))

theorem listRule_covers [OfMatchError ε] {head tail : String} (hne : head ≠ tail) :
    (listRule head tail : Rule σ Value (Option (Value × Value)) ε).Covers listType
      listType.variants (fun variant => if variant.tag = nilTag then [] else [head, tail])
      (fun variant => if variant.tag = nilTag then stop else uncons head tail) where
  perm := .refl _
  toList_eq := rfl
  length_eq := by
    intro variant hmem
    rcases mem_listType_iff.mp hmem with rfl | rfl
    · rfl
    · rfl
  nodup := by
    intro variant hmem
    rcases mem_listType_iff.mp hmem with rfl | rfl
    · exact List.nodup_nil
    · rw [if_neg (show consTag ≠ nilTag by decide)]
      simpa using hne

/-- One step of a walk: a match of the value it has come to against the rule. -/
def listStep [OfMatchError ε] (head tail : String) (v : Value) :
    Attempt ε σ (Option (Value × Value)) :=
  (matchOn v).against (listRule head tail)

section Steps

variable [OfMatchError ε] {head tail : String} {v first rest : Value} {journal : Journal σ}

/-- A walk stops at the empty list. -/
theorem exists_listStep_nil (hne : head ≠ tail) (journal : Journal σ) :
    ∃ left, (listStep head tail nil : Attempt ε σ _).runFrom journal = (.ok none, left) := by
  have hlength : ([] : List Value).length = (Variant.mk nilTag 0).arity := rfl
  obtain ⟨before, after, -, bindings, -, hrun⟩ :=
    (listRule_covers (ε := ε) hne).against_of_fits (mem_listType_iff.mpr (.inl rfl)) hlength
  exact ⟨_, hrun journal⟩

/-- A walk takes the element of a cell and goes on with the rest. -/
theorem exists_listStep_cons (hne : head ≠ tail) (first rest : Value) (journal : Journal σ) :
    ∃ left, (listStep head tail (cons first rest) : Attempt ε σ _).runFrom journal =
      (.ok (some (first, rest)), left) := by
  have hlength : [first, rest].length = (Variant.mk consTag 2).arity := rfl
  obtain ⟨before, after, -, bindings, hentries, hrun⟩ :=
    (listRule_covers (ε := ε) hne).against_of_fits (mem_listType_iff.mpr (.inr rfl)) hlength
  have hfirst : (head, first) ∈ bindings.entries := by
    rw [hentries]
    exact List.mem_cons_self
  have hrest : (tail, rest) ∈ bindings.entries := by
    rw [hentries]
    exact List.mem_cons_of_mem _ List.mem_cons_self
  have haction : uncons head tail ⟨bindings⟩ = (return some (first, rest) : Attempt ε σ _) := by
    rw [uncons, MatchResult.fetch_of_mem hfirst, MatchResult.fetch_of_mem hrest]
    rfl
  have hcell := hrun journal
  rw [if_neg (show consTag ≠ nilTag by decide), haction] at hcell
  exact ⟨_, hcell⟩

/-- What the rule says about a value that is no list: it has a wrong number of fields, or a tag
that lists do not have, or none. -/
structure RefusedWith (v : Value) (outcome : Except ε (Option (Value × Value))) : Prop where
  nil_misfit : ∀ fields, v = data nilTag fields →
    outcome = .error (ofMatchError (.arityMismatch "nil" 0 fields.length))
  cons_misfit : ∀ fields, v = data consTag fields →
    outcome = .error (ofMatchError (.arityMismatch "cons" 2 fields.length))
  foreign : v.tag? ≠ some nilTag → v.tag? ≠ some consTag →
    outcome = .error (ofMatchError (.noMatch 2))

theorem RefusedWith.exists_error {outcome : Except ε (Option (Value × Value))}
    (h : v.RefusedWith outcome) : ∃ error, outcome = .error error := by
  by_cases hnil : v.tag? = some nilTag
  · obtain ⟨fields, rfl⟩ := tag?_eq_some_iff.mp hnil
    exact ⟨_, h.nil_misfit fields rfl⟩
  · by_cases hcons : v.tag? = some consTag
    · obtain ⟨fields, rfl⟩ := tag?_eq_some_iff.mp hcons
      exact ⟨_, h.cons_misfit fields rfl⟩
    · exact ⟨_, h.foreign hnil hcons⟩

theorem listStep_misfit (hne : head ≠ tail) {variant : Variant}
    (hmem : variant ∈ listType.variants) {fields : List Value}
    (h : (data variant.tag fields).isList = false) (journal : Journal σ) :
    ((listStep head tail (data variant.tag fields) : Attempt ε σ _).runFrom journal).1 =
      .error (ofMatchError
        (.arityMismatch (Text.lowercase variant.tag) variant.arity fields.length)) := by
  have hlength := DataType.length_ne_of_not_isInstance hmem h
  obtain ⟨before, after, -, hrun⟩ := (listRule_covers (ε := ε) hne).against_of_misfit hmem hlength
  exact congrArg Prod.fst (hrun journal)

theorem refusedWith_listStep (hne : head ≠ tail) (h : v.isList = false) (journal : Journal σ) :
    v.RefusedWith ((listStep head tail v : Attempt ε σ _).runFrom journal).1 where
  nil_misfit := by
    intro fields hv
    subst hv
    exact listStep_misfit hne (mem_listType_iff.mpr (.inl rfl)) h journal
  cons_misfit := by
    intro fields hv
    subst hv
    exact listStep_misfit hne (mem_listType_iff.mpr (.inr rfl)) h journal
  foreign := by
    intro hnil hcons
    have htag : ∀ variant ∈ listType.variants, v.tag? ≠ some variant.tag := by
      intro variant hmem
      rcases mem_listType_iff.mp hmem with rfl | rfl
      · exact hnil
      · exact hcons
    exact congrArg Prod.fst ((listRule_covers (ε := ε) hne).against_of_foreign htag journal)

/-- All that a step can come to. -/
theorem listStep_cases (hne : head ≠ tail) (v : Value) (journal : Journal σ) :
    (v = nil ∧ ∃ left, (listStep head tail v : Attempt ε σ _).runFrom journal = (.ok none, left)) ∨
    (∃ first rest left, v = cons first rest ∧
      (listStep head tail v : Attempt ε σ _).runFrom journal = (.ok (some (first, rest)), left)) ∨
    (v.isList = false ∧
      v.RefusedWith ((listStep head tail v : Attempt ε σ _).runFrom journal).1) := by
  cases hlist : v.isList with
  | false => exact .inr (.inr ⟨rfl, refusedWith_listStep hne hlist journal⟩)
  | true =>
    rcases isList_iff.mp hlist with rfl | ⟨first, rest, rfl⟩
    · exact .inl ⟨rfl, exists_listStep_nil hne journal⟩
    · obtain ⟨left, hcell⟩ := exists_listStep_cons (ε := ε) hne first rest journal
      exact .inr (.inl ⟨first, rest, left, rfl, hcell⟩)

theorem eq_nil_of_listStep (hne : head ≠ tail)
    (h : ((listStep head tail v : Attempt ε σ _).runFrom journal).1 = .ok none) : v = nil := by
  rcases listStep_cases (ε := ε) hne v journal with ⟨rfl, -⟩ | ⟨first, rest, left, -, hcell⟩ |
    ⟨-, hrefused⟩
  · rfl
  · rw [hcell] at h
    cases h
  · obtain ⟨error, herror⟩ := hrefused.exists_error
    rw [h] at herror
    cases herror

theorem eq_cons_of_listStep (hne : head ≠ tail)
    (h : ((listStep head tail v : Attempt ε σ _).runFrom journal).1 = .ok (some (first, rest))) :
    v = cons first rest := by
  rcases listStep_cases (ε := ε) hne v journal with ⟨-, left, hstop⟩ |
    ⟨other, others, left, rfl, hcell⟩ | ⟨-, hrefused⟩
  · rw [hstop] at h
    cases h
  · rw [hcell] at h
    cases h
    rfl
  · obtain ⟨error, herror⟩ := hrefused.exists_error
    rw [h] at herror
    cases herror

end Steps

section Walks

variable (ε) [OfMatchError ε] (head tail : String)

/-- A walk from a value and a journal: the values that it passes and what it takes from them, in
order, and the value and the journal that it has come to. -/
inductive Walks : Value → Journal σ → List Value → List Value → Value → Journal σ → Prop
  | here (v : Value) (journal : Journal σ) : Walks v journal [] [] v journal
  | step {v first rest last : Value} {passed taken : List Value} {journal middle left : Journal σ} :
      (listStep head tail v : Attempt ε σ _).runFrom journal = (.ok (some (first, rest)), middle) →
      Walks rest middle passed taken last left →
      Walks v journal (v :: passed) (first :: taken) last left

variable {ε head tail} {v last : Value} {passed taken : List Value} {journal left : Journal σ}

theorem Walks.isList_of_mem (hne : head ≠ tail)
    (h : Walks ε head tail v journal passed taken last left) :
    ∀ spine ∈ passed, spine.isList = true := by
  induction h with
  | here => exact fun _ hmem => absurd hmem List.not_mem_nil
  | step hstep _ ih =>
    have hcell := eq_cons_of_listStep hne (congrArg Prod.fst hstep)
    exact List.forall_mem_cons.mpr ⟨isList_iff.mpr (.inr ⟨_, _, hcell⟩), ih⟩

/-- What a walk has taken are the first elements, and what is left has the others. -/
theorem Walks.elements?_eq (hne : head ≠ tail)
    (h : Walks ε head tail v journal passed taken last left) :
    v.elements? = last.elements?.map (taken ++ ·) := by
  induction h with
  | here => simp
  | step hstep _ ih =>
    obtain rfl := eq_cons_of_listStep hne (congrArg Prod.fst hstep)
    rw [elements?_cons, ih, Option.map_map]
    rfl

/-- Every walk can be continued to the empty list or to a value that is no list. -/
theorem exists_walks (hne : head ≠ tail) (v : Value) (journal : Journal σ) :
    ∃ passed taken last left, Walks ε head tail v journal passed taken last left ∧
      (last = nil ∨ last.isList = false) := by
  induction v using Value.induction generalizing journal with
  | data tag fields ih =>
    cases hlist : (data tag fields).isList with
    | false => exact ⟨[], [], _, journal, .here _ _, .inr hlist⟩
    | true =>
      rcases isList_iff.mp hlist with hnil | ⟨first, rest, hcell⟩
      · exact ⟨[], [], _, journal, .here _ _, .inl hnil⟩
      · have hrest : rest ∈ fields := by
          obtain ⟨-, rfl⟩ := data.inj hcell
          exact List.mem_cons_of_mem _ List.mem_cons_self
        obtain ⟨middle, hstep⟩ := exists_listStep_cons (ε := ε) hne first rest journal
        obtain ⟨passed, taken, last, left, hwalk, hend⟩ := ih rest hrest middle
        rw [hcell]
        exact ⟨_, _, last, left, .step hstep hwalk, hend⟩
  | _ => exact ⟨[], [], _, journal, .here _ _, .inr rfl⟩

/-- A value has just the elements that a walk collects on its way to the empty list, and it has
none if a walk comes to a value that is no list, behind spine values that are. The rule then
refuses this value. -/
theorem elements?_agrees_with_walk (hne : head ≠ tail) (v : Value) (journal : Journal σ) :
    (∀ items, v.elements? = some items ↔
      ∃ passed last left, Walks ε head tail v journal passed items last left ∧
        ((listStep head tail last : Attempt ε σ _).runFrom left).1 = .ok none) ∧
    (v.elements? = none ↔
      ∃ passed taken last left, Walks ε head tail v journal passed taken last left ∧
        last.isList = false ∧ ∀ spine ∈ passed, spine.isList = true) ∧
    ∀ passed taken last left, Walks ε head tail v journal passed taken last left →
      last.isList = false →
        last.RefusedWith ((listStep head tail last : Attempt ε σ _).runFrom left).1 := by
  obtain ⟨passed, taken, last, left, hwalk, hend⟩ := exists_walks (ε := ε) hne v journal
  have helements := hwalk.elements?_eq hne
  refine ⟨?_, ?_, ?_⟩
  · intro items
    constructor
    · intro hitems
      rw [hitems] at helements
      rcases hend with rfl | hbroken
      · obtain ⟨hstop, hrun⟩ := exists_listStep_nil (ε := ε) hne left
        rw [elements?_nil, Option.map_some, List.append_nil] at helements
        obtain rfl := Option.some.inj helements
        exact ⟨passed, nil, left, hwalk, congrArg Prod.fst hrun⟩
      · rw [elements?_eq_none hbroken] at helements
        cases helements
    · intro hstops
      obtain ⟨passed, last, left, hwalk, hstop⟩ := hstops
      obtain rfl := eq_nil_of_listStep hne hstop
      rw [hwalk.elements?_eq hne, elements?_nil, Option.map_some, List.append_nil]
  · constructor
    · intro hnone
      rw [hnone] at helements
      rcases hend with rfl | hbroken
      · rw [elements?_nil] at helements
        cases helements
      · exact ⟨passed, taken, last, left, hwalk, hbroken, hwalk.isList_of_mem hne⟩
    · intro hbreaks
      obtain ⟨passed, taken, last, left, hwalk, hbroken, -⟩ := hbreaks
      rw [hwalk.elements?_eq hne, elements?_eq_none hbroken, Option.map_none]
  · intro passed taken last left _ hbroken
    exact refusedWith_listStep hne hbroken left

/-- A walk along a list of two, and one that takes as much and then comes to a cell without a
rest. -/
theorem elements?_agrees_with_walk_pair :
    let one := integer 1
    let two := integer 2
    let broken := data consTag [unit]
    let improper := cons one (cons two broken)
    let start : Journal Unit := ⟨(), #[]⟩
    (∃ passed last left,
      Walks MatchError "h" "t" (ofList [one, two]) start passed [one, two] last left ∧
        ((listStep "h" "t" last : Attempt MatchError Unit _).runFrom left).1 = .ok none) ∧
    improper.elements? = none ∧
    ∃ left, Walks MatchError "h" "t" improper start [improper, cons two broken] [one, two]
        broken left ∧
      ((listStep "h" "t" broken : Attempt MatchError Unit _).runFrom left).1 =
        .error (.arityMismatch "cons" 2 1) := by
  intro one two broken improper start
  have hne : "h" ≠ "t" := by decide
  have hproper := elements?_agrees_with_walk (ε := MatchError) hne (ofList [one, two]) start
  have himproper := elements?_agrees_with_walk (ε := MatchError) hne improper start
  obtain ⟨middle, hfirst⟩ := exists_listStep_cons (ε := MatchError) hne one (cons two broken) start
  obtain ⟨left, hsecond⟩ := exists_listStep_cons (ε := MatchError) hne two broken middle
  have hwalk : Walks MatchError "h" "t" improper start [improper, cons two broken] [one, two]
      broken left :=
    .step hfirst (.step hsecond (.here broken left))
  have hspine : ∀ spine ∈ [improper, cons two broken], spine.isList = true := by decide
  refine ⟨(hproper.1 [one, two]).mp rfl, ?_, left, hwalk, ?_⟩
  · exact himproper.2.1.mpr ⟨_, _, broken, left, hwalk, rfl, hspine⟩
  · exact (himproper.2.2 _ _ broken left hwalk rfl).cons_misfit [unit] rfl

end Walks

end Value

end GuardedRules
