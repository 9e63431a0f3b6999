import GuardedRules.Proofs.BoundNames
import GuardedRules.Proofs.PatternRuns

/-!
# The places of a match

Apart from merging, a match asks extractors in turn, each from the journal that the one before it
has left, and passes the places at which the pattern binds. That much is `OccursFrom`, and with it
merging can be left out of account: whatever the extractors do, a match succeeds exactly when the
places that it passes are in accord, and binds the first of them. The value of a name is then the
same for all its places, but for equality. Two patterns are compared by their places.
-/

namespace GuardedRules

variable {σ V : Type}

namespace Pattern

variable [BEq V]

mutual

/-- From the journal, extractors take the subject apart as the pattern wants it. These are the
places that are passed, and this journal is left. -/
inductive OccursFrom : Pattern σ V → V → Journal σ → List (Place V) → Journal σ → Prop
  | var (name : String) (subject : V) (journal : Journal σ) :
      OccursFrom (.var name) subject journal [(name, subject)] journal
  | wildcard (subject : V) (journal : Journal σ) : OccursFrom .wildcard subject journal [] journal
  | aliased {name : String} {inner : Pattern σ V} {subject : V} {places : List (Place V)}
      {journal left : Journal σ} :
      OccursFrom inner subject journal places left →
      OccursFrom (.aliased name inner) subject journal ((name, subject) :: places) left
  | equality {value subject : V} (journal : Journal σ) : (subject == value) = true →
      OccursFrom (.equality value) subject journal [] journal
  | constructor {name : String} {children : List (Pattern σ V)} {extract : Extractor σ V}
      {subject : V} {values : List V} {places : List (Place V)} {journal middle left : Journal σ} :
      (extract subject).run journal = (some values, middle) →
      OccurInTurn children values middle places left →
      OccursFrom (.constructor name children extract) subject journal places left

/-- As many patterns as values, one after the other. -/
inductive OccurInTurn :
    List (Pattern σ V) → List V → Journal σ → List (Place V) → Journal σ → Prop
  | nil (journal : Journal σ) : OccurInTurn [] [] journal [] journal
  | cons {child : Pattern σ V} {rest : List (Pattern σ V)} {value : V} {values : List V}
      {places later : List (Place V)} {journal middle left : Journal σ} :
      OccursFrom child value journal places middle →
      OccurInTurn rest values middle later left →
      OccurInTurn (child :: rest) (value :: values) journal (places ++ later) left

end

theorem OccurInTurn.length_eq {children : List (Pattern σ V)} {values : List V}
    {places : List (Place V)} {journal left : Journal σ}
    (h : OccurInTurn children values journal places left) : values.length = children.length := by
  induction children generalizing values places journal with
  | nil =>
    cases h
    rfl
  | cons child rest ih =>
    cases h with
    | cons _ hrest => rw [List.length_cons, List.length_cons, ih hrest]

section Runs

variable {b : Bindings V} {subject : V} {journal left : Journal σ}

theorem aliased_matches_iff {name : String} {inner : Pattern σ V} :
    (matchSubject (.aliased name inner) subject).runFrom journal = (.ok (some b), left) ↔
      ∃ found, (inner.matchSubject subject).runFrom journal = (.ok (some found), left) ∧
        (Bindings.singleton name subject).merge found = .ok b := by
  rw [runFrom_aliased]
  constructor
  · intro h
    rcases hinner : (inner.matchSubject subject).runFrom journal with ⟨_ | _ | found, middle⟩
    · simp [hinner] at h
    · simp [hinner] at h
    · rcases hmerge : (Bindings.singleton name subject).merge found with conflict | bindings
      · simp [hinner, hmerge] at h
      · simp only [hinner, hmerge] at h
        cases h
        exact ⟨found, rfl, hmerge⟩
  · intro h
    obtain ⟨found, hinner, hmerge⟩ := h
    simp only [hinner, hmerge]

theorem constructor_matches_iff {name : String} {children : List (Pattern σ V)}
    {extract : Extractor σ V} :
    (matchSubject (.constructor name children extract) subject).runFrom journal =
        (.ok (some b), left) ↔
      ∃ values middle, (extract subject).run journal = (some values, middle) ∧
        values.length = children.length ∧
        (matchComponents name .empty children values).runFrom middle = (.ok (some b), left) := by
  rw [runFrom_constructor]
  constructor
  · intro h
    rcases hextract : (extract subject).run journal with ⟨_ | values, middle⟩
    · simp [hextract] at h
    · by_cases hlength : values.length = children.length
      · simp only [hextract, if_pos hlength] at h
        exact ⟨values, middle, rfl, hlength, h⟩
      · simp [hextract, if_neg hlength] at h
  · intro h
    obtain ⟨values, middle, hextract, hlength, hrest⟩ := h
    simp only [hextract, if_pos hlength]
    exact hrest

theorem components_cons_match_iff {name : String} {found : Bindings V} {child : Pattern σ V}
    {children : List (Pattern σ V)} {value : V} {values : List V} :
    (matchComponents name found (child :: children) (value :: values)).runFrom journal =
        (.ok (some b), left) ↔
      ∃ bindings merged middle,
        (child.matchSubject value).runFrom journal = (.ok (some bindings), middle) ∧
        found.merge bindings = .ok merged ∧
        (matchComponents name merged children values).runFrom middle = (.ok (some b), left) := by
  rw [runFrom_components_cons]
  constructor
  · intro h
    rcases hchild : (child.matchSubject value).runFrom journal with ⟨_ | _ | bindings, middle⟩
    · simp [hchild] at h
    · simp [hchild] at h
    · rcases hmerge : found.merge bindings with conflict | merged
      · simp [hchild, hmerge] at h
      · simp only [hchild, hmerge] at h
        exact ⟨bindings, merged, middle, rfl, hmerge, h⟩
  · intro h
    obtain ⟨bindings, merged, middle, hchild, hmerge, hrest⟩ := h
    simp only [hchild, hmerge]
    exact hrest

end Runs

variable [PartialEquivBEq V]

/-- Matching the pattern gives exactly the environments that collect the places it passes. -/
def CollectsFrom (p : Pattern σ V) : Prop :=
  ∀ subject journal b left, (p.matchSubject subject).runFrom journal = (.ok (some b), left) ↔
    ∃ places, p.OccursFrom subject journal places left ∧ b.Collects places

/-- The environment found so far collects the places passed so far, and goes on to collect those
of the components that follow. -/
theorem components_collectFrom {children : List (Pattern σ V)}
    (hchildren : ∀ child ∈ children, child.CollectsFrom) {name : String} {found b : Bindings V}
    {passed : List (Place V)} (hfound : found.Collects passed) {values : List V}
    (hlength : values.length = children.length) {journal left : Journal σ} :
    (matchComponents name found children values).runFrom journal = (.ok (some b), left) ↔
      ∃ places, OccurInTurn children values journal places left ∧
        b.Collects (passed ++ places) := by
  induction children generalizing found passed values journal with
  | nil =>
    obtain rfl := List.length_eq_zero_iff.mp hlength
    rw [matchComponents, Attempt.runFrom_pure]
    constructor
    · intro h
      cases h
      exact ⟨[], .nil _, by rwa [List.append_nil]⟩
    · intro h
      obtain ⟨places, hplaces, hb⟩ := h
      cases hplaces
      rw [List.append_nil] at hb
      rw [hb.eq hfound]
  | cons child rest ih =>
    obtain ⟨value, values, rfl⟩ := List.exists_cons_of_length_eq_add_one hlength
    have hchild := hchildren child List.mem_cons_self
    have hrest := fun other hmem => hchildren other (List.mem_cons_of_mem child hmem)
    have hlength' : values.length = rest.length := Nat.succ.inj hlength
    rw [components_cons_match_iff]
    constructor
    · intro h
      obtain ⟨bindings, merged, middle, hmatch, hmerge, hlast⟩ := h
      obtain ⟨places, hplaces, hbindings⟩ := (hchild value journal bindings middle).mp hmatch
      have hmerged := (Bindings.merge_eq_ok_iff_collects hfound hbindings).mp hmerge
      obtain ⟨later, hlater, hb⟩ := (ih hrest hmerged hlength').mp hlast
      exact ⟨places ++ later, .cons hplaces hlater, by rwa [← List.append_assoc]⟩
    · intro h
      obtain ⟨places, hall, hb⟩ := h
      cases hall with
      | @cons _ _ _ _ own later _ middle _ hplaces hlater =>
        rw [← List.append_assoc] at hb
        have haccord := (List.pairwise_append.mp hb.accord).1
        obtain ⟨bindings, hbindings⟩ :=
          Bindings.exists_collects (List.pairwise_append.mp haccord).2.1
        obtain ⟨merged, hmerged⟩ := Bindings.exists_collects haccord
        refine ⟨bindings, merged, middle, ?_, ?_, ?_⟩
        · exact (hchild value journal bindings middle).mpr ⟨own, hplaces, hbindings⟩
        · exact (Bindings.merge_eq_ok_iff_collects hfound hbindings).mpr hmerged
        · exact (ih hrest hmerged hlength').mpr ⟨later, hlater, hb⟩

/-- A match collects the places that it passes, whatever the extractors are. -/
theorem collectsFrom (p : Pattern σ V) : p.CollectsFrom := by
  induction p using Pattern.induction with
  | var name =>
    intro subject journal b left
    rw [matchSubject, Attempt.runFrom_pure]
    constructor
    · intro h
      cases h
      exact ⟨_, .var name subject journal, Bindings.singleton_collects_iff.mpr rfl⟩
    · intro h
      obtain ⟨places, hplaces, hb⟩ := h
      cases hplaces
      rw [Bindings.singleton_collects_iff.mp hb]
  | wildcard =>
    intro subject journal b left
    rw [matchSubject, Attempt.runFrom_pure]
    constructor
    · intro h
      cases h
      exact ⟨[], .wildcard subject journal, Bindings.empty_collects_iff.mpr rfl⟩
    · intro h
      obtain ⟨places, hplaces, hb⟩ := h
      cases hplaces
      rw [Bindings.empty_collects_iff.mp hb]
  | equality value =>
    intro subject journal b left
    rw [matchSubject]
    by_cases hequal : (subject == value) = true
    · rw [if_pos hequal, Attempt.runFrom_pure]
      constructor
      · intro h
        cases h
        exact ⟨[], .equality journal hequal, Bindings.empty_collects_iff.mpr rfl⟩
      · intro h
        obtain ⟨places, hplaces, hb⟩ := h
        cases hplaces
        rw [Bindings.empty_collects_iff.mp hb]
    · rw [if_neg hequal]
      constructor
      · intro h
        cases h
      · intro h
        obtain ⟨places, hplaces, -⟩ := h
        cases hplaces with
        | equality _ hother => exact absurd hother hequal
  | aliased name inner ih =>
    intro subject journal b left
    have hown : (Bindings.singleton name subject).Collects [(name, subject)] :=
      Bindings.singleton_collects_iff.mpr rfl
    rw [aliased_matches_iff]
    constructor
    · intro h
      obtain ⟨found, hinner, hmerge⟩ := h
      obtain ⟨places, hplaces, hfound⟩ := (ih subject journal found left).mp hinner
      have hb := (Bindings.merge_eq_ok_iff_collects hown hfound).mp hmerge
      exact ⟨(name, subject) :: places, .aliased hplaces, hb⟩
    · intro h
      obtain ⟨places, hall, hb⟩ := h
      cases hall with
      | @aliased _ _ _ rest _ _ hplaces =>
        obtain ⟨found, hfound⟩ := Bindings.exists_collects (List.pairwise_cons.mp hb.accord).2
        refine ⟨found, (ih subject journal found left).mpr ⟨rest, hplaces, hfound⟩, ?_⟩
        exact (Bindings.merge_eq_ok_iff_collects hown hfound).mpr hb
  | constructor name children extract ih =>
    intro subject journal b left
    have hnothing : (Bindings.empty : Bindings V).Collects [] :=
      Bindings.empty_collects_iff.mpr rfl
    rw [constructor_matches_iff]
    constructor
    · intro h
      obtain ⟨values, middle, hextract, hlength, hrest⟩ := h
      obtain ⟨places, hplaces, hb⟩ := (components_collectFrom ih hnothing hlength).mp hrest
      exact ⟨places, .constructor hextract hplaces, hb⟩
    · intro h
      obtain ⟨places, hall, hb⟩ := h
      cases hall with
      | @constructor _ _ _ _ values _ _ middle _ hextract hplaces =>
        have hlength := hplaces.length_eq
        refine ⟨values, middle, hextract, hlength, ?_⟩
        exact (components_collectFrom ih hnothing hlength).mpr ⟨places, hplaces, hb⟩

end Pattern

/-- One value, or two that are equal. A NaN is one with itself although it does not equal itself. -/
def SameOrEqual [BEq V] (value other : V) : Prop := value = other ∨ (value == other) = true

theorem SameOrEqual.symm [BEq V] [PartialEquivBEq V] {value other : V}
    (h : SameOrEqual value other) : SameOrEqual other value :=
  h.imp Eq.symm BEq.symm

namespace Bindings.Collects

variable {b : Bindings V} {places : List (Place V)}

theorem mem_of_get? [BEq V] (h : b.Collects places) {name : String} {value : V}
    (hvalue : b.get? name = some value) : (name, value) ∈ places := by
  refine Place.mem_of_mem_firsts ?_
  rw [← h.entries_eq]
  exact get?_eq_some_iff.mp hvalue

/-- The value that is kept for a name is the same or equal at every place of the name. -/
theorem exists_get?_of_mem [BEq V] (h : b.Collects places) {name : String} {value : V}
    (hmem : (name, value) ∈ places) : ∃ kept, b.get? name = some kept ∧ SameOrEqual kept value := by
  obtain ⟨first, hfirst, hname, hvalue⟩ := Place.exists_first_accord h.accord hmem
  obtain rfl : first.1 = name := hname
  have hkept : (first.1, first.2) ∈ b.entries := h.entries_eq ▸ hfirst
  exact ⟨first.2, get?_eq_some_iff.mpr hkept, hvalue.imp_left (congrArg Prod.snd)⟩

end Bindings.Collects

/-- A match gives every variable of the pattern a value. -/
theorem Pattern.exists_get?_of_match [BEq V] {p : Pattern σ V} {subject : V} {journal : Journal σ}
    {b : Bindings V} (h : ((p.matchSubject subject).runFrom journal).1 = .ok (some b))
    {name : String} (hname : name ∈ p.variableNames) : ∃ value, b.get? name = some value := by
  rw [variableNames, collectVariables_eq_foldl, ← p.names_of_match subject journal b h] at hname
  refine Option.ne_none_iff_exists'.mp ?_
  intro hnone
  exact Bindings.get?_eq_none_iff.mp hnone hname

end GuardedRules
