import GuardedRules.Pattern.Occurrences

/-!
# How a pattern fits a subject

For every kind of pattern one equivalence says which subjects it fits and at which
places it binds them. The places are determined by the pattern and the subject.
-/

namespace GuardedRules.Pattern

variable {σ V : Type} [BEq V]

theorem occurs_var_iff {name : String} {subject : V} {places : List (Place V)} :
    Occurs (.var name : Pattern σ V) subject places ↔ places = [(name, subject)] := by
  constructor
  · intro h
    cases h
    rfl
  · intro hplaces
    rw [hplaces]
    exact .var name subject

theorem occurs_wildcard_iff {subject : V} {places : List (Place V)} :
    Occurs (.wildcard : Pattern σ V) subject places ↔ places = [] := by
  constructor
  · intro h
    cases h
    rfl
  · intro hplaces
    rw [hplaces]
    exact .wildcard subject

theorem occurs_equality_iff {value subject : V} {places : List (Place V)} :
    Occurs (.equality value : Pattern σ V) subject places ↔
      (subject == value) = true ∧ places = [] := by
  constructor
  · intro h
    obtain _ | _ | _ | hequal | _ := h
    exact ⟨hequal, rfl⟩
  · intro h
    rw [h.2]
    exact .equality h.1

theorem occurs_aliased_iff {name : String} {inner : Pattern σ V} {subject : V}
    {places : List (Place V)} :
    Occurs (.aliased name inner) subject places ↔
      ∃ rest, inner.Occurs subject rest ∧ places = (name, subject) :: rest := by
  constructor
  · intro h
    obtain _ | _ | hinner | _ | _ := h
    exact ⟨_, hinner, rfl⟩
  · intro h
    obtain ⟨rest, hinner, rfl⟩ := h
    exact .aliased hinner

theorem occurs_constructor_iff {name : String} {children : List (Pattern σ V)}
    {extract : Extractor σ V} {subject : V} {places : List (Place V)} :
    Occurs (.constructor name children extract) subject places ↔
      ∃ values, extract subject = pure (some values) ∧ OccursIn children values places := by
  constructor
  · intro h
    obtain _ | _ | _ | _ | ⟨hextract, hchildren⟩ := h
    exact ⟨_, hextract, hchildren⟩
  · intro h
    obtain ⟨values, hextract, hchildren⟩ := h
    exact .constructor hextract hchildren

theorem nil_occursIn_iff {values : List V} {places : List (Place V)} :
    OccursIn ([] : List (Pattern σ V)) values places ↔ values = [] ∧ places = [] := by
  constructor
  · intro h
    cases h
    exact ⟨rfl, rfl⟩
  · intro h
    rw [h.1, h.2]
    exact .nil

theorem cons_occursIn_iff {child : Pattern σ V} {rest : List (Pattern σ V)} {value : V}
    {values : List V} {places : List (Place V)} :
    OccursIn (child :: rest) (value :: values) places ↔
      ∃ own later, child.Occurs value own ∧ OccursIn rest values later ∧
        places = own ++ later := by
  constructor
  · intro h
    obtain _ | ⟨hchild, hrest⟩ := h
    exact ⟨_, _, hchild, hrest, rfl⟩
  · intro h
    obtain ⟨own, later, hchild, hrest, rfl⟩ := h
    exact .cons hchild hrest

theorem OccursIn.length_eq {children : List (Pattern σ V)} {values : List V}
    {places : List (Place V)} (h : OccursIn children values places) :
    values.length = children.length := by
  induction children generalizing values places with
  | nil => rw [(nil_occursIn_iff.mp h).1, List.length_nil, List.length_nil]
  | cons child rest ih =>
    obtain _ | ⟨-, hrest⟩ := h
    rw [List.length_cons, List.length_cons, ih hrest]

theorem occursIn_unique {children : List (Pattern σ V)}
    (ih : ∀ child ∈ children, ∀ subject places others,
      child.Occurs subject places → child.Occurs subject others → places = others)
    {values : List V} {places others : List (Place V)} (h : OccursIn children values places)
    (hother : OccursIn children values others) : places = others := by
  induction children generalizing values places others with
  | nil => rw [(nil_occursIn_iff.mp h).2, (nil_occursIn_iff.mp hother).2]
  | cons child rest ihRest =>
    have hrest := fun other hmem => ih other (List.mem_cons_of_mem child hmem)
    obtain ⟨value, values, rfl⟩ := List.exists_cons_of_length_eq_add_one h.length_eq
    obtain ⟨own, later, hchild, hlater, rfl⟩ := cons_occursIn_iff.mp h
    obtain ⟨second, last, hsecond, hlast, rfl⟩ := cons_occursIn_iff.mp hother
    rw [ih child List.mem_cons_self value own second hchild hsecond,
      ihRest hrest hlater hlast]

/-- A pattern has at most one list of places in a subject. The journal is there to show that
there is a state to run extractors on. -/
theorem Occurs.unique (journal : Journal σ) {p : Pattern σ V} {subject : V}
    {places others : List (Place V)} (h : p.Occurs subject places)
    (hother : p.Occurs subject others) : places = others := by
  induction p using Pattern.induction generalizing subject places others with
  | var name => rw [occurs_var_iff.mp h, occurs_var_iff.mp hother]
  | wildcard => rw [occurs_wildcard_iff.mp h, occurs_wildcard_iff.mp hother]
  | equality value => rw [(occurs_equality_iff.mp h).2, (occurs_equality_iff.mp hother).2]
  | aliased name inner ih =>
    obtain ⟨rest, hinner, rfl⟩ := occurs_aliased_iff.mp h
    obtain ⟨last, hsecond, rfl⟩ := occurs_aliased_iff.mp hother
    rw [ih hinner hsecond]
  | constructor name children extract ih =>
    obtain ⟨values, hextract, hchildren⟩ := occurs_constructor_iff.mp h
    obtain ⟨found, hfound, hsecond⟩ := occurs_constructor_iff.mp hother
    have hrun := congrArg Prod.fst (congrFun (hextract.symm.trans hfound) journal)
    obtain rfl : values = found := Option.some.inj hrun
    exact occursIn_unique (fun child hmem _ _ _ => ih child hmem) hchildren hsecond

end GuardedRules.Pattern
