import Mathlib.Data.Set.Function
import GuardedRules.Pattern.Variation
import GuardedRules.Proofs.MatchedPlaces
import GuardedRules.Proofs.MergeResults
import GuardedRules.Proofs.ValueEquality
import GuardedRules.Value.Pattern

/-!
# Patterns under other names

Renaming touches neither the extractors nor the values at the places of a pattern. So the places
of the renamed pattern are those of the pattern under their new names. A renaming that gives two
variables one name only adds places that have to agree, hence what the renamed pattern matches
the pattern matches too. A renaming that keeps the variables apart makes no difference to any
merge, and then the two matches go the same way step by step.
-/

namespace GuardedRules

variable {σ V : Type} {f : String → String}

def Place.rename (f : String → String) (place : Place V) : Place V := (f place.1, place.2)

/-- The event of a merge that fails tells of the variable and the alias under their new names. -/
def Event.rename (f : String → String) : Event → Event
  | unequalBindings constructor name => .unequalBindings constructor (f name)
  | aliasConflict aliasName name => .aliasConflict (f aliasName) (f name)
  | event => event

/-- The second environment has the values of the first one, in the same order and under their new
names. -/
def Bindings.Renames (f : String → String) (b renamed : Bindings V) : Prop :=
  renamed.entries = b.entries.map (Place.rename f)

/-- Two runs leave the same journal and come to the same, but for names: the same error, a decline
for the same reason, or the same values. -/
inductive RenamedRun (f : String → String) :
    Except MatchError (Option (Bindings V)) × Journal σ →
      Except MatchError (Option (Bindings V)) × Journal σ → Prop
  | fails (error : MatchError) (left : Journal σ) :
      RenamedRun f (.error error, left) (.error error, left)
  | declines (event : Event) (left : Journal σ) :
      RenamedRun f (.ok none, left.push event) (.ok none, left.push (event.rename f))
  | succeeds {b renamed : Bindings V} (left : Journal σ) :
      b.Renames f renamed → RenamedRun f (.ok (some b), left) (.ok (some renamed), left)

variable [BEq V]

section AnyRenaming

/-- Places that agree under their new names agree under the old ones. -/
theorem Place.pairwise_accord_of_rename {places : List (Place V)}
    (h : (places.map (rename f)).Pairwise Accord) : places.Pairwise Accord :=
  (List.pairwise_map.mp h).imp fun haccord hname => haccord (congrArg f hname)

namespace Pattern

theorem OccurInTurn.of_renameAll {children : List (Pattern σ V)}
    (hchildren : ∀ child ∈ children, ∀ subject journal places left,
      (child.rename f).OccursFrom subject journal places left →
        ∃ old, child.OccursFrom subject journal old left ∧ places = old.map (Place.rename f))
    {values : List V} {places : List (Place V)} {journal left : Journal σ}
    (h : OccurInTurn (renameAll f children) values journal places left) :
    ∃ old, OccurInTurn children values journal old left ∧
      places = old.map (Place.rename f) := by
  induction children generalizing values places journal with
  | nil =>
    cases h
    exact ⟨[], .nil _, rfl⟩
  | cons child rest ih =>
    have hrest := fun other hmem => hchildren other (List.mem_cons_of_mem child hmem)
    rw [renameAll] at h
    cases h with
    | cons hown hlater =>
      obtain ⟨first, hfirst, rfl⟩ := hchildren child List.mem_cons_self _ _ _ _ hown
      obtain ⟨later, hothers, rfl⟩ := ih hrest hlater
      exact ⟨first ++ later, .cons hfirst hothers, List.map_append.symm⟩

/-- The places of the renamed pattern are places of the pattern under their new names. -/
theorem OccursFrom.of_rename {p : Pattern σ V} {subject : V} {places : List (Place V)}
    {journal left : Journal σ} (h : (p.rename f).OccursFrom subject journal places left) :
    ∃ old, p.OccursFrom subject journal old left ∧ places = old.map (Place.rename f) := by
  induction p using Pattern.induction generalizing subject places journal left with
  | var name =>
    cases h
    exact ⟨_, .var name subject journal, rfl⟩
  | wildcard =>
    cases h
    exact ⟨_, .wildcard subject journal, rfl⟩
  | equality value =>
    cases h with
    | equality _ hequal => exact ⟨_, .equality journal hequal, rfl⟩
  | aliased name inner ih =>
    rw [rename] at h
    cases h with
    | aliased hinner =>
      obtain ⟨old, hold, rfl⟩ := ih hinner
      exact ⟨(name, subject) :: old, .aliased hold, rfl⟩
  | constructor name children extract ih =>
    rw [rename] at h
    cases h with
    | constructor hextract hall =>
      obtain ⟨old, hold, rfl⟩ :=
        OccurInTurn.of_renameAll (fun child hmem _ _ _ _ => ih child hmem) hall
      exact ⟨old, .constructor hextract hold, rfl⟩

end Pattern

end AnyRenaming

/-- A merge of renamed environments fails at the same variable, or succeeds with the renamed
result. -/
inductive RenamedMerge (f : String → String) :
    Except MergeConflict (Bindings V) → Except MergeConflict (Bindings V) → Prop
  | conflict (name : String) : RenamedMerge f (.error ⟨name⟩) (.error ⟨f name⟩)
  | merged {m renamed : Bindings V} : m.Renames f renamed → RenamedMerge f (.ok m) (.ok renamed)

/-- A match binds only names that the pattern mentions. -/
theorem Pattern.names_subset_of_match {p : Pattern σ V} {subject : V} {journal : Journal σ}
    {b : Bindings V} (h : ((p.matchSubject subject).runFrom journal).1 = .ok (some b)) :
    b.names ⊆ p.mentions := by
  intro name hname
  rw [p.names_of_match subject journal b h] at hname
  exact (mem_foldl_addName.mp hname).resolve_left List.not_mem_nil

section KeepingApart

variable {names : List String} (hf : Set.InjOn f {name | name ∈ names})

include hf

namespace Bindings

variable {b renamed l r newLeft newRight : Bindings V}

omit [BEq V] in
theorem Renames.get?_eq (h : b.Renames f renamed) (hb : b.names ⊆ names) {name : String}
    (hname : name ∈ names) : renamed.get? (f name) = b.get? name := by
  refine Option.ext ?_
  intro value
  rw [get?_eq_some_iff, get?_eq_some_iff, h, List.mem_map]
  constructor
  · intro hmem
    obtain ⟨⟨old, kept⟩, hold, heq⟩ := hmem
    obtain ⟨hnames, rfl⟩ := Prod.mk.inj heq
    obtain rfl := hf (hb (mem_names_of_mem hold)) hname hnames
    exact hold
  · exact fun hmem => ⟨(name, value), hmem, rfl⟩

omit [BEq V] in
theorem Renames.mem_names_iff (h : b.Renames f renamed) (hb : b.names ⊆ names) {name : String}
    (hname : name ∈ names) : f name ∈ renamed.names ↔ name ∈ b.names := by
  rw [← not_iff_not, ← get?_eq_none_iff, ← get?_eq_none_iff, h.get?_eq hf hb hname]

theorem Renames.contradicts_eq (h : b.Renames f renamed) (hb : b.names ⊆ names)
    {entry : String × V} (hentry : entry.1 ∈ names) :
    renamed.contradicts (Place.rename f entry) = b.contradicts entry := by
  rw [contradicts, contradicts, Place.rename, h.get?_eq hf hb hentry]

/-- The first contradiction stays where it is. -/
theorem find?_contradicts_rename (hl : l.Renames f newLeft) (hr : r.Renames f newRight)
    (hleft : l.names ⊆ names) (hright : r.names ⊆ names) :
    newRight.entries.find? newLeft.contradicts =
      (r.entries.find? l.contradicts).map (Place.rename f) := by
  rw [hr, List.find?_map]
  congr 1
  refine List.find?_congr ?_
  intro entry hentry
  exact hl.contradicts_eq hf hleft (hright (mem_names_of_mem hentry))

/-- A merge sees nothing of names but which of them are the same. -/
theorem Renames.merge (hl : l.Renames f newLeft) (hr : r.Renames f newRight)
    (hleft : l.names ⊆ names) (hright : r.names ⊆ names) :
    RenamedMerge f (l.merge r) (newLeft.merge newRight) := by
  have hfind := find?_contradicts_rename hf hl hr hleft hright
  rcases hmerge : l.merge r with conflict | m
  · obtain ⟨entry, hentry, rfl⟩ := merge_eq_error_iff.mp hmerge
    rw [hentry] at hfind
    rw [merge_eq_error_iff.mpr ⟨_, hfind, rfl⟩]
    exact .conflict entry.1
  · rcases hnew : newLeft.merge newRight with conflict | renamed
    · obtain ⟨entry, hentry, -⟩ := merge_eq_error_iff.mp hnew
      rw [hentry] at hfind
      obtain ⟨old, hold, -⟩ := Option.map_eq_some_iff.mp hfind.symm
      have herror := merge_eq_error_iff.mpr ⟨old, hold, rfl⟩
      rw [hmerge] at herror
      cases herror
    · refine .merged ?_
      rw [Renames, entries_of_merge hmerge, entries_of_merge hnew, hl, hr, List.map_append,
        List.filter_map]
      congr 2
      refine List.filter_congr ?_
      intro entry hentry
      have hentryName := hright (mem_names_of_mem hentry)
      exact decide_eq_decide.mpr (not_congr (hl.mem_names_iff hf hleft hentryName))

end Bindings

namespace Pattern

/-- The components behind environments that differ in names only. -/
theorem components_renamedRun {children : List (Pattern σ V)}
    (hchildren : ∀ child ∈ children, child.mentions ⊆ names → ∀ subject (journal : Journal σ),
      RenamedRun f ((child.matchSubject subject).runFrom journal)
        (((child.rename f).matchSubject subject).runFrom journal))
    (hnames : mentionsIn children ⊆ names) (name : String) {found renamed : Bindings V}
    (hfound : found.Renames f renamed) (hbound : found.names ⊆ names) {values : List V}
    (hlength : values.length = children.length) (journal : Journal σ) :
    RenamedRun f ((matchComponents name found children values).runFrom journal)
      ((matchComponents name renamed (renameAll f children) values).runFrom journal) := by
  induction children generalizing found renamed values journal with
  | nil => exact .succeeds journal hfound
  | cons child rest ih =>
    obtain ⟨value, values, rfl⟩ := List.exists_cons_of_length_eq_add_one hlength
    obtain ⟨hown, hothers⟩ := List.append_subset.mp hnames
    have hrest := fun other hmem => hchildren other (List.mem_cons_of_mem child hmem)
    have hchild := hchildren child List.mem_cons_self hown value journal
    -- the runs give way to the relation between them, and with them what they are runs of
    have hbinds : ∀ b, ((child.matchSubject value).runFrom journal).1 = .ok (some b) →
        b.names ⊆ child.mentions := fun _ => names_subset_of_match
    rw [renameAll, runFrom_components_cons, runFrom_components_cons]
    generalize (child.matchSubject value).runFrom journal = run at hchild hbinds ⊢
    generalize ((child.rename f).matchSubject value).runFrom journal = other at hchild ⊢
    cases hchild with
    | fails error left => exact .fails error left
    | declines event left => exact .declines event left
    | @succeeds bindings newBindings left hbindings =>
      have hinner : bindings.names ⊆ names := fun _ hmem => hown (hbinds bindings rfl hmem)
      have hmerge := hfound.merge hf hbindings hbound hinner
      have hmergeNames : ∀ m, found.merge bindings = .ok m → m.names ⊆ names := by
        intro m hm variableName hmem
        rw [Bindings.names_of_merge hm] at hmem
        exact (mem_foldl_addName.mp hmem).elim (hbound ·) (hinner ·)
      simp only
      generalize found.merge bindings = result at hmerge hmergeNames ⊢
      generalize renamed.merge newBindings = newResult at hmerge ⊢
      cases hmerge with
      | conflict variableName => exact .declines (.unequalBindings name variableName) left
      | merged hm =>
        exact ih hrest hothers hm (hmergeNames _ rfl) (Nat.succ.inj hlength) left

/-- A renaming that keeps the variables of a pattern apart takes its runs step by step to those of
the renamed pattern. -/
theorem renamedRun (p : Pattern σ V) (hnames : p.mentions ⊆ names) (subject : V)
    (journal : Journal σ) :
    RenamedRun f ((p.matchSubject subject).runFrom journal)
      (((p.rename f).matchSubject subject).runFrom journal) := by
  induction p using Pattern.induction generalizing subject journal with
  | var name =>
    rw [rename, matchSubject, matchSubject]
    exact .succeeds journal rfl
  | wildcard =>
    rw [rename, matchSubject]
    exact .succeeds journal rfl
  | equality value =>
    rw [rename, matchSubject]
    by_cases hequal : (subject == value) = true
    · rw [if_pos hequal]
      exact .succeeds journal rfl
    · rw [if_neg hequal]
      exact .declines (.extractorDeclined equalityName) journal
  | aliased name inner ih =>
    obtain ⟨hname, hinner⟩ := List.cons_subset.mp hnames
    have hrun := ih hinner subject journal
    have hbinds : ∀ b, ((inner.matchSubject subject).runFrom journal).1 = .ok (some b) →
        b.names ⊆ inner.mentions := fun _ => names_subset_of_match
    rw [rename, runFrom_aliased, runFrom_aliased]
    generalize (inner.matchSubject subject).runFrom journal = run at hrun hbinds ⊢
    generalize ((inner.rename f).matchSubject subject).runFrom journal = other at hrun ⊢
    cases hrun with
    | fails error left => exact .fails error left
    | declines event left => exact .declines event left
    | @succeeds found newFound left hfound =>
      have hown : (Bindings.singleton name subject).Renames f
          (Bindings.singleton (f name) subject) := rfl
      have hownNames : (Bindings.singleton name subject).names ⊆ names :=
        List.cons_subset.mpr ⟨hname, List.nil_subset names⟩
      have hfoundNames : found.names ⊆ names := fun _ hmem => hinner (hbinds found rfl hmem)
      have hmerge := hown.merge hf hfound hownNames hfoundNames
      simp only
      generalize (Bindings.singleton name subject).merge found = result at hmerge ⊢
      generalize (Bindings.singleton (f name) subject).merge newFound = newResult at hmerge ⊢
      cases hmerge with
      | conflict variableName => exact .declines (.aliasConflict name variableName) left
      | merged hm => exact .succeeds left hm
  | constructor name children extract ih =>
    rw [rename, runFrom_constructor, runFrom_constructor, renameAll_eq_map, List.length_map,
      ← renameAll_eq_map]
    rcases (extract subject).run journal with ⟨_ | values, left⟩
    · exact .declines (.extractorDeclined name) left
    · by_cases hlength : values.length = children.length
      · have hnothing : (Bindings.empty : Bindings V).Renames f .empty := rfl
        simp only [if_pos hlength]
        exact components_renamedRun hf ih hnames name hnothing (List.nil_subset names) hlength left
      · simp only [if_neg hlength]
        exact .fails (.arityMismatch name children.length values.length) left

end Pattern

end KeepingApart

namespace Pattern

/-- What a pattern matches under other names it matches under its own, and a variable has the same
value as its new name, or an equal one. If the new names of its variables differ, then both
matches leave the same journal and come to the same under the new names: the environment with its
order and its values, the error, or the decline with its reason. -/
theorem rename_matches (p : Pattern σ Value) (f : String → String) (subject : Value)
    (journal : Journal σ) :
    (∀ renamed left,
      ((p.rename f).matchSubject subject).runFrom journal = (.ok (some renamed), left) →
        ∃ b, (p.matchSubject subject).runFrom journal = (.ok (some b), left) ∧
          ∀ name ∈ p.variableNames, ∃ value kept,
            b.get? name = some value ∧ renamed.get? (f name) = some kept ∧
              SameOrEqual value kept) ∧
    (Set.InjOn f {name | name ∈ p.variableNames} →
      RenamedRun f ((p.matchSubject subject).runFrom journal)
        (((p.rename f).matchSubject subject).runFrom journal)) := by
  constructor
  · intro renamed left h
    obtain ⟨places, hplaces, hrenamed⟩ :=
      ((p.rename f).collectsFrom subject journal renamed left).mp h
    obtain ⟨old, hold, rfl⟩ := hplaces.of_rename
    obtain ⟨b, hb⟩ := Bindings.exists_collects (Place.pairwise_accord_of_rename hrenamed.accord)
    have hmatch := (p.collectsFrom subject journal b left).mpr ⟨old, hold, hb⟩
    refine ⟨b, hmatch, ?_⟩
    intro name hname
    obtain ⟨value, hvalue⟩ := exists_get?_of_match (congrArg Prod.fst hmatch) hname
    have hplace : (f name, value) ∈ old.map (Place.rename f) :=
      List.mem_map_of_mem (hb.mem_of_get? hvalue)
    obtain ⟨kept, hkept, hsame⟩ := hrenamed.exists_get?_of_mem hplace
    exact ⟨value, kept, hvalue, hkept, hsame.symm⟩
  · intro hinj
    have hvariables : p.variableNames = p.mentions.foldl addName [] :=
      collectVariables_eq_foldl p []
    refine p.renamedRun hinj ?_ subject journal
    intro name hname
    rw [hvariables]
    exact mem_foldl_addName.mpr (.inr hname)

/-- Two zeros of different signs under one name: the first of them is kept for both variables. With
its variables kept apart, a pattern is still declined because of one of them. -/
theorem rename_matches_one_name :
    let zero := Value.float ⟨0⟩
    let minusZero := Value.float ⟨0x8000000000000000⟩
    let pair : Pattern Unit Value := Value.tuplePattern [.var "x", .var "y"]
    let twice : Pattern Unit Value := Value.tuplePattern [.var "x", .aliased "y" (.var "x")]
    let numbered := fun name : String => name ++ "0"
    ((pair.rename fun _ => "z").matchSubject (.tuple [zero, minusZero])).runFrom ⟨(), #[]⟩ =
        (.ok (some (.singleton "z" zero)), ⟨(), #[]⟩) ∧
      (∃ b, (pair.matchSubject (.tuple [zero, minusZero])).runFrom ⟨(), #[]⟩ =
          (.ok (some b), ⟨(), #[]⟩) ∧
        ∃ value, b.get? "y" = some value ∧ SameOrEqual value zero) ∧
      Set.InjOn numbered {name | name ∈ twice.variableNames} ∧
      RenamedRun numbered (.ok none, ⟨(), #[.unequalBindings "tuple" "x"]⟩)
        (((twice.rename numbered).matchSubject (.tuple [.unit, zero])).runFrom ⟨(), #[]⟩) := by
  intro zero minusZero pair twice numbered
  have hrenamed : ((pair.rename fun _ => "z").matchSubject (.tuple [zero, minusZero])).runFrom
      ⟨(), #[]⟩ = (.ok (some (.singleton "z" zero)), ⟨(), #[]⟩) := rfl
  have hinj : Set.InjOn numbered {name | name ∈ twice.variableNames} :=
    fun _ _ _ _ h => (String.append_left_inj _).mp h
  obtain ⟨b, hmatch, hvalues⟩ := (rename_matches pair _ _ _).1 _ _ hrenamed
  obtain ⟨value, kept, hvalue, hkept, hsame⟩ := hvalues "y" (by decide)
  obtain rfl : zero = kept := Option.some.inj hkept
  have hruns := (rename_matches twice numbered (.tuple [.unit, zero]) ⟨(), #[]⟩).2 hinj
  exact ⟨hrenamed, ⟨b, hmatch, value, hvalue, hsame⟩, hinj, hruns⟩

end Pattern

end GuardedRules
